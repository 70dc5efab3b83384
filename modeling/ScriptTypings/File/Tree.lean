/-! # File trees

A directory as discovery sees it: links are replaced by what they point to. The entries of a
directory stand in the order in which they are listed. -/

namespace ScriptTypings.File

inductive Tree where
  | file (contents : ByteArray)
  | directory (entries : List (String × Tree))
  deriving Inhabited

namespace Tree

def isDirectory : Tree → Bool
  | file _ => false
  | directory _ => true

end Tree

end ScriptTypings.File
