import ScriptTypings.Text.Pieces

/-! # Resource paths

The engine names a file of a project by `res://` and its path below the project's root. -/

namespace ScriptTypings

/-- A path as its components from the root down. -/
structure ResourcePath where
  components : List String
  deriving DecidableEq, Repr, Inhabited

namespace ResourcePath

def scheme : String := "res://"

/-- Empty pieces and the steps `.` and `..` are no components. -/
def isComponent (piece : String) : Bool :=
  piece ≠ "" ∧ piece ≠ "." ∧ piece ≠ ".."

def ofPath (path : String) : ResourcePath :=
  ⟨(Text.piecesOf '/' path).filter isComponent⟩

def toString (p : ResourcePath) : String :=
  scheme ++ String.intercalate "/" p.components

/-- A file name without its extension: the part before the last dot, where a dot at the very start
belongs to the name. -/
def stemOfName (name : List Char) : List Char :=
  match name.reverse.dropWhile (· ≠ '.') with
  | [] => name
  | [_] => name
  | _ :: before => before.reverse

/-- The last component without its extension; empty for the root. -/
def stem (p : ResourcePath) : String :=
  match p.components.getLast? with
  | none => ""
  | some name => String.ofList (stemOfName name.toList)

end ResourcePath

end ScriptTypings
