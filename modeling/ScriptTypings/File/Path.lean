import ScriptTypings.Text.Pieces

/-! # Paths

A path is written with slashes. Walking it takes its steps one by one; empty steps are dropped. -/

namespace ScriptTypings.File

/-- The steps of a path. The steps `.` and `..` are kept. -/
def steps (path : String) : List String :=
  (Text.piecesOf '/' path).filter (· ≠ "")

/-- The steps of a path with a slash at its end as an empty last step, which asks for a directory. -/
def stepsWithSlash (path : String) : List String :=
  if path.toList.getLast? = some '/' then steps path ++ [""] else steps path

/-- A name below a directory. The directory is kept as it is written. -/
def join (directory name : String) : String :=
  if directory = "" then name
  else if directory.toList.getLast? = some '/' then directory ++ name
  else directory ++ "/" ++ name

/-- The path of some steps below a directory. -/
def joinAll (directory : String) (names : List String) : String :=
  names.foldl join directory

/-- The order of paths, given by their steps: the first steps that differ decide, and a path comes
before all below it. -/
def pathLe : List String → List String → Bool
  | [], _ => true
  | _ :: _, [] => false
  | a :: restA, b :: restB => if a = b then pathLe restA restB else decide (a ≤ b)

/-- Messages show paths as they are. -/
def shown (path : String) : String := path

end ScriptTypings.File
