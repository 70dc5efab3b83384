/-! # Failures

The ways in which reading a project or writing its output can fail. A failure is a cause with the
path it concerns; `message` gives its wording. -/

namespace ScriptTypings

/-- Why the file system refuses an operation on a path. -/
inductive Fault where
  | noEntry
  | alreadyExists
  | notDirectory
  | isDirectory
  | nameTooLong
  | tooManyLinks
  /-- A NUL byte ends a path before its time. -/
  | nulByte
  deriving DecidableEq, Repr, Inhabited

def Fault.message : Fault → String
  | .noEntry => "No such file or directory (os error 2)"
  | .alreadyExists => "File exists (os error 17)"
  | .notDirectory => "Not a directory (os error 20)"
  | .isDirectory => "Is a directory (os error 21)"
  | .nameTooLong => "File name too long (os error 36)"
  | .tooManyLinks => "Too many levels of symbolic links (os error 40)"
  | .nulByte => "file name contained an unexpected NUL byte"

/-- A failed operation and the path it was tried on. -/
inductive Failure where
  | notADirectory (path : String)
  /-- The bytes of the file are no UTF-8 text. -/
  | notText (path : String)
  | write (path : String) (cause : Fault)
  deriving DecidableEq, Repr, Inhabited

def Failure.message : Failure → String
  | .notADirectory path => s!"not a directory: {path}"
  | .notText path => s!"failed to read {path}: stream did not contain valid UTF-8"
  | .write path cause => s!"failed to write {path}: {cause.message}"

end ScriptTypings
