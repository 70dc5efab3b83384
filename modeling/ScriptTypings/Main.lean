import ScriptTypings.Cli.Elapsed
import ScriptTypings.Cli.Help
import ScriptTypings.Cli.Run

/-! # The command line

Reads the input directory, lets `Cli.plan` decide, and does what is left to do. -/

namespace ScriptTypings.Cli

/-- The variable of the environment that changes the log filter. -/
def logVariable : String := "GD2TS_LOG"

/-- What a path leads to, links followed; `none` where nothing can be read. -/
partial def readTree (path : String) : IO (Option File.Tree) := do
  let here : IO.FS.DirEntry := { root := path, fileName := "" }
  if ← here.root.isDir then
    let mut entries := []
    for e in ← here.root.readDir do
      if let some tree ← readTree e.path.toString then
        entries := (e.fileName, tree) :: entries
    return some (.directory entries.reverse)
  else
    try return some (.file (← IO.FS.readBinFile path))
    catch _ => return none

/-- The project at a path, by its canonical name, or the name of what is no directory. -/
def readProject (path : String) : IO (Except String Project) := do
  let name ← try (·.toString) <$> IO.FS.realPath path catch _ => pure path
  match ← readTree name with
  | some (.directory entries) => return .ok ⟨name, entries⟩
  | _ => return .error name

/-- The fault behind a refusal of the system, if it is one of those that are reported. -/
def faultOf? : IO.Error → Option Fault
  | .noFileOrDirectory .. | .noSuchThing .. => some .noEntry
  | .alreadyExists .. => some .alreadyExists
  | .inappropriateType _ 21 _ => some .isDirectory
  | .inappropriateType .. => some .notDirectory
  | .invalidArgument _ 36 _ => some .nameTooLong
  | .invalidArgument _ 40 _ => some .tooManyLinks
  | _ => none

/-- Makes a directory and, where they are missing, those above it. -/
partial def makeDirectories (directory : String) : IO Unit := do
  let here : IO.FS.DirEntry := { root := directory, fileName := "" }
  if directory = "" then return
  try IO.FS.createDir directory
  catch e =>
    if faultOf? e = some .noEntry then
      makeDirectories ((here.root.parent.map (·.toString)).getD "")
      try IO.FS.createDir directory
      catch e => unless ← here.root.isDir do throw e
    else unless ← here.root.isDir do throw e

/-- Saves the generated file; refusals that are not reported pass through. -/
def saveFile (directory text : String) : IO (Except Failure String) := do
  let path := File.join directory outputFileName
  try
    makeDirectories directory
    IO.FS.writeFile path text
    return .ok path
  catch e =>
    match faultOf? e with
    | some fault => return .error (.write path fault)
    | none => throw e

def printNotices (filter : LogFilter) (started : Nat) (notices : List Notice) : IO Unit := do
  let elapsed := elapsedText ((← IO.monoNanosNow) - started)
  (← IO.getStderr).putStr (stderrText filter elapsed notices)

def runReal (args : Arguments) : IO UInt32 := do
  let started ← IO.monoNanosNow
  let (filter, complaints) := logFilter args (← IO.getEnv logVariable)
  (← IO.getStderr).putStr complaints
  let p := plan args (← readProject args.input)
  printNotices filter started p.notices
  match p.task with
  | .stop exitCode => return exitCode.toUInt32
  | .print text =>
      (← IO.getStdout).putStr text
      printNotices filter started [.event .finished]
      return 0
  | .save text =>
      match ← saveFile args.output text with
      | .ok path =>
          printNotices filter started [.event (.wrote (File.shown path)), .event .finished]
          return 0
      | .error cause =>
          printNotices filter started [.event (.failed cause)]
          return 1

end ScriptTypings.Cli

open ScriptTypings.Cli in
def main (texts : List String) : IO UInt32 := do
  match Arguments.parse texts with
  | .ok args => runReal args
  | .error e =>
      (← IO.getStdout).putStr e.stdoutText
      (← IO.getStderr).putStr e.stderrText
      return e.exitCode.toUInt32
