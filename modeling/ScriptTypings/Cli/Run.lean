import ScriptTypings.Cli.Arguments
import ScriptTypings.Cli.LogFilter
import ScriptTypings.Document
import ScriptTypings.File.Disk
import ScriptTypings.Scan
import ScriptTypings.Text.Terminal

/-! # Runs

A run scans the input directory and then does one of three things: it shows the records of a class,
prints the generated file, or saves it. `planWith` decides what to do from the input directory
alone; `runWith` does it on a disk. Both leave open what reads the scripts; `plan` and `run` read
them by their grammar. -/

namespace ScriptTypings.Cli

/-- Directory names that are excluded unless others are given. -/
def defaultExcludes : List String := ["**/node_modules", "**/.godot"]

/-- The name of the generated file. -/
def outputFileName : String := "generated.ts"

def Arguments.excludePatterns (args : Arguments) : List String :=
  if args.excludeDirs = [] then defaultExcludes else args.excludeDirs

/-- The least urgent level that the arguments let through. -/
def Arguments.level (args : Arguments) : Level :=
  if args.quiet then .error
  else
    match args.verbose with
    | 0 => .warn
    | 1 => .info
    | 2 => .debug
    | _ => .trace

/-- What a run says besides its output: log events, and lines that are no log. -/
inductive Notice where
  | event (e : Event)
  | text (lines : String)
  deriving DecidableEq, Repr, Inhabited

/-- What is left to do once the input is scanned. -/
inductive Task where
  | stop (exitCode : Nat)
  | print (text : String)
  | save (text : String)
  deriving DecidableEq, Repr, Inhabited

structure Plan where
  notices : List Notice
  task : Task
  deriving Inhabited

/-- The class records whose interface has a given name, with their scripts. -/
def matchingClasses (name : String) (scripts : List ScriptClasses) :
    List (ResourcePath × ClassRecord) :=
  scripts.flatMap fun s =>
    (s.classes.filter fun c => interfaceName s.path c = name).map fun c => (s.path, c)

/-- The debug view of the classes of a name. -/
def debugNotices (name : String) (scripts : List ScriptClasses) : List Notice :=
  match matchingClasses name scripts with
  | [] => [.event (.noClass name)]
  | found => found.map fun (path, c) =>
      .text (path.toString ++ ":\n" ++ c.toDocument.print 0 ++ "\n")

/-- What a run decides. The input is a project, or the name of something that is no directory. -/
def planWith (read : Reader) (args : Arguments) : Except String Project → Plan
  | .error path => ⟨[.event (.failed (.notADirectory path))], .stop 2⟩
  | .ok project =>
      let report := project.scanWith read args.excludePatterns
      let scripts := report.scriptClasses
      let counts := Event.extracted report.classCount report.scripts.length report.failures.length
      let scanned := (report.log ++ [counts]).map Notice.event
      match args.debugClass with
      | some name => ⟨scanned ++ debugNotices name scripts, .stop 0⟩
      | none =>
          let notices := scanned ++ (mappingLog scripts).map .event
          ⟨notices, if args.stdout then .print (generate scripts) else .save (generate scripts)⟩

def plan (args : Arguments) (input : Except String Project) : Plan :=
  planWith Script.parse args input

/-- What a run leaves behind. -/
structure Outcome where
  exitCode : Nat
  stdout : String
  notices : List Notice
  disk : File.Disk
  deriving Inhabited

/-- The project at a path of a disk, or the name under which the path is reported. -/
def openProject (disk : File.Disk) (path : String) : Except String Project :=
  match disk.directory? path with
  | some (root, entries) => .ok ⟨root, entries⟩
  | none => .error ((disk.canonical? path).getD path)

/-- A run with the given arguments, whose paths start at the top of the disk. -/
def runWith (read : Reader) (args : Arguments) (disk : File.Disk) : Outcome :=
  let p := planWith read args (openProject disk args.input)
  match p.task with
  | .stop exitCode => ⟨exitCode, "", p.notices, disk⟩
  | .print text => ⟨0, text, p.notices ++ [.event .finished], disk⟩
  | .save text =>
      match disk.save args.output outputFileName text with
      | (written, .ok path) =>
          ⟨0, "", p.notices ++ [.event (.wrote (File.shown path)), .event .finished], written⟩
      | (written, .error cause) => ⟨1, "", p.notices ++ [.event (.failed cause)], written⟩

def run (args : Arguments) (disk : File.Disk) : Outcome :=
  runWith Script.parse args disk

/-! ## Standard error -/

/-- The filter of the arguments with what the environment adds, and the complaints about the
latter. -/
def logFilter (args : Arguments) (environment : Option String) : LogFilter × String :=
  let filter : LogFilter := { directives := [⟨none, args.level.rank⟩] }
  match environment with
  | none => (filter, "")
  | some text =>
      let (filter, complaints) := filter.addText text
      (filter, String.join (complaints.map fun c => c.message ++ "\n"))

/-- A log line: the level in brackets, five wide, and the message, whose further lines are
indented. Escapes for a terminal are left out. -/
def logLine (elapsed : String) (e : Event) : String :=
  let level := e.level.name ++ String.ofList (List.replicate (5 - e.level.name.length) ' ')
  let message := (e.message elapsed).toList.flatMap fun c =>
    if c = '\n' then ['\n', ' ', ' ', ' ', ' '] else [c]
  Text.withoutEscapes ("[" ++ level ++ "] " ++ String.ofList message ++ "\n")

def Notice.print (filter : LogFilter) (elapsed : String) : Notice → String
  | .event e => if filter.passes elapsed e then logLine elapsed e else ""
  | .text lines => lines

/-- All that a run writes to standard error. -/
def stderrText (filter : LogFilter) (elapsed : String) (notices : List Notice) : String :=
  String.join (notices.map (Notice.print filter elapsed))

end ScriptTypings.Cli
