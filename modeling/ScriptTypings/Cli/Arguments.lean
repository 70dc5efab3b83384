/-! # Command-line arguments

Arguments are read from left to right and the first error counts. A value that stands in an
argument of its own is settled only when the next known option is met, or at the end; until then an
unknown argument is the first error. -/

namespace ScriptTypings.Cli

structure Arguments where
  input : String := "."
  output : String := "."
  excludeDirs : List String := []
  stdout : Bool := false
  debugClass : Option String := none
  verbose : Nat := 0
  quiet : Bool := false
  deriving DecidableEq, Repr, Inhabited

/-- Why arguments are not accepted. Asking for help or for the version ends the reading too. -/
inductive ArgumentError where
  | unknownArgument
  | invalidValue
  | tooManyValues
  | argumentConflict
  | displayHelp
  | displayVersion
  deriving DecidableEq, Repr, Inhabited

/-- The name and the version of the program. -/
def versionText : String := "godot2ts 0.1.0\n"

/-- Options that take a value. -/
inductive ValueOption where
  | input
  | output
  | excludeDir
  | debugClass
  deriving DecidableEq, Repr, Inhabited

/-- Options without a value. -/
inductive Flag where
  | stdout
  | verbose
  | quiet
  | help
  | version
  deriving DecidableEq, Repr, Inhabited

inductive Switch where
  | value (option : ValueOption)
  | flag (flag : Flag)
  deriving DecidableEq, Repr, Inhabited

def longSwitch : String → Option Switch
  | "input" => some (.value .input)
  | "output" => some (.value .output)
  | "exclude-dir" => some (.value .excludeDir)
  | "debug-class" => some (.value .debugClass)
  | "stdout" => some (.flag .stdout)
  | "verbose" => some (.flag .verbose)
  | "quiet" => some (.flag .quiet)
  | "help" => some (.flag .help)
  | "version" => some (.flag .version)
  | _ => none

def shortSwitch : Char → Option Switch
  | 'i' => some (.value .input)
  | 'o' => some (.value .output)
  | 'v' => some (.flag .verbose)
  | 'q' => some (.flag .quiet)
  | 'h' => some (.flag .help)
  | 'V' => some (.flag .version)
  | _ => none

/-- Counting verbosity stops here. -/
def verbosityLimit : Nat := 255

/-- What has been read so far. -/
structure Reading where
  input : Option String := none
  output : Option String := none
  excludeDirs : List String := []
  stdout : Bool := false
  debugClass : Option String := none
  verbose : Nat := 0
  quiet : Bool := false
  /-- An option that is not settled yet, with its value if one was met. -/
  pending : Option (ValueOption × Option String) := none
  deriving DecidableEq, Repr, Inhabited

namespace Reading

/-- Only `--exclude-dir` may be repeated. The directories of a run are never empty. -/
def giveValue (r : Reading) (option : ValueOption) (value : String) :
    Except ArgumentError Reading :=
  match option with
  | .input =>
      if r.input.isSome then .error .argumentConflict
      else if value = "" then .error .invalidValue
      else .ok { r with input := some value }
  | .output =>
      if r.output.isSome then .error .argumentConflict
      else if value = "" then .error .invalidValue
      else .ok { r with output := some value }
  | .excludeDir => .ok { r with excludeDirs := r.excludeDirs ++ [value] }
  | .debugClass =>
      if r.debugClass.isSome then .error .argumentConflict
      else .ok { r with debugClass := some value }

/-- Settles the pending option; one without a value is an error. -/
def settle (r : Reading) : Except ArgumentError Reading :=
  match r.pending with
  | none => .ok r
  | some (_, none) => .error .invalidValue
  | some (option, some value) => ({ r with pending := none }).giveValue option value

/-- An option whose value is part of its argument. -/
def attach (r : Reading) (option : ValueOption) (value : String) :
    Except ArgumentError Reading := do
  (← r.settle).giveValue option value

/-- An option that waits for its value. -/
def await (r : Reading) (option : ValueOption) : Except ArgumentError Reading := do
  return { ← r.settle with pending := some (option, none) }

def raise (r : Reading) (flag : Flag) : Except ArgumentError Reading := do
  let r ← r.settle
  match flag with
  | .stdout => if r.stdout then throw .argumentConflict else return { r with stdout := true }
  | .quiet => if r.quiet then throw .argumentConflict else return { r with quiet := true }
  | .verbose => return { r with verbose := min (r.verbose + 1) verbosityLimit }
  | .help => throw .displayHelp
  | .version => throw .displayVersion

/-- A long option, from behind its two dashes. What follows the first `=` is its value. -/
def readLong (r : Reading) (text : List Char) : Except ArgumentError Reading :=
  let name := String.ofList (text.takeWhile (· ≠ '='))
  match longSwitch name, text.dropWhile (· ≠ '=') with
  | none, _ => .error .unknownArgument
  | some (.value option), [] => r.await option
  | some (.value option), _ :: value => r.attach option (String.ofList value)
  | some (.flag flag), [] => r.raise flag
  | some (.flag _), _ :: _ => .error .tooManyValues

/-- Short options in one argument. The rest behind one that takes a value is its value, without a
leading `=`. -/
def readShort (r : Reading) : List Char → Except ArgumentError Reading
  | [] => .ok r
  | c :: rest =>
      match shortSwitch c with
      | none => .error .unknownArgument
      | some (.flag flag) => do readShort (← r.raise flag) rest
      | some (.value option) =>
          match rest with
          | [] => r.await option
          | '=' :: value => r.attach option (String.ofList value)
          | value => r.attach option (String.ofList value)

/-- An argument that is no option: the value that the pending option waits for, or an error. -/
def readPlain (r : Reading) (text : String) : Except ArgumentError Reading :=
  match r.pending with
  | some (option, none) => .ok { r with pending := some (option, some text) }
  | _ => .error .unknownArgument

/-- Reads all arguments. Behind `--` nothing is an option, and nothing is expected there. -/
def readAll (r : Reading) : List String → Except ArgumentError Reading
  | [] => r.settle
  | text :: rest =>
      match text.toList with
      | ['-', '-'] => if rest = [] then r.settle else .error .unknownArgument
      | '-' :: '-' :: long => do readAll (← r.readLong long) rest
      | '-' :: c :: short => do readAll (← r.readShort (c :: short)) rest
      | _ => do readAll (← r.readPlain text) rest

/-- Silence and verbosity exclude each other. -/
def finish (r : Reading) : Except ArgumentError Arguments :=
  if r.quiet && 0 < r.verbose then .error .argumentConflict
  else .ok {
    input := r.input.getD "."
    output := r.output.getD "."
    excludeDirs := r.excludeDirs
    stdout := r.stdout
    debugClass := r.debugClass
    verbose := r.verbose
    quiet := r.quiet }

end Reading

def Arguments.parse (texts : List String) : Except ArgumentError Arguments := do
  (← ({} : Reading).readAll texts).finish

end ScriptTypings.Cli
