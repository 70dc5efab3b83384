import ScriptTypings.Failure
import ScriptTypings.ResourcePath
import ScriptTypings.Text.Quoted

/-! # Log events

Each step of a run reports events. An event has a level, belongs to a part of the program, and is
worded by `message` only. -/

namespace ScriptTypings

/-- Levels from the most to the least urgent. -/
inductive Level where
  | error
  | warn
  | info
  | debug
  | trace
  deriving DecidableEq, Repr, Inhabited

/-- The number of a level; a smaller one is more urgent. -/
def Level.rank : Level → Nat
  | .error => 1
  | .warn => 2
  | .info => 3
  | .debug => 4
  | .trace => 5

def Level.name : Level → String
  | .error => "ERROR"
  | .warn => "WARN"
  | .info => "INFO"
  | .debug => "DEBUG"
  | .trace => "TRACE"

/-- The parts of the program that report events. -/
inductive Part where
  | commandLine
  | scan
  | discovery
  | extraction
  | mapping
  deriving DecidableEq, Repr, Inhabited

/-- The module path under which a log filter selects a part. -/
def Part.modulePath : Part → String
  | .commandLine => "gd2ts::cli"
  | .scan => "gd2ts::scanner::scan"
  | .discovery => "gd2ts::scanner::files"
  | .extraction => "gd2ts::scanner::extract"
  | .mapping => "gd2ts::codegen::mapper"

inductive Event where
  | walking (root : String) (excluded : List String)
  | walked (directory : String) (subdirectories : Nat)
  | excluded (directory : String)
  | found (scripts : Nat) (root : String)
  | syntaxErrors (path : String)
  | scanned (path : ResourcePath) (classes methods : Nat)
  | skipped (path : String) (cause : Failure)
  | innerClass (name : String)
  | classNameIgnored (ignored kept : String)
  | interfaceRepeated (name : String)
  | extracted (classes scripts failures : Nat)
  | failed (cause : Failure)
  | noClass (name : String)
  | wrote (path : String)
  | finished
  deriving DecidableEq, Repr, Inhabited

namespace Event

def level : Event → Level
  | failed _ => .error
  | syntaxErrors _ | skipped _ _ | classNameIgnored _ _ | interfaceRepeated _ | noClass _ => .warn
  | found _ _ | extracted _ _ _ | wrote _ | finished => .info
  | scanned _ _ _ | innerClass _ => .debug
  | walking _ _ | walked _ _ | excluded _ => .trace

def part : Event → Part
  | walking _ _ | walked _ _ | excluded _ => .discovery
  | found _ _ | syntaxErrors _ | scanned _ _ _ | skipped _ _ => .scan
  | innerClass _ | classNameIgnored _ _ => .extraction
  | interfaceRepeated _ => .mapping
  | extracted _ _ _ | failed _ | noClass _ | wrote _ | finished => .commandLine

/-- The wording of an event. `elapsed` is the time a run took, as it is shown at its end. -/
def message (elapsed : String) : Event → String
  | walking root names =>
      let quoted := String.intercalate ", " (names.map Text.quote)
      s!"walking {root} excluding \x7b{quoted}\x7d"
  | walked directory subdirectories => s!"walked {directory} ({subdirectories} subdirectories)"
  | excluded directory => s!"excluded {directory}"
  | found scripts root => s!"found {scripts} script(s) under {root}"
  | syntaxErrors path => s!"{path}: syntax errors, extracted members may be incomplete"
  | scanned path classes methods =>
      s!"{path.toString}: {classes} class(es), {methods} function(s)"
  | skipped path cause => s!"skipping {path}: {cause.message}"
  | innerClass name => s!"skipping inner class {name}"
  | classNameIgnored ignored kept =>
      s!"ignoring class_name {Text.quote ignored}: script already declares {Text.quote kept}"
  | interfaceRepeated name =>
      s!"interface {name} is declared by more than one script; declarations will merge"
  | extracted classes scripts failures =>
      s!"extracted {classes} class(es) from {scripts} script(s); {failures} skipped"
  | failed cause => cause.message
  | noClass name => s!"no class found for '{name}'"
  | wrote path => s!"wrote {path}"
  | finished => s!"generation took {elapsed}"

end Event

end ScriptTypings
