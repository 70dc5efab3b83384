import ScriptTypings.Cli.Arguments

/-! # Help

What is printed instead of a run: help, the version, or why the arguments are not accepted. -/

namespace ScriptTypings.Cli

def helpText : String :=
  "Generate TypeScript declarations for the classes in a Godot GDScript project.

Usage: godot2ts [OPTIONS]

Options:
  -i, --input <DIR>         Directory scanned recursively for .gd files [default: .]
  -o, --output <DIR>        Directory the generated.ts file is written to [default: .]
      --exclude-dir <DIR>   Directory name (or **/name) to exclude from scan; can be repeated (default: **/node_modules, **/.godot)
      --stdout              Print the generated code to stdout instead of writing it
      --debug-class <NAME>  Debug mode: print the extracted record (JSON) of classes with this interface name
  -v, --verbose...          Verbose: -v = summary, -vv = every file, -vvv = directory traversal
  -q, --quiet               Only log errors
  -h, --help                Print help
  -V, --version             Print version
"

namespace ArgumentError

/-- Help and the version are asked for; all else is misuse. -/
def exitCode : ArgumentError → Nat
  | .displayHelp | .displayVersion => 0
  | _ => 2

def stdoutText : ArgumentError → String
  | .displayHelp => helpText
  | .displayVersion => versionText
  | _ => ""

def stderrText : ArgumentError → String
  | .unknownArgument => "error: unexpected argument found\n"
  | .invalidValue => "error: a value is required but none was supplied\n"
  | .tooManyValues => "error: unexpected value found\n"
  | .argumentConflict => "error: one or more arguments cannot be used together\n"
  | .displayHelp | .displayVersion => ""

end ArgumentError

end ScriptTypings.Cli
