import ScriptTypings.Declaration.Basic
import ScriptTypings.Declaration.Literal

/-! # Printed declarations -/

namespace ScriptTypings

/-- The module the engine's types are imported from. -/
def engineModule : String := "godot"

/-- The name under which the generated file knows the engine. -/
def engineNamespace : String := "G"

namespace TypeRef

def print : TypeRef → String
  | number => "number"
  | string => "string"
  | boolean => "boolean"
  | unknown => "unknown"
  | void => "void"
  | array element => element.print ++ "[]"
  | engine name => engineNamespace ++ "." ++ name
  | declared name => name
  | keyOf name => "keyof " ++ name
  | indexed object index => object ++ "[" ++ index ++ "]"

end TypeRef

def Parameter.print (p : Parameter) : String :=
  p.name ++ ": " ++ p.type.print

/-- A method is called through `call`, whose first argument is the method's name. -/
def CallSignature.print (s : CallSignature) : String :=
  "    call(fn: " ++ Literal.encode s.method ++
    String.join (s.parameters.map fun p => ", " ++ p.print) ++ "): " ++ s.returns.print ++ ";\n"

def Interface.print (i : Interface) : String :=
  let base :=
    match i.base with
    | none => ""
    | some type => " extends " ++ type.print
  "interface " ++ i.name ++ base ++ " \x7b\n" ++ String.join (i.members.map CallSignature.print) ++
    "\x7d\n"

def LookupEntry.print (e : LookupEntry) : String :=
  "    " ++ Literal.encode e.key ++ ": " ++ e.type.print ++ ";\n"

def Lookup.print (l : Lookup) : String :=
  "type " ++ l.name ++ " = \x7b\n" ++ String.join (l.entries.map LookupEntry.print) ++ "\x7d;\n"

def Accessor.print (a : Accessor) : String :=
  "export function " ++ a.name ++ "<" ++ a.typeParameter ++ " extends " ++ a.bound.print ++ ">(" ++
    a.parameter.print ++ "): " ++ a.returns.print ++ " \x7b\n" ++
    "    return " ++ engineNamespace ++ ".ResourceLoader.load(" ++ a.parameter.name ++
    ").call(\"new\") as " ++ a.returns.print ++ ";\n\x7d\n"

def Declaration.print : Declaration → String
  | interface i => i.print
  | lookup l => l.print
  | accessor a => a.print

def printDeclarations (declarations : List Declaration) : String :=
  String.join (declarations.map Declaration.print)

/-- The lines at the top of every generated file. -/
def fileHeader : String :=
  "// THIS IS A GENERATED FILE. DO NOT EDIT MANUALLY.\n// Courtesy of Godot2TS.\n"

def importLine : String :=
  "import * as " ++ engineNamespace ++ " from " ++ Literal.encode engineModule ++ ";\n"

def printFile (declarations : List Declaration) : String :=
  fileHeader ++ "\n" ++ importLine ++ printDeclarations declarations

end ScriptTypings
