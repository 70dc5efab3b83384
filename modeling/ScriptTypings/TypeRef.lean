import ScriptTypings.Text.Blank

/-! # Type references

The types that generated declarations mention, and the table that turns the written type of a
script into one of them. -/

namespace ScriptTypings

inductive TypeRef where
  | number
  | string
  | boolean
  | unknown
  | void
  | array (element : TypeRef)
  /-- A class of the engine, referred to through the engine's namespace. -/
  | engine (name : String)
  /-- A name declared in the generated file. -/
  | declared (name : String)
  | keyOf (name : String)
  | indexed (object index : String)
  deriving DecidableEq, Repr, Inhabited

namespace TypeRef

/-- A written type without surrounding blanks and without the element types in brackets. -/
def baseName (written : String) : String :=
  String.ofList (Text.trimEnd ((Text.trim written).toList.takeWhile (· ≠ '[')))

/-- The table of built-in types; every other name is a class of the engine. The names of literals
stand for the types of their values. -/
def ofBaseName : String → TypeRef
  | "" => unknown
  | "int" | "float" | "integer" => number
  | "String" | "StringName" | "string" => string
  | "bool" | "true" | "false" => boolean
  | "void" => void
  | "Array" | "array" => array unknown
  | name => engine name

def ofWritten (written : String) : TypeRef :=
  ofBaseName (baseName written)

/-- A parameter without a written type can be anything. -/
def ofParameter : Option String → TypeRef
  | none => unknown
  | some written => ofWritten written

/-- A function without a written return type returns nothing. -/
def ofReturn : Option String → TypeRef
  | none => void
  | some written => ofWritten written

end TypeRef

end ScriptTypings
