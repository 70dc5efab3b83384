import ScriptTypings.Record

/-! # Record documents

The debug view prints a class record as an indented JSON document. Absent parts are left out. -/

namespace ScriptTypings

inductive Document where
  | text (s : String)
  | flag (b : Bool)
  | list (items : List Document)
  | record (items : List (String × Document))
  deriving Inhabited

namespace Document

/-- A character inside a JSON string. -/
def escapeChar (c : Char) : List Char :=
  match c with
  | '"' => ['\\', '"']
  | '\\' => ['\\', '\\']
  | '\x08' => ['\\', 'b']
  | '\x0c' => ['\\', 'f']
  | '\n' => ['\\', 'n']
  | '\r' => ['\\', 'r']
  | '\t' => ['\\', 't']
  | c =>
      if c.toNat < 0x20 then
        ['\\', 'u', '0', '0', Nat.digitChar (c.toNat / 16), Nat.digitChar (c.toNat % 16)]
      else [c]

def quoted (s : String) : String :=
  String.ofList ('"' :: s.toList.flatMap escapeChar ++ ['"'])

/-- Two blanks for each level. -/
def margin (depth : Nat) : String :=
  String.ofList (List.replicate (2 * depth) ' ')

/-- Lines in brackets, one item a line, at a depth. -/
def bracketed (opening closing : String) (depth : Nat) (items : List String) : String :=
  match items with
  | [] => opening ++ closing
  | items =>
      opening ++ "\n" ++
        String.intercalate ",\n" (items.map fun item => margin (depth + 1) ++ item) ++
        "\n" ++ margin depth ++ closing

mutual

def print (depth : Nat) : Document → String
  | text s => quoted s
  | flag b => if b then "true" else "false"
  | list items => bracketed "[" "]" depth (printItems (depth + 1) items)
  | record items => bracketed "\x7b" "\x7d" depth (printFields (depth + 1) items)

def printItems (depth : Nat) : List Document → List String
  | [] => []
  | item :: rest => print depth item :: printItems depth rest

def printFields (depth : Nat) : List (String × Document) → List String
  | [] => []
  | (name, item) :: rest =>
      (quoted name ++ ": " ++ print depth item) :: printFields depth rest

end

/-- A field that is left out where its text is absent. -/
def optional (name : String) (s : Option String) : List (String × Document) :=
  (s.map fun s => (name, text s)).toList

end Document

open Document

def Binding.documentFields (b : Binding) : List (String × Document) :=
  [("name", text b.name)] ++ optional "type" b.type ++ optional "defaultValue" b.defaultValue

def Binding.toDocument (b : Binding) : Document :=
  record b.documentFields

def Variable.toDocument (v : Variable) : Document :=
  record (v.documentFields ++ [("isPrivate", flag v.isPrivate)])

def Method.toDocument (m : Method) : Document :=
  record ([("name", text m.name)] ++ optional "returnType" m.returnType ++
    [("parameters", list (m.parameters.map Binding.toDocument))])

def ClassRecord.toDocument (c : ClassRecord) : Document :=
  record (optional "name" c.name ++ optional "extendsClass" c.extendsClass ++
    [("exports", list (c.exports.map Binding.toDocument)),
     ("variables", list (c.fields.map Variable.toDocument)),
     ("functions", list (c.methods.map Method.toDocument))])

end ScriptTypings
