/-! # Identifiers of the generated file

Names of classes, files and parameters are arbitrary texts. They become identifiers by replacing
what an identifier cannot hold. -/

namespace ScriptTypings.Identifier

/-- Letters and digits of ASCII, the underscore and the dollar sign. -/
def isIdentifierChar (c : Char) : Bool :=
  c.isAlphanum || c = '_' || c = '$'

/-- Replaces each other character by an underscore, and puts one in front of a leading digit and
in place of an empty text. -/
def sanitizeChars (cs : List Char) : List Char :=
  match cs.map fun c => if isIdentifierChar c then c else '_' with
  | [] => ['_']
  | c :: rest => if c.isDigit then '_' :: c :: rest else c :: rest

def sanitize (s : String) : String :=
  String.ofList (sanitizeChars s.toList)

/-- Names a parameter cannot have: the first parameter of every signature, and the reserved words
of the generated language. -/
def reservedParameterNames : List String :=
  ["fn", "break", "case", "catch", "class", "const", "continue", "debugger", "default", "delete",
   "do", "else", "enum", "export", "extends", "false", "finally", "for", "function", "if",
   "implements", "import", "in", "instanceof", "interface", "let", "new", "null", "package",
   "private", "protected", "public", "return", "static", "super", "switch", "this", "throw",
   "true", "try", "typeof", "var", "void", "while", "with", "yield"]

/-- A reserved name gets an underscore at its end, any other is sanitized. -/
def parameterName (name : String) : String :=
  if name ∈ reservedParameterNames then name ++ "_" else sanitize name

end ScriptTypings.Identifier
