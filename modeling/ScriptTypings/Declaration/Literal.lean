/-! # String literals

Method names and look-up keys are printed as string literals. Quotes, backslashes and line feeds
are escaped; every other character stands for itself. -/

namespace ScriptTypings.Literal

def encodeChar (c : Char) : List Char :=
  match c with
  | '"' => ['\\', '"']
  | '\\' => ['\\', '\\']
  | '\n' => ['\\', 'n']
  | c => [c]

/-- The literal of a text, with its quotes. -/
def encode (s : String) : String :=
  String.ofList ('"' :: s.toList.flatMap encodeChar ++ ['"'])

end ScriptTypings.Literal
