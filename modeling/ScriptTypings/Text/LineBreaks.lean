/-! # Line breaks

A script may start with a byte order mark and end its lines by LF, CR LF or CR. Reading drops one
mark and leaves LF as the only line break. -/

namespace ScriptTypings.Text

/-- The byte order mark. -/
def byteOrderMark : Char := '\uFEFF'

/-- Drops one byte order mark at the start. -/
def dropMark : List Char → List Char
  | [] => []
  | c :: rest => if c = byteOrderMark then rest else c :: rest

/-- Writes each CR LF pair as one LF. -/
def joinPairs : List Char → List Char
  | [] => []
  | [c] => [c]
  | c :: d :: rest =>
      if c = '\r' ∧ d = '\n' then '\n' :: joinPairs rest else c :: joinPairs (d :: rest)

/-- Writes each CR as one LF. -/
def replaceReturns (cs : List Char) : List Char :=
  cs.map fun c => if c = '\r' then '\n' else c

/-- The text of a script as it is parsed: no leading mark, LF between lines. A text without CR is
left as it is. In any other the pairs go first, so that a CR LF pair counts as one line break. -/
def normalize (s : String) : String :=
  let cs := dropMark s.toList
  if '\r' ∈ cs then String.ofList (replaceReturns (joinPairs cs)) else String.ofList cs

end ScriptTypings.Text
