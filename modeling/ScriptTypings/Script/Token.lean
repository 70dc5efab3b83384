import ScriptTypings.Text.Hexadecimal

/-! # Tokens of scripts

Words, numbers, node paths and signs are read as far as they go. Layout marks and the parts of
strings have rules of their own. A word is a keyword only where the grammar expects that keyword.
-/

namespace ScriptTypings.Script

inductive Token where
  /-- The end of a line where a statement may end. -/
  | newline
  | indent
  | dedent
  /-- The end of a body before a closing bracket or a comma. -/
  | bodyEnd
  | stringStart
  | stringText
  | stringEnd
  | word
  | comment
  | escape
  | float
  | integer
  | nodePath
  | nodeGetter
  | literal (text : String)
  deriving DecidableEq, Repr, Inhabited

/-- The grammar name of a token that is a named node. -/
def Token.grammarName? : Token → Option String
  | .comment => some "comment"
  | .escape => some "escape_sequence"
  | .float => some "float"
  | .integer => some "integer"
  | .nodePath => some "node_path"
  | .nodeGetter => some "get_node"
  | _ => none

def isWordStart (c : Char) : Bool :=
  c.isAlpha || c = '_'

def isWordChar (c : Char) : Bool :=
  c.isAlphanum || c = '_'

/-- The word at the start of a text. -/
def wordAhead (cs : List Char) : Option String :=
  if cs.head?.any isWordStart then some (String.ofList (cs.takeWhile isWordChar)) else none

def Token.isKeyword : Token → Bool
  | .literal text => text.toList.head?.any isWordStart
  | _ => false

/-! ## Numbers -/

/-- The length of a run of digits in which single underscores may stand behind digits. -/
def digitsLength : List Char → Nat
  | [] => 0
  | c :: '_' :: rest => if c.isDigit then digitsLength rest + 2 else 0
  | c :: rest => if c.isDigit then digitsLength rest + 1 else 0

/-- The length of a run of digits in which single underscores may stand before digits. -/
def groupedLength (isDigit : Char → Bool) : List Char → Nat
  | [] => 0
  | '_' :: d :: rest => if isDigit d then groupedLength isDigit rest + 2 else 0
  | c :: rest => if isDigit c then groupedLength isDigit rest + 1 else 0

/-- The length of an exponent with its mark and sign; zero if there is none. -/
def exponentLength : List Char → Nat
  | [] => 0
  | mark :: rest =>
      if mark = 'e' || mark = 'E' then
        let sign :=
          match rest with
          | c :: _ => if c = '+' || c = '-' then 1 else 0
          | [] => 0
        let digits := digitsLength (rest.drop sign)
        if digits = 0 then 0 else 1 + sign + digits
      else 0

/-- The length of a number with a base mark such as `0x`; zero if there is none. -/
def basedLength : List Char → Nat
  | '0' :: mark :: rest =>
      let isDigit : Char → Bool :=
        if mark = 'x' || mark = 'X' then Text.isHexDigit
        else if mark = 'o' || mark = 'O' then fun c => '0' ≤ c && c ≤ '7'
        else if mark = 'b' || mark = 'B' then fun c => c = '0' || c = '1'
        else fun _ => false
      let digits := groupedLength isDigit rest
      if digits = 0 then 0 else digits + 2
  | _ => 0

def integerLength (cs : List Char) : Nat :=
  max (basedLength cs) (digitsLength cs)

/-- The length of a number with a dot or an exponent. Digits stand on one side of the dot at
least. -/
def floatLength (cs : List Char) : Nat :=
  let whole := digitsLength cs
  match cs.drop whole with
  | '.' :: rest =>
      let fraction := digitsLength rest
      if whole = 0 ∧ fraction = 0 then 0
      else whole + 1 + fraction + exponentLength (rest.drop fraction)
  | rest =>
      if whole = 0 then 0
      else
        let exponent := exponentLength rest
        if exponent = 0 then 0 else whole + exponent

/-! ## Paths and escapes -/

def isPathChar (c : Char) : Bool :=
  c.isAlphanum || c ∈ ['_', '/', '-', ' ', '.']

/-- The length of a quoted node path, marks included. -/
def quotedPathLength : List Char → Nat
  | mark :: rest =>
      if mark = '"' || mark = '\'' then
        let inner := rest.takeWhile isPathChar
        if (rest.drop inner.length).head? = some mark then inner.length + 2 else 0
      else 0
  | [] => 0

/-- The length of a plain node path: a word with slashes. -/
def plainPathLength : List Char → Nat
  | c :: rest =>
      if isWordStart c then (rest.takeWhile fun d => isWordChar d || d = '/').length + 1 else 0
  | [] => 0

/-- The length of a sign and what has to follow it. -/
def signedLength (signs : List Char) (inner : List Char → Nat) : List Char → Nat
  | c :: rest => if c ∈ signs ∧ 0 < inner rest then inner rest + 1 else 0
  | [] => 0

/-- The length of the digits that an escape needs, if they are all there. -/
def exactDigits (count : Nat) (isDigit : Char → Bool) (cs : List Char) : Option Nat :=
  let digits := (cs.take count).takeWhile isDigit
  if digits.length = count then some count else none

/-- The length of an escape in a string. The marks `u`, `x` and `o` need their digits; `U` is an
escape with and without them. -/
def escapeLength : List Char → Nat
  | '\\' :: mark :: rest =>
      let numbered : Option Nat :=
        if mark = 'u' then exactDigits 4 Text.isHexDigit rest
        else if mark = 'x' then exactDigits 2 Text.isHexDigit rest
        else if mark = 'o' then exactDigits 3 Char.isDigit rest
        else some ((if mark = 'U' then exactDigits 8 Text.isHexDigit rest else none).getD 0)
      (numbered.map (· + 2)).getD 0
  | _ => 0

/-- The length of a token at the start of a text; zero if it is not there. -/
def Token.lengthAhead (t : Token) (cs : List Char) : Nat :=
  match t with
  | .comment => if cs.head? = some '#' then (cs.takeWhile (· ≠ '\n')).length else 0
  | .escape => escapeLength cs
  | .float => floatLength cs
  | .integer => integerLength cs
  | .nodePath => signedLength ['@', '^'] quotedPathLength cs
  | .nodeGetter => signedLength ['$', '%'] (fun r => max (quotedPathLength r) (plainPathLength r)) cs
  | .literal text =>
      if !t.isKeyword && text.toList.isPrefixOf cs then text.length else 0
  | _ => 0

/-! ## Reading -/

/-- What stands between tokens: blanks, line breaks and some invisible characters. -/
def isSpace (c : Char) : Bool :=
  c = ' ' || ('\t' ≤ c && c ≤ '\r') || c = '\ufeff' || c = '\u2060' || c = '\u200b'

/-- The first place behind what stands between tokens, and the text from there. A backslash joins
the next line where no escape is expected. -/
def skipSpace (joins : Bool) (offset : Nat) : List Char → Nat × List Char
  | [] => (offset, [])
  | '\\' :: '\n' :: rest =>
      if joins then skipSpace joins (offset + 2) rest else (offset, '\\' :: '\n' :: rest)
  | c :: rest => if isSpace c then skipSpace joins (offset + 1) rest else (offset, c :: rest)

/-- The longest of the expected tokens at the start of a text, the first of equally long ones. -/
def longestAhead (expected : List Token) (cs : List Char) : Option (Token × Nat) :=
  expected.foldl (fun best t =>
    let n := t.lengthAhead cs
    if (best.map Prod.snd).getD 0 < n then some (t, n) else best) none

/-- The token at the start of a text and its length. A comment may stand everywhere. -/
def tokenAhead (expected : List Token) (cs : List Char) : Option (Token × Nat) :=
  match wordAhead cs with
  | some w =>
      let t := Token.literal w
      some (if t ∈ expected then t else .word, w.length)
  | none => longestAhead (.comment :: expected) cs

/-- The text is over, up to a backslash that has no line left to join. -/
def isOver (cs : List Char) : Bool :=
  cs = [] || cs = ['\\']

end ScriptTypings.Script
