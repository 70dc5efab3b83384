import ScriptTypings.Script.Token

/-! # Layout and strings

Line breaks, indentation and strings depend on what came before: on the indentations of the blocks
around, and on how the strings around were opened. A mark of the layout takes no text. It stands
right behind the token or comment before it, and only where the grammar expects it.

## Implementation notes

Indentations are kept in one byte. -/

namespace ScriptTypings.Script

/-- How a string was opened. -/
structure Quotes where
  mark : Char
  triple : Bool := false
  /-- No escapes. -/
  raw : Bool := false
  /-- Escapes for code points are plain text. -/
  bytes : Bool := false
  /-- Braces stand for values. -/
  format : Bool := false
  deriving DecidableEq, Repr, Inhabited

structure Layout where
  /-- The strings around, innermost first. -/
  quotes : List Quotes := []
  /-- The indentations of the blocks around, innermost first. -/
  indents : List Nat := []
  deriving DecidableEq, Repr, Inhabited

/-- A token with its place, the text behind it and the layout from there on. The end of the text is
no token. -/
structure Lexeme where
  token : Option Token
  start : Nat
  stop : Nat
  rest : List Char
  layout : Layout
  deriving Repr, Inhabited

/-! ## Strings -/

/-- How far the text of a string goes. -/
inductive Stretch where
  | text (stop : Nat) (rest : List Char)
  | close (stop : Nat) (rest : List Char)
  deriving Repr, Inhabited

/-- The text of a string up to an escape or to its closing marks, or the closing marks. `filled`
says that there is text already. Text does not go over the end of a line unless the marks are
tripled; a line break can only stand at its start. -/
def Quotes.stretch (q : Quotes) (filled : Bool) (offset : Nat) (cs : List Char) : Option Stretch :=
  let text (stop : Nat) (rest : List Char) : Option Stretch :=
    if filled then some (.text stop rest) else none
  match cs with
  | [] => none
  | '\\' :: rest =>
      if q.raw then
        match rest with
        | d :: more =>
            if d = q.mark || d = '\\' then q.stretch filled (offset + 2) more
            else q.stretch filled (offset + 1) (d :: more)
        | [] => none
      else if q.bytes then
        match rest with
        | d :: _ :: more =>
            if d = 'N' || d = 'u' || d = 'U' then q.stretch true (offset + 3) more
            else text offset ('\\' :: rest)
        | [d] => if d = 'N' || d = 'u' || d = 'U' then none else text offset ('\\' :: rest)
        | [] => text offset ['\\']
      else text offset ('\\' :: rest)
  | c :: rest =>
      if c = '\x00' then none
      else if (c = '\x7b' || c = '\x7d') && q.format then text offset (c :: rest)
      else if c = q.mark then
        if q.triple then
          match rest with
          | d :: more =>
              if d = q.mark then
                if more.head? = some q.mark then
                  if filled then some (.text offset (c :: rest))
                  else some (.close (offset + 3) (more.drop 1))
                else some (.text (offset + 2) more)
              else some (.text (offset + 1) rest)
          | [] => some (.text (offset + 1) rest)
        else if filled then some (.text offset (c :: rest))
        else some (.close (offset + 1) rest)
      else if c = '\n' && filled && !q.triple then none
      else q.stretch true (offset + 1) rest

/-- The letters before the opening marks of a string, and the text behind them. -/
def stringLetters : List Char → List Char × List Char
  | [] => ([], [])
  | c :: rest =>
      if c ∈ ['f', 'F', 'r', 'R', 'b', 'B', 'u', 'U'] then
        let (letters, after) := stringLetters rest
        (c :: letters, after)
      else ([], c :: rest)

/-- The opening marks of a string with the letters before them: how it is opened, how long they are,
and the text behind them. -/
def openingQuotes (cs : List Char) : Option (Quotes × Nat × List Char) :=
  let (letters, after) := stringLetters cs
  let has (a b : Char) : Bool := letters.any fun c => c = a || c = b
  match after with
  | [] => none
  | mark :: rest =>
      let q : Quotes := { mark, raw := has 'r' 'R', bytes := has 'b' 'B', format := has 'f' 'F' }
      if mark = '\x60' then some (q, letters.length + 1, rest)
      else if mark = '"' || mark = '\'' then
        if [mark, mark].isPrefixOf rest then
          some ({ q with triple := true }, letters.length + 3, rest.drop 2)
        else some (q, letters.length + 1, rest)
      else none

/-! ## Margins -/

/-- What stands between a place and the next code. -/
structure Margin where
  /-- A line ends, or the text does. -/
  broken : Bool := false
  /-- The indentation of the code. -/
  indent : Nat := 0
  /-- The indentation of the first comment on the way. -/
  comment : Option Nat := none
  /-- The offset of the code and the text from there. -/
  offset : Nat := 0
  rest : List Char := []
  deriving Repr, Inhabited

/-- A tab counts for eight columns. -/
def tabWidth : Nat := 8

/-- Reads a margin. The line break that ends a comment belongs to the comment. There is no margin
where a backslash stands before other text than a line break. -/
def Margin.read (m : Margin) (inComment : Bool) : List Char → Option Margin
  | [] => some { m with broken := true, indent := 0, rest := [] }
  | c :: rest =>
      let next := { m with offset := m.offset + 1 }
      if inComment then
        if c = '\n' || c = '\x00' then Margin.read { next with indent := 0 } false rest
        else Margin.read next true rest
      else if c = '\n' then Margin.read { next with broken := true, indent := 0 } false rest
      else if c = ' ' then Margin.read { next with indent := m.indent + 1 } false rest
      else if c = '\t' then Margin.read { next with indent := m.indent + tabWidth } false rest
      else if c = '\r' || c = '\x0c' then Margin.read { next with indent := 0 } false rest
      else if c = '#' then
        Margin.read { next with comment := m.comment <|> some m.indent } true rest
      else if c = '\\' then
        match rest with
        | [] => Margin.read next false []
        | '\n' :: more => Margin.read { m with offset := m.offset + 2 } false more
        | _ => none
      else some { m with rest := c :: rest }

/-- The indentation of the innermost block. -/
def Layout.indent (l : Layout) : Nat := l.indents.headD 0

/-- The code behind a margin is outside the innermost block. A comment that is indented as the block
is keeps the block open up to the comment. -/
def Layout.leaves (l : Layout) (m : Margin) : Bool :=
  m.indent < l.indent && m.comment.all (· < l.indent)

/-- Closing brackets and the comma, which end a body where the grammar does not expect them. -/
def closers : List String := [")", "]", "\x7d", ","]

/-- The layout mark at the start of a text, if there is one. -/
def Layout.mark? (l : Layout) (expects : Token → Bool) (m : Margin) : Option (Token × Layout) :=
  let inBrackets := [")", "]", "\x7d"].any fun b => expects (.literal b)
  let closes := closers.any fun b => b.toList.isPrefixOf m.rest && !expects (.literal b)
  if m.broken && expects .indent && l.indent < m.indent then
    some (.indent, { l with indents := m.indent % 256 :: l.indents })
  else if m.broken && (expects .dedent || (!expects .newline && !inBrackets)) && l.leaves m then
    some (.dedent, { l with indents := l.indents.drop 1 })
  else if m.broken && expects .newline then some (.newline, l)
  else if expects .bodyEnd && closes then
    some (.bodyEnd, if expects .dedent then { l with indents := l.indents.drop 1 } else l)
  else none

/-- The layout mark or the part of a string at the start of a text. -/
def Layout.read (l : Layout) (expects : Token → Bool) (offset : Nat) (cs : List Char) :
    Option Lexeme :=
  match l.quotes, expects .stringText with
  | q :: outer, true =>
      match q.stretch false offset cs with
      | none => none
      | some (.text stop rest) => some ⟨some .stringText, offset, stop, rest, l⟩
      | some (.close stop rest) =>
          some ⟨some .stringEnd, offset, stop, rest, { l with quotes := outer }⟩
  | _, _ => do
      let m ← Margin.read { offset } false cs
      match l.mark? expects m with
      | some (token, layout) => return ⟨some token, offset, offset, cs, layout⟩
      | none =>
          guard (m.comment.isNone && expects .stringStart)
          let (q, length, rest) ← openingQuotes m.rest
          return ⟨some .stringStart, m.offset, m.offset + length, rest,
            { l with quotes := q :: l.quotes }⟩

/-- The token at the start of a text: a layout mark, a part of a string, or the longest expected
token behind what stands between tokens. -/
def Layout.lexeme (l : Layout) (expected : List Token) (endExpected : Bool) (offset : Nat)
    (cs : List Char) : Option Lexeme :=
  match l.read (fun t => expected.contains t) offset cs with
  | some lexeme => some lexeme
  | none =>
      let (start, rest) := skipSpace (!expected.contains .escape) offset cs
      match tokenAhead expected rest with
      | some (token, length) =>
          some ⟨some token, start, start + length, rest.drop length, l⟩
      | none => if isOver rest && endExpected then some ⟨none, start, start, [], l⟩ else none

end ScriptTypings.Script
