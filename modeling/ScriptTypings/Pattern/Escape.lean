import ScriptTypings.Pattern.Basic
import ScriptTypings.Pattern.Cursor
import ScriptTypings.Text.Hexadecimal

/-! # Escapes in patterns

A backslash and what follows it stand for a character, a set of characters or a place. -/

namespace ScriptTypings.Pattern

/-- One part of a pattern that stands for a character or a place. -/
inductive Atom where
  /-- `isByte` tells that it is written as a byte. -/
  | literal (c : Char) (isByte : Bool)
  | set (s : CharSet)
  | anchor (a : Anchor)
  deriving Repr, Inhabited

def asciiWord : CharSet :=
  .ofRanges [('0', '9'), ('A', 'Z'), ('_', '_'), ('a', 'z')]

def asciiBlank : CharSet :=
  .ofRanges [('\t', '\r'), (' ', ' ')]

def wordLetters (fl : Flags) : CharSet :=
  if fl.unicode then .word else asciiWord

/-- The set that a letter behind a backslash stands for. -/
def letterSet (fl : Flags) (letter : Char) : CharSet :=
  let base : CharSet :=
    match letter.toLower with
    | 'd' => if fl.unicode then .decimal else .range '0' '9'
    | 's' => if fl.unicode then .blank else asciiBlank
    | _ => wordLetters fl
  if letter.isUpper then base.complement else base

def charOfCode? (n : Nat) : Option Char :=
  if n.isValidChar then some (Char.ofNat n) else none

/-- So many hexadecimal digits. -/
def fixedHex (fl : Flags) : (count : Nat) → Cursor → Except Flaw (List Char × Cursor)
  | 0, c => .ok ([], c)
  | count + 1, c =>
      match c.rest.head? with
      | none => flaw .escapeUnfinished c.here
      | some d =>
          if Text.isHexDigit d then do
            let (more, c) ← fixedHex fl count (c.next fl)
            return (d :: more, c)
          else flaw .hexDigitInvalid c.char

/-- The character whose code stands at the cursor, which is on the letter that announces it. -/
def hexLiteral (fl : Flags) (c : Cursor) : Except Flaw (Atom × Cursor) := do
  let count := if c.startsWith "x" then 2 else if c.startsWith "u" then 4 else 8
  let first := c.next fl
  if first.isAtEnd then flaw .escapeUnfinished first.here
  else if first.startsWith "\x7b" then
    let (digits, last) := collectAll fl Text.isHexDigit (first.next fl)
    if last.isAtEnd then flaw .escapeUnfinished ⟨first.offset, last.offset⟩
    else if !last.startsWith "\x7d" then flaw .hexDigitInvalid last.char
    else
      let after := last.next fl
      if digits = [] then flaw .hexEmpty ⟨first.offset, after.offset⟩
      else
        match charOfCode? (Text.hexNumber digits) with
        | some d => return (.literal d false, after)
        | none => flaw .hexInvalid ⟨first.offset + 1, last.offset⟩
  else
    let (digits, after) ← fixedHex fl count first
    match charOfCode? (Text.hexNumber digits) with
    | some d => return (.literal d (count = 2), after)
    | none => flaw .hexInvalid ⟨first.offset, after.offset⟩

/-- A class by a property of characters. No properties are known. -/
def propertySet (fl : Flags) (start : Nat) (c : Cursor) : Except Flaw (Atom × Cursor) :=
  let first := c.next fl
  let unknown (after : Cursor) : Except Flaw (Atom × Cursor) :=
    .ok (.set .nothing,
      after.suspect { cause := .propertyUnknown, extent := ⟨start, after.offset⟩ })
  match first.rest.head? with
  | none => flaw .escapeUnfinished first.here
  | some '\x7b' =>
      let (_, last) := collectAll fl (· ≠ '\x7d') (first.next fl)
      if last.isAtEnd then flaw .escapeUnfinished last.here else unknown last.bump
  | some '\\' => flaw .propertyInvalid first.char
  | some _ => unknown (first.next fl)

/-- The kind of a word edge, in braces behind `\b`. Other braces are left for a repetition. -/
def wordEdge (fl : Flags) (start : Nat) (c : Cursor) : Except Flaw (WordEdge × Cursor) :=
  let isLetter (d : Char) : Bool := d.isAlpha || d = '-'
  if !c.startsWith "\x7b" then .ok (.either, c)
  else
    let first := c.next fl
    if first.isAtEnd then flaw .wordEdgeUnfinished ⟨start, first.offset⟩
    else if !first.rest.head?.any isLetter then .ok (.either, c)
    else
      let (name, last) := collectAll fl isLetter first
      if !last.startsWith "\x7d" then flaw .wordEdgeUnclosed ⟨c.offset, last.offset⟩
      else
        match String.ofList name with
        | "start" => .ok (.start, last.bump)
        | "end" => .ok (.stop, last.bump)
        | "start-half" => .ok (.startHalf, last.bump)
        | "end-half" => .ok (.stopHalf, last.bump)
        | _ => flaw .wordEdgeUnknown ⟨first.offset, last.offset⟩

/-- Signs may be escaped, letters and digits may not. -/
def isEscapable (c : Char) : Bool :=
  c.toNat < 0x80 && !c.isAlphanum && c ≠ '<' && c ≠ '>'

/-- The characters that letters behind a backslash stand for. -/
def letterEscapes : List (Char × Char) :=
  [('a', '\x07'), ('f', '\x0c'), ('t', '\t'), ('n', '\n'), ('r', '\r'), ('v', '\x0b')]

/-- What a backslash stands for together with what follows it. -/
def escape (fl : Flags) (c : Cursor) : Except Flaw (Atom × Cursor) :=
  let mark := c.bump
  let after := mark.bump
  let edge (kind : WordEdge) : Except Flaw (Atom × Cursor) :=
    .ok (.anchor (.word (wordLetters fl) kind), after)
  match mark.rest.head? with
  | none => flaw .escapeUnfinished ⟨c.offset, mark.offset⟩
  | some d =>
      if d.isDigit then flaw .backreference ⟨c.offset, after.offset⟩
      else if d ∈ ['x', 'u', 'U'] then hexLiteral fl mark
      else if d ∈ ['p', 'P'] then propertySet fl c.offset mark
      else if d ∈ ['d', 's', 'w', 'D', 'S', 'W'] then .ok (.set (letterSet fl d), after)
      else if isEscapable d then .ok (.literal d false, after)
      else
        match letterEscapes.lookup d, d with
        | some meant, _ => .ok (.literal meant false, after)
        | none, 'A' => .ok (.anchor .textStart, after)
        | none, 'z' => .ok (.anchor .textEnd, after)
        | none, 'b' => do
            let (kind, last) ← wordEdge fl c.offset after
            return (.anchor (.word (wordLetters fl) kind), last)
        | none, 'B' => edge .neither
        | none, '<' => edge .start
        | none, '>' => edge .stop
        | none, _ => flaw .escapeUnknown ⟨c.offset, after.offset⟩

end ScriptTypings.Pattern
