import ScriptTypings.Pattern.Flaw
import ScriptTypings.Text.Blank

/-! # Places in a written pattern

A pattern is read from left to right in one pass. Flags say how its parts are meant. Some flaws show
only once the whole pattern has been read; the first of them is kept at the cursor. -/

namespace ScriptTypings.Pattern

structure Flags where
  ignoreCase : Bool := false
  /-- `^` and `$` stand for the ends of lines. -/
  multiLine : Bool := false
  /-- The dot stands for line breaks too. -/
  dotAll : Bool := false
  /-- A carriage return breaks a line too. -/
  returns : Bool := false
  unicode : Bool := true
  /-- Blanks and comments between the parts of a pattern do not count. -/
  spaced : Bool := false
  deriving DecidableEq, Repr, Inhabited

/-- A place in a pattern that is being read. -/
structure Cursor where
  offset : Nat := 0
  rest : List Char
  /-- The first flaw that counts if no other one is found. -/
  doubt : Option Flaw := none
  deriving Repr, Inhabited

namespace Cursor

def bump (c : Cursor) : Cursor :=
  match c.rest with
  | [] => c
  | _ :: rest => { c with offset := c.offset + 1, rest }

def drop (c : Cursor) (count : Nat) : Cursor :=
  { c with offset := c.offset + min count c.rest.length, rest := c.rest.drop count }

/-- The empty extent at the cursor. -/
def here (c : Cursor) : Extent := ⟨c.offset, c.offset⟩

/-- The extent of the character at the cursor. -/
def char (c : Cursor) : Extent := ⟨c.offset, c.offset + 1⟩

def isAtEnd (c : Cursor) : Bool := c.rest.isEmpty

def startsWith (c : Cursor) (text : String) : Bool := text.toList.isPrefixOf c.rest

def suspect (c : Cursor) (f : Flaw) : Cursor := { c with doubt := c.doubt <|> some f }

/-- How many characters are blanks or in comments. -/
def fillerLength (inComment : Bool) : List Char → Nat
  | [] => 0
  | c :: rest =>
      if inComment then fillerLength (c ≠ '\n') rest + 1
      else if Text.isBlank c then fillerLength false rest + 1
      else if c = '#' then fillerLength true rest + 1
      else 0

/-- The cursor behind blanks and comments, where they do not count. -/
def settle (c : Cursor) (fl : Flags) : Cursor :=
  if fl.spaced then c.drop (fillerLength false c.rest) else c

def next (c : Cursor) (fl : Flags) : Cursor := c.bump.settle fl

end Cursor

def flaw {α : Type} (cause : Cause) (extent : Extent) : Except Flaw α :=
  .error { cause, extent }

/-- Collects characters as long as a condition holds. -/
def collect (fl : Flags) (condition : Char → Bool) :
    (limit : Nat) → Cursor → List Char × Cursor
  | 0, c => ([], c)
  | limit + 1, c =>
      match c.rest.head? with
      | none => ([], c)
      | some d =>
          if condition d then
            let (more, c) := collect fl condition limit (c.next fl)
            (d :: more, c)
          else ([], c)

def collectAll (fl : Flags) (condition : Char → Bool) (c : Cursor) : List Char × Cursor :=
  collect fl condition c.rest.length c

end ScriptTypings.Pattern
