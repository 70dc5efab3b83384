/-! # Text for a terminal

Text may hold escape sequences that tell a terminal what to do. `withoutEscapes` leaves them out,
together with control characters, and keeps what is to be read. A sequence is over at its last
character, and also where a blank stands in it that ends it early. -/

namespace ScriptTypings.Text

/-- Where a reader of terminal text stands. -/
inductive TerminalState where
  /-- Outside of all sequences. -/
  | ground
  | escape
  /-- An escape with characters between its mark and its last one. -/
  | escapeInner
  /-- A control sequence. -/
  | control
  /-- A command to the operating system. -/
  | command
  /-- The head of a device string: its start, its parameters and what follows them. -/
  | deviceStart
  | deviceParameters
  | deviceInner
  /-- A string whose text is not meant to be read. -/
  | data
  deriving DecidableEq, Repr, Inhabited

/-- Blanks are kept, and end escapes and control sequences. -/
def isTerminalBlank (c : Char) : Bool :=
  c = ' ' || c = '\t' || c = '\n' || c = '\x0c' || c = '\r'

/-- One of the bytes of a character, the first apart, is the mark that ends a string. -/
def hasStringEnd (c : Char) : Bool :=
  let n := c.toNat
  let digit (weight : Nat) : Nat := n / weight % 64
  digit 1 = 0x1C || (0x800 ≤ n && digit 64 = 0x1C) || (0x10000 ≤ n && digit 4096 = 0x1C)

namespace TerminalState

/-- The state behind an ASCII character that is no escape mark and no cancel mark. -/
def afterAscii (s : TerminalState) (c : Char) : TerminalState :=
  let isControl := c < ' '
  let isInner := ' ' ≤ c && c ≤ '/'
  let isLetter := '@' ≤ c && c ≤ '~'
  match s with
  | ground => ground
  | escape =>
      if isControl || c = '\x7f' then if isTerminalBlank c then ground else escape
      else if isInner then escapeInner
      else
        match c with
        | '[' => control
        | ']' => command
        | 'P' => deviceStart
        | 'X' | '^' | '_' => data
        | _ => ground
  | escapeInner =>
      if isControl || c = '\x7f' then if isTerminalBlank c then ground else escapeInner
      else if isInner then escapeInner
      else ground
  | control => if isLetter || (isControl && isTerminalBlank c) then ground else control
  | command => if c = '\x07' then ground else command
  | deviceStart =>
      if isLetter then data
      else if isInner then deviceInner
      else if '0' ≤ c && c ≤ '?' then deviceParameters
      else deviceStart
  | deviceParameters =>
      if isLetter || ('<' ≤ c && c ≤ '?') then data
      else if isInner then deviceInner
      else deviceParameters
  | deviceInner => if isLetter || ('0' ≤ c && c ≤ '?') then data else deviceInner
  | data => data

/-- The state behind a character. -/
def after (s : TerminalState) (c : Char) : TerminalState :=
  if c = '\x18' || c = '\x1a' then ground
  else if c = '\x1b' then escape
  else if c.toNat < 0x80 then s.afterAscii c
  else if s = data && hasStringEnd c then ground
  else s

/-- A character is to be read outside of sequences, or as a blank that ends one. -/
def shows (s : TerminalState) (c : Char) : Bool :=
  match s with
  | ground => isTerminalBlank c || (' ' ≤ c && c ≠ '\x7f')
  | escape | escapeInner | control => c < ' ' && isTerminalBlank c
  | _ => false

end TerminalState

def readable (s : TerminalState) : List Char → List Char
  | [] => []
  | c :: rest =>
      if s.shows c then c :: readable (s.after c) rest else readable (s.after c) rest

/-- A text without escape sequences and control characters. -/
def withoutEscapes (text : String) : String :=
  String.ofList (readable .ground text.toList)

end ScriptTypings.Text
