import ScriptTypings.Pattern.CharClass

/-! # Reading patterns

A pattern consists of branches, which consist of parts. Groups that are open stand on a stack. Flags
hold up to the end of the group they stand in. -/

namespace ScriptTypings.Pattern

/-! ## Groups and repetitions -/

/-- An open group: where it starts, and what stands before it. -/
structure Frame where
  extent : Extent
  branches : List Pattern
  items : List (Option Pattern)
  flags : Flags
  deriving Inhabited

/-- How far a pattern has been read. Branches and items stand last first; an item without a pattern
sets flags. -/
structure Progress where
  cursor : Cursor
  flags : Flags := {}
  branches : List Pattern := []
  items : List (Option Pattern) := []
  frames : List Frame := []
  names : List (String × Extent) := []
  deriving Inhabited

namespace Progress

def branch (s : Progress) : Pattern :=
  .ofList (s.items.reverse.filterMap id)

/-- The group that is being read. -/
def group (s : Progress) : Pattern :=
  .choice ((s.branch :: s.branches).reverse)

def add (s : Progress) (p : Pattern) (cursor : Cursor) : Progress :=
  { s with items := some p :: s.items, cursor }

/-- Opens a group. -/
def enter (s : Progress) (extent : Extent) (flags : Flags) (cursor : Cursor) : Progress :=
  { s with
    frames := ⟨extent, s.branches, s.items, s.flags⟩ :: s.frames, branches := [], items := [],
    flags, cursor }

/-- The part that a repetition repeats, and what stands before it. -/
def repeatable (s : Progress) : Except Flaw (Pattern × List (Option Pattern)) :=
  match s.items with
  | some p :: before => .ok (p, before)
  | _ => flaw .repetitionMissing s.cursor.here

end Progress

/-- Repetitions may be marked as reluctant, which does not change what matches. -/
def skipReluctance (c : Cursor) : Cursor :=
  if c.startsWith "?" then c.bump else c

def plainRepetition (s : Progress) (least : Nat) (most : Option Nat) : Except Flaw Progress := do
  let (p, before) ← s.repeatable
  return { s with items := some (.times p least most) :: before
                  cursor := skipReluctance s.cursor.bump }

/-- The greatest number that a repetition may have. -/
def countLimit : Nat := 4294967295

/-- A decimal number, and the cursor behind it if there is one or not. -/
def decimalNumber (fl : Flags) (c : Cursor) : Except Flaw Nat × Cursor :=
  let start := c.drop (c.rest.takeWhile Text.isBlank).length
  let (digits, last) := collectAll fl Char.isDigit start
  let after := last.drop (last.rest.takeWhile Text.isBlank).length
  let value := digits.foldl (fun n d => 10 * n + (d.toNat - '0'.toNat)) 0
  let extent : Extent := ⟨start.offset, last.offset⟩
  if digits = [] then (flaw .countEmpty extent, after)
  else if countLimit < value then (flaw .decimalInvalid extent, after)
  else (.ok value, after)

/-- A repetition with counts in braces. -/
def countedRepetition (s : Progress) : Except Flaw Progress := do
  let (p, before) ← s.repeatable
  let fl := s.flags
  let start := s.cursor.offset
  let unclosed (c : Cursor) : Except Flaw Progress := flaw .countUnclosed ⟨start, c.offset⟩
  let close (least : Nat) (most : Option Nat) (c : Cursor) : Except Flaw Progress :=
    if !c.startsWith "\x7d" then unclosed c
    else
      let after := skipReluctance (c.next fl)
      if most.any (· < least) then flaw .countRangeInvalid ⟨start, after.offset⟩
      else .ok { s with items := some (.times p least most) :: before, cursor := after }
  let first := s.cursor.next fl
  if first.isAtEnd then unclosed first
  else
    let (least, afterLeast) := decimalNumber fl first
    if afterLeast.isAtEnd then unclosed afterLeast
    else if !afterLeast.startsWith "," then
      let least ← least
      close least (some least) afterLeast
    else
      let beyond := afterLeast.next fl
      if beyond.isAtEnd then unclosed beyond
      else if beyond.startsWith "\x7d" then
        let least ← least
        close least none beyond
      else
        let least ← least
        let (most, afterMost) := decimalNumber fl beyond
        let most ← most
        close least (some most) afterMost

/-- The letters between a question mark and the end of a group's head, with their places, last
first. -/
def flagLetters :
    (limit : Nat) → List (Char × Extent) → Cursor → Except Flaw (List (Char × Extent) × Cursor)
  | 0, _, c => flaw .flagUnfinished c.here
  | limit + 1, letters, c =>
      match c.rest.head? with
      | none => flaw .flagUnfinished c.here
      | some d =>
          if d = ':' || d = ')' then
            match letters with
            | ('-', extent) :: _ => flaw .flagDanglingNegation extent
            | _ => .ok (letters, c)
          else if d ∉ ['-', 'i', 's', 'm', 'U', 'u', 'R', 'x'] then flaw .flagUnknown c.char
          else
            match letters.lookup d with
            | some extent =>
                .error { cause := if d = '-' then .flagRepeatedNegation else .flagDuplicate
                         extent := c.char, other := some extent }
            | none => flagLetters limit ((d, c.char) :: letters) c.bump

def Flags.set (fl : Flags) (value : Bool) : Char → Flags
  | 'i' => { fl with ignoreCase := value }
  | 'm' => { fl with multiLine := value }
  | 's' => { fl with dotAll := value }
  | 'R' => { fl with returns := value }
  | 'u' => { fl with unicode := value }
  | 'x' => { fl with spaced := value }
  | _ => fl

/-- Sets the flags up to a hyphen and clears those behind it. -/
def Flags.setAll (value : Bool) : List Char → Flags → Flags
  | [], fl => fl
  | c :: rest, fl =>
      if c = '-' then Flags.setAll false rest fl else Flags.setAll value rest (fl.set value c)

def isNameStart (c : Char) : Bool :=
  c = '_' || (Text.isWord c && !Text.isDecimal c)

def isNameChar (c : Char) : Bool :=
  Text.isWord c || c ∈ ['.', '[', ']']

/-- The name of a group, up to the angle behind it. -/
def groupName (names : List (String × Extent)) (c : Cursor) :
    Except Flaw ((String × Extent) × Cursor) :=
  let first := (c.rest.head?.filter isNameStart).isSome
  let name := if first then c.rest.takeWhile isNameChar else []
  let last := c.drop name.length
  let extent : Extent := ⟨c.offset, last.offset⟩
  let text := String.ofList name
  if last.isAtEnd then flaw .groupNameUnfinished last.here
  else if !last.startsWith ">" then flaw .groupNameInvalid last.char
  else if name = [] then flaw .groupNameEmpty c.here
  else
    match names.lookup text with
    | some other => .error { cause := .groupNameDuplicate, extent, other := some other }
    | none => .ok ((text, extent), last.bump)

/-- The head of a group: a capture, a name, flags, or flags for the rest of the group around. -/
def openGroup (s : Progress) : Except Flaw Progress := do
  let extent := s.cursor.char
  let head := s.cursor.next s.flags
  if let some mark := ["?=", "?!", "?<=", "?<!"].find? head.startsWith then
    flaw .lookAround ⟨extent.start, head.offset + mark.length⟩
  else if let some mark := ["?P<", "?<"].find? head.startsWith then
    let (name, after) ← groupName s.names (head.drop mark.length)
    return { s.enter extent s.flags after with names := name :: s.names }
  else if head.startsWith "?" then
    let start := head.bump
    if start.isAtEnd then flaw .groupUnclosed extent
    else
      let (letters, last) ← flagLetters (start.rest.length + 1) [] start
      let flags := Flags.setAll true (letters.reverse.map Prod.fst) s.flags
      if last.startsWith ":" then return s.enter extent flags last.bump
      else if letters = [] then flaw .repetitionMissing head.here
      else return { s with items := none :: s.items, flags, cursor := last.bump }
  else return s.enter extent s.flags head

def closeGroup (s : Progress) : Except Flaw Progress :=
  match s.frames with
  | [] => flaw .groupUnopened s.cursor.char
  | frame :: frames =>
      .ok { s with
        frames, branches := frame.branches, items := some s.group :: frame.items,
        flags := frame.flags, cursor := s.cursor.bump }

/-! ## Whole patterns -/

def lineAnchor (fl : Flags) (whole line returnLine : Anchor) : Pattern :=
  .anchor (if !fl.multiLine then whole else if fl.returns then returnLine else line)

/-- The characters that a dot stands for. -/
def dotSet (fl : Flags) : CharSet :=
  if fl.dotAll then CharSet.nothing.complement
  else
    let breaks := if fl.returns then [('\n', '\n'), ('\r', '\r')] else [('\n', '\n')]
    (CharSet.ofRanges breaks).complement

def literalPattern (fl : Flags) (c : Char) : Pattern :=
  .one (withCase fl (.single c))

/-- An escape outside of classes. -/
def escapedPattern (fl : Flags) (c : Cursor) : Except Flaw (Pattern × Cursor) := do
  let (atom, after) ← escape fl c
  let extent : Extent := ⟨c.offset, after.offset⟩
  match atom with
  | .literal d isByte =>
      let after :=
        if isByte && !fl.unicode && 0x80 ≤ d.toNat then
          after.suspect { cause := .notText, extent }
        else after
      return (literalPattern fl d, after)
  | .set s => return (.one s, suspectSet fl s extent after)
  | .anchor a => return (.anchor a, after)

/-- Reads one part of a pattern. There is a character at the cursor. -/
def readPart (s : Progress) (d : Char) : Except Flaw Progress :=
  let fl := s.flags
  let c := s.cursor
  match d with
  | '(' => openGroup s
  | ')' => closeGroup s
  | '|' => .ok { s with branches := s.branch :: s.branches, items := [], cursor := c.bump }
  | '[' => do
      let (set, after) ← charClass fl c
      return s.add (.one set) after
  | '?' => plainRepetition s 0 (some 1)
  | '*' => plainRepetition s 0 none
  | '+' => plainRepetition s 1 none
  | '\x7b' => countedRepetition s
  | '\\' => do
      let (p, after) ← escapedPattern fl c
      return s.add p after
  | '.' =>
      let after :=
        if fl.unicode then c.bump else c.bump.suspect { cause := .notText, extent := c.char }
      .ok (s.add (.one (dotSet fl)) after)
  | '^' => .ok (s.add (lineAnchor fl .textStart .lineStart .returnLineStart) c.bump)
  | '$' => .ok (s.add (lineAnchor fl .textEnd .lineEnd .returnLineEnd) c.bump)
  | _ => .ok (s.add (literalPattern fl d) c.bump)

/-- Reads the parts of a pattern up to its end. -/
def readParts : (limit : Nat) → Progress → Except Flaw Progress
  | 0, s => .ok s
  | limit + 1, s =>
      let s := { s with cursor := s.cursor.settle s.flags }
      match s.cursor.rest.head? with
      | none => .ok s
      | some d =>
          match readPart s d with
          | .ok next => readParts limit next
          | .error f => .error f

/-- Reads a written pattern. -/
def read (text : String) : Except Flaw Pattern := do
  let s ← readParts (text.length + 1) { cursor := { rest := text.toList } }
  match s.frames, s.cursor.doubt with
  | frame :: _, _ => flaw .groupUnclosed frame.extent
  | [], some f => .error f
  | [], none => return s.group

end ScriptTypings.Pattern
