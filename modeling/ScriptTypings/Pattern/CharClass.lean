import ScriptTypings.Pattern.Escape

/-! # Classes of characters

A class stands in brackets. It lists characters, ranges and other classes, and operators join two
lists. Classes that are open stand on a stack. -/

namespace ScriptTypings.Pattern

inductive SetOperator where
  | intersection
  | difference
  | symmetricDifference
  deriving DecidableEq, Repr, Inhabited

def SetOperator.apply : SetOperator → CharSet → CharSet → CharSet
  | .intersection => CharSet.intersection
  | .difference => CharSet.difference
  | .symmetricDifference => CharSet.symmetricDifference

/-- What is open around the part of a class that is being read. -/
inductive ClassFrame where
  /-- An open bracket, with what stands before it in the class around. -/
  | opened (outer : CharSet) (extent : Extent) (negated : Bool)
  /-- The left side of an operator. -/
  | joined (operator : SetOperator) (left : CharSet)
  deriving Repr, Inhabited

def unclosedClass {α : Type} (frames : List ClassFrame) : Except Flaw α :=
  let extents := frames.filterMap fun f =>
    match f with
    | .opened _ extent _ => some extent
    | .joined _ _ => none
  flaw .classUnclosed (extents.headD ⟨0, 0⟩)

/-- The classes with names, for ASCII characters. -/
def namedSet? : String → Option CharSet
  | "alnum" => some (.ofRanges [('0', '9'), ('A', 'Z'), ('a', 'z')])
  | "alpha" => some (.ofRanges [('A', 'Z'), ('a', 'z')])
  | "ascii" => some (.range '\x00' '\x7f')
  | "blank" => some (.ofRanges [('\t', '\t'), (' ', ' ')])
  | "cntrl" => some (.ofRanges [('\x00', '\x1f'), ('\x7f', '\x7f')])
  | "digit" => some (.range '0' '9')
  | "graph" => some (.range '!' '~')
  | "lower" => some (.range 'a' 'z')
  | "print" => some (.range ' ' '~')
  | "punct" => some (.ofRanges [('!', '/'), (':', '@'), ('[', '\x60'), ('\x7b', '~')])
  | "space" => some asciiBlank
  | "upper" => some (.range 'A' 'Z')
  | "word" => some asciiWord
  | "xdigit" => some (.ofRanges [('0', '9'), ('A', 'F'), ('a', 'f')])
  | _ => none

/-- A class by its name, in brackets and colons. -/
def namedClass? (c : Cursor) : Option (CharSet × Cursor) := do
  guard (c.startsWith "[:")
  let negated := c.startsWith "[:^"
  let start := c.drop (if negated then 3 else 2)
  let name := start.rest.takeWhile (· ≠ ':')
  let last := start.drop name.length
  guard (last.startsWith ":]")
  let s ← namedSet? (String.ofList name)
  return (if negated then s.complement else s, last.drop 2)

def withCase (fl : Flags) (s : CharSet) : CharSet :=
  if fl.ignoreCase then .anyCase s else s

/-- The class behind an operator, together with its left side. -/
def joinSides (fl : Flags) (right : CharSet) : List ClassFrame → CharSet × List ClassFrame
  | .joined operator left :: frames =>
      (operator.apply (withCase fl left) (withCase fl right), frames)
  | frames => (right, frames)

/-- An opening bracket, with the negation, the hyphens and the closing bracket that may stand right
behind it. -/
def openClass (fl : Flags) (outer : CharSet) (c : Cursor) :
    Except Flaw ((ClassFrame × CharSet) × Cursor) :=
  let start := c.offset
  let first := c.next fl
  let negated := first.startsWith "^"
  let body := if negated then first.next fl else first
  if body.isAtEnd then flaw .classUnclosed ⟨start, body.offset⟩
  else
    let (hyphens, last) := collectAll fl (· = '-') body
    if last.isAtEnd then flaw .classUnclosed ⟨start, start⟩
    else if hyphens ≠ [] then
      .ok ((.opened outer ⟨start, last.offset⟩ negated, .single '-'), last)
    else if last.startsWith "]" then
      let after := last.next fl
      if after.isAtEnd then flaw .classUnclosed ⟨start, after.offset⟩
      else .ok ((.opened outer ⟨start, after.offset⟩ negated, .single ']'), after)
    else .ok ((.opened outer ⟨start, last.offset⟩ negated, .nothing), last)

def classAtom (fl : Flags) (c : Cursor) : Except Flaw (Atom × Cursor) :=
  match c.rest with
  | d :: _ => if d = '\\' then escape fl c else .ok (.literal d false, c.bump)
  | [] => flaw .classUnclosed c.here

/-- Bytes that are no characters and, without Unicode, characters that are no bytes are refused. -/
def suspectLiteral (fl : Flags) (d : Char) (isByte : Bool) (extent : Extent) (c : Cursor) :
    Cursor :=
  if fl.unicode || d.toNat < 0x80 then c
  else c.suspect { cause := if isByte then .notText else .notAscii, extent }

/-- One character, one class or one range. -/
def classRange (fl : Flags) (frames : List ClassFrame) (c : Cursor) :
    Except Flaw (CharSet × Cursor) := do
  let (first, afterFirst) ← classAtom fl c
  let extent : Extent := ⟨c.offset, afterFirst.offset⟩
  let hyphen := afterFirst.settle fl
  if hyphen.isAtEnd then unclosedClass frames
  else
    let beyond := hyphen.next fl
    if !hyphen.startsWith "-" || beyond.startsWith "]" || beyond.startsWith "-" then
      match first with
      | .literal d isByte => return (.single d, suspectLiteral fl d isByte extent hyphen)
      | .set s => return (s, hyphen)
      | .anchor _ => flaw .classEscapeInvalid extent
    else if beyond.isAtEnd then unclosedClass frames
    else
      let (last, after) ← classAtom fl beyond
      match first, last with
      | .literal low lowByte, .literal high highByte =>
          if high < low then flaw .classRangeInvalid ⟨c.offset, after.offset⟩
          else
            let after := suspectLiteral fl low lowByte extent after
            return (.range low high,
              suspectLiteral fl high highByte ⟨beyond.offset, after.offset⟩ after)
      | .literal _ _, _ => flaw .classRangeLiteral ⟨beyond.offset, after.offset⟩
      | _, _ => flaw .classRangeLiteral extent

def operatorAhead? (c : Cursor) : Option SetOperator :=
  if c.startsWith "&&" then some .intersection
  else if c.startsWith "--" then some .difference
  else if c.startsWith "~~" then some .symmetricDifference
  else none

/-- Reads a class of characters up to its last bracket. -/
def classBody (fl : Flags) :
    (limit : Nat) → List ClassFrame → CharSet → Cursor → Except Flaw (CharSet × Cursor)
  | 0, frames, _, _ => unclosedClass frames
  | limit + 1, frames, items, c =>
      let c := c.settle fl
      if c.isAtEnd then unclosedClass frames
      else if c.startsWith "[" then
        match if frames.isEmpty then none else namedClass? c with
        | some (s, after) => classBody fl limit frames (items.union s) after
        | none =>
            match openClass fl items c with
            | .ok ((frame, inner), after) => classBody fl limit (frame :: frames) inner after
            | .error f => .error f
      else if c.startsWith "]" then
        match joinSides fl items frames with
        | (s, .opened outer _ negated :: below) =>
            let s := withCase fl s
            let s := if negated then s.complement else s
            if below.isEmpty then .ok (s, c.bump)
            else classBody fl limit below (outer.union s) c.bump
        | (_, below) => unclosedClass below
      else
        match operatorAhead? c with
        | some operator =>
            let (left, below) := joinSides fl items frames
            classBody fl limit (.joined operator left :: below) .nothing (c.drop 2)
        | none =>
            match classRange fl frames c with
            | .ok (s, after) => classBody fl limit frames (items.union s) after
            | .error f => .error f

/-- Without Unicode a class holds bytes; those that are no ASCII characters are no text. -/
def suspectSet (fl : Flags) (s : CharSet) (extent : Extent) (c : Cursor) : Cursor :=
  if !fl.unicode && (List.range 128).any (fun n => s.contains (Char.ofNat (128 + n))) then
    c.suspect { cause := .notText, extent }
  else c

def charClass (fl : Flags) (c : Cursor) : Except Flaw (CharSet × Cursor) := do
  let (s, after) ← classBody fl (c.rest.length + 1) [] .nothing c
  return (s, suspectSet fl s ⟨c.offset, after.offset⟩ after)

end ScriptTypings.Pattern
