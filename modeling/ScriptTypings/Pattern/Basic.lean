import ScriptTypings.Text.Blank
import ScriptTypings.Text.Word

/-! # Patterns

A pattern is a regular expression over characters and the places between them. It matches a text if
it matches some part of it.

## Implementation notes

Matching works on sets of places. A set is a number whose bit `i` stands for the place before
character `i`, so one pass over a pattern follows all of its matches at once. -/

namespace ScriptTypings

/-- Sets of characters. -/
inductive CharSet where
  | nothing
  | range (first last : Char)
  | decimal
  | blank
  | word
  | union (s t : CharSet)
  | intersection (s t : CharSet)
  | complement (s : CharSet)
  /-- The set with all that is the same up to case. -/
  | anyCase (s : CharSet)
  deriving DecidableEq, Repr, Inhabited

namespace CharSet

def single (c : Char) : CharSet := range c c

def contains : CharSet → Char → Bool
  | nothing, _ => false
  | range first last, c => first ≤ c && c ≤ last
  | decimal, c => Text.isDecimal c
  | blank, c => Text.isBlank c
  | word, c => Text.isWord c
  | union s t, c => s.contains c || t.contains c
  | intersection s t, c => s.contains c && t.contains c
  | complement s, c => !s.contains c
  | anyCase s, c =>
      s.contains c || (Text.caseVariants c.toNat).any fun n => s.contains (Char.ofNat n)

/-- The union of some ranges. -/
def ofRanges (ranges : List (Char × Char)) : CharSet :=
  ranges.foldr (fun r s => (range r.1 r.2).union s) nothing

def difference (s t : CharSet) : CharSet :=
  s.intersection t.complement

def symmetricDifference (s t : CharSet) : CharSet :=
  (s.difference t).union (t.difference s)

end CharSet

/-- Edges of words, told by what stands on the two sides of a place. -/
inductive WordEdge where
  | either
  | neither
  | start
  | stop
  | startHalf
  | stopHalf
  deriving DecidableEq, Repr, Inhabited

/-- Conditions on a place of a text. -/
inductive Anchor where
  | textStart
  | textEnd
  | lineStart
  | lineEnd
  /-- Starts and ends of lines where a carriage return breaks a line too. -/
  | returnLineStart
  | returnLineEnd
  | word (letters : CharSet) (edge : WordEdge)
  deriving DecidableEq, Repr, Inhabited

/-- Whether a condition holds between two characters; there is none at an end of the text. -/
def Anchor.holds (a : Anchor) (before after : Option Char) : Bool :=
  match a with
  | textStart => before.isNone
  | textEnd => after.isNone
  | lineStart => before.all (· = '\n')
  | lineEnd => after.all (· = '\n')
  | returnLineStart => before.all fun c => c = '\n' || (c = '\r' && after ≠ some '\n')
  | returnLineEnd => after.all fun c => c = '\r' || (c = '\n' && before ≠ some '\r')
  | word letters edge =>
      let left := before.any letters.contains
      let right := after.any letters.contains
      match edge with
      | .either => left != right
      | .neither => left == right
      | .start => !left && right
      | .stop => left && !right
      | .startHalf => !left
      | .stopHalf => !right

inductive Pattern where
  | empty
  | one (s : CharSet)
  | anchor (a : Anchor)
  | seq (p q : Pattern)
  | alt (p q : Pattern)
  /-- So many times at least, and at most if there is a limit. -/
  | times (p : Pattern) (least : Nat) (most : Option Nat)
  deriving DecidableEq, Repr, Inhabited

/-- The places of a text: the characters on their two sides. -/
def placesOf (before : Option Char) : List Char → List (Option Char × Option Char)
  | [] => [(before, none)]
  | c :: rest => (before, some c) :: placesOf (some c) rest

/-- The set of the places where a condition holds. -/
def placesWhere (condition : Option Char → Option Char → Bool) :
    List (Option Char × Option Char) → Nat
  | [] => 0
  | (before, after) :: rest =>
      2 * placesWhere condition rest + (condition before after).toNat

/-- The same step so many times. -/
def repeated (step : Nat → Nat) : Nat → Nat → Nat
  | 0, places => places
  | count + 1, places => repeated step count (step places)

namespace Pattern

/-- The places where a match can end that starts at one of the given places. A part that matches
more often than the text has places stays where it is once at least, so the number of its matches
does not count any more. -/
def ends (text : List (Option Char × Option Char)) : Pattern → Nat → Nat
  | empty, starts => starts
  | one s, starts =>
      (starts &&& placesWhere (fun _ after => after.any s.contains) text) <<< 1
  | anchor a, starts => starts &&& placesWhere a.holds text
  | seq p q, starts => ends text q (ends text p starts)
  | alt p q, starts => ends text p starts ||| ends text q starts
  | times p least most, starts =>
      let enough := text.length
      let needed := repeated (ends text p) (min least enough) starts
      let further := (most.map fun m => min (m - least) enough).getD enough
      repeated (fun places => places ||| ends text p places) further needed

/-- Whether a pattern matches some part of a text. -/
def isMatch (p : Pattern) (text : String) : Bool :=
  let places := placesOf none text.toList
  p.ends places (placesWhere (fun _ _ => true) places) ≠ 0

def ofList : List Pattern → Pattern
  | [] => empty
  | [p] => p
  | p :: rest => seq p (ofList rest)

/-- One of some patterns. -/
def choice : List Pattern → Pattern
  | [] => empty
  | [p] => p
  | p :: rest => alt p (choice rest)

end Pattern

end ScriptTypings
