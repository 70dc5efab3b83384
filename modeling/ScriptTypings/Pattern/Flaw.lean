import ScriptTypings.Text.Pieces

/-! # Flaws of written patterns

A pattern that cannot be read has a flaw: a cause and the place where it shows. The message shows
the pattern with carets below the place. -/

namespace ScriptTypings.Pattern

/-- A part of a pattern, from one character offset up to another. -/
structure Extent where
  start : Nat
  stop : Nat
  deriving DecidableEq, Repr, Inhabited

inductive Cause where
  | backreference
  | lookAround
  | classEscapeInvalid
  | classRangeInvalid
  | classRangeLiteral
  | classUnclosed
  | decimalInvalid
  | hexEmpty
  | hexInvalid
  | hexDigitInvalid
  | escapeUnfinished
  | escapeUnknown
  | flagDanglingNegation
  | flagDuplicate
  | flagRepeatedNegation
  | flagUnfinished
  | flagUnknown
  | groupNameDuplicate
  | groupNameEmpty
  | groupNameInvalid
  | groupNameUnfinished
  | groupUnclosed
  | groupUnopened
  | countRangeInvalid
  | countEmpty
  | countUnclosed
  | repetitionMissing
  | wordEdgeUnclosed
  | wordEdgeUnknown
  | wordEdgeUnfinished
  | propertyInvalid
  | propertyUnknown
  | notText
  | notAscii
  deriving DecidableEq, Repr, Inhabited

def Cause.message : Cause → String
  | .backreference => "backreferences are not supported"
  | .lookAround => "look-around, including look-ahead and look-behind, is not supported"
  | .classEscapeInvalid => "invalid escape sequence found in character class"
  | .classRangeInvalid => "invalid character class range, the start must be <= the end"
  | .classRangeLiteral => "invalid range boundary, must be a literal"
  | .classUnclosed => "unclosed character class"
  | .decimalInvalid => "decimal literal invalid"
  | .hexEmpty => "hexadecimal literal empty"
  | .hexInvalid => "hexadecimal literal is not a Unicode scalar value"
  | .hexDigitInvalid => "invalid hexadecimal digit"
  | .escapeUnfinished => "incomplete escape sequence, reached end of pattern prematurely"
  | .escapeUnknown => "unrecognized escape sequence"
  | .flagDanglingNegation => "dangling flag negation operator"
  | .flagDuplicate => "duplicate flag"
  | .flagRepeatedNegation => "flag negation operator repeated"
  | .flagUnfinished => "expected flag but got end of regex"
  | .flagUnknown => "unrecognized flag"
  | .groupNameDuplicate => "duplicate capture group name"
  | .groupNameEmpty => "empty capture group name"
  | .groupNameInvalid => "invalid capture group character"
  | .groupNameUnfinished => "unclosed capture group name"
  | .groupUnclosed => "unclosed group"
  | .groupUnopened => "unopened group"
  | .countRangeInvalid => "invalid repetition count range, the start must be <= the end"
  | .countEmpty => "repetition quantifier expects a valid decimal"
  | .countUnclosed => "unclosed counted repetition"
  | .repetitionMissing => "repetition operator missing expression"
  | .wordEdgeUnclosed =>
      "special word boundary assertion is either unclosed or contains an invalid character"
  | .wordEdgeUnknown =>
      "unrecognized special word boundary assertion, valid choices are: " ++
        "start, end, start-half or end-half"
  | .wordEdgeUnfinished =>
      "found either the beginning of a special word boundary or a bounded repetition on a \\b " ++
        "with an opening brace, but no closing brace"
  | .propertyInvalid => "invalid Unicode character class"
  | .propertyUnknown => "Unicode property not found"
  | .notText => "pattern can match invalid UTF-8"
  | .notAscii => "Unicode not allowed here"

structure Flaw where
  cause : Cause
  extent : Extent
  /-- The place that the flaw refers back to. -/
  other : Option Extent := none
  deriving DecidableEq, Repr, Inhabited

/-! ## Showing a flaw -/

/-- The line and the column of an offset, both from one on. -/
def position (line column : Nat) : Nat → List Char → Nat × Nat
  | 0, _ => (line, column)
  | _, [] => (line, column)
  | n + 1, c :: rest =>
      if c = '\n' then position (line + 1) 1 n rest else position line (column + 1) n rest

/-- The lines of a pattern. A line break at the end starts no line. -/
def linesOf (pattern : String) : List String :=
  let pieces := Text.piecesOf '\n' pattern
  let lines := if pieces.getLast? = some "" then pieces.dropLast else pieces
  lines.map fun line =>
    let cs := line.toList
    if cs.getLast? = some '\r' then String.ofList cs.dropLast else line

/-- The carets below a line, from the marked columns in order. -/
def carets (written : Nat) : List (Nat × Nat) → List Char
  | [] => []
  | (start, stop) :: rest =>
      let gap := start - 1 - written
      let length := max 1 (stop - start)
      List.replicate gap ' ' ++ List.replicate length '^' ++ carets (written + gap + length) rest

namespace Flaw

/-- The marked places as pairs of positions, in order. -/
def marks (f : Flaw) (pattern : String) : List ((Nat × Nat) × (Nat × Nat)) :=
  let place (n : Nat) := position 1 1 n pattern.toList
  let extents := f.other.toList ++ [f.extent]
  let sorted := extents.mergeSort fun a b => a.start ≤ b.start
  sorted.map fun e => (place e.start, place e.stop)

def divider : String := String.ofList (List.replicate 79 '~')

/-- The lines of a pattern with the carets below them. A pattern of more lines has numbers before
them. -/
def notated (f : Flaw) (pattern : String) : List String :=
  let lines := linesOf pattern
  let count := lines.length + if pattern.toList.getLast? = some '\n' then 1 else 0
  let width := if count ≤ 1 then 0 else (toString count).length
  let margin := if width = 0 then 4 else width + 2
  let head (number : Nat) : String :=
    if width = 0 then "    "
    else
      let digits := toString number
      String.ofList (List.replicate (width - digits.length) ' ') ++ digits ++ ": "
  lines.zipIdx.flatMap fun (line, i) =>
    let here := (f.marks pattern).filter fun m => m.1.1 = m.2.1 && m.1.1 = i + 1
    let notes :=
      if here = [] then []
      else [String.ofList (List.replicate margin ' ' ++
        carets 0 (here.map fun m => (m.1.2, m.2.2)))]
    (head (i + 1) ++ line) :: notes

/-- Notes on marked places that go over more than one line. -/
def longNotes (f : Flaw) (pattern : String) : List String :=
  ((f.marks pattern).filter fun m => m.1.1 ≠ m.2.1).map fun m =>
    "on line " ++ toString m.1.1 ++ " (column " ++ toString m.1.2 ++ ") through line " ++
      toString m.2.1 ++ " (column " ++ toString (m.2.2 - 1) ++ ")"

def message (f : Flaw) (pattern : String) : String :=
  let lines :=
    if pattern.toList.contains '\n' then
      [divider] ++ f.notated pattern ++ [divider] ++ f.longNotes pattern
    else f.notated pattern
  String.intercalate "\n" (["regex parse error:"] ++ lines ++ ["error: " ++ f.cause.message])

end Flaw

end ScriptTypings.Pattern
