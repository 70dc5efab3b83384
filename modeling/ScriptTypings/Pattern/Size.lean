import ScriptTypings.Pattern.Parser

/-! # Sizes of patterns

Repetitions can make a pattern large. Patterns over a limit are refused. -/

namespace ScriptTypings.Pattern

/-- About how many states a set of characters takes. -/
def setSize : CharSet → Nat
  | .nothing => 1
  | .range _ last => if last.toNat < 0x80 then 1 else 4
  | .decimal => 150
  | .blank => 12
  | .word => 1450
  | .union s t => setSize s + setSize t
  | .intersection s t => max (setSize s) (setSize t)
  | .complement s => setSize s + 8
  | .anyCase s => 2 * setSize s

/-- About how many states a pattern takes. -/
def size : Pattern → Nat
  | .empty | .anchor _ => 1
  | .one s => setSize s
  | .seq p q => size p + size q
  | .alt p q => size p + size q + 1
  | .times p least most =>
      match most with
      | none => max least 1 * size p + 1
      | some m => least * size p + (m - least) * (size p + 1)

/-- The number of bytes that a pattern may take, and those of one state. -/
def byteLimit : Nat := 10485760
def stateBytes : Nat := 32

/-- Reads a pattern of a reasonable size. A refusal is given as a message. -/
def ofText (text : String) : Except String Pattern :=
  match read text with
  | .error f => .error (f.message text)
  | .ok p =>
      if byteLimit < stateBytes * p.size then
        .error s!"Compiled regex exceeds size limit of {byteLimit} bytes."
      else .ok p

end ScriptTypings.Pattern
