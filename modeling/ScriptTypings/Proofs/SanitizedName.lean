import ScriptTypings.Proofs.PrintedText
import Mathlib.Data.List.Forall2

/-!
# Sanitized names

Sanitizing makes an identifier of every text and leaves identifiers as they are. It cannot be
undone: characters that identifiers do not have are all read as underscores, and an empty text or
one that starts with a digit is read with an underscore in front. Two texts become the same
identifier exactly if they are the same when read in this way. A word without an underscore comes
from no other text than itself.
-/

namespace ScriptTypings.Identifier

/-- A word that does not start with a digit. -/
def IsIdentifier (name : String) : Prop :=
  IsWord name ∧ name.toList.head?.any Char.isDigit = false

instance (name : String) : Decidable (IsIdentifier name) :=
  inferInstanceAs (Decidable (IsWord name ∧ _))

/-- An underscore, or a character that is replaced by one. -/
def ReadsUnderscore (c : Char) : Prop :=
  c = '_' ∨ isIdentifierChar c = false

instance (c : Char) : Decidable (ReadsUnderscore c) :=
  inferInstanceAs (Decidable (_ ∨ _))

/-- The character that stands for another one in an identifier. -/
def read (c : Char) : Char :=
  if isIdentifierChar c then c else '_'

theorem isIdentifierChar_read (c : Char) : isIdentifierChar (read c) = true := by
  rw [read]
  split
  · assumption
  · decide

theorem isDigit_read (c : Char) : (read c).isDigit = c.isDigit := by
  rw [read]
  split
  · rfl
  · next h =>
      have hdigit : c.isDigit = false := by
        simp only [isIdentifierChar, Char.isAlphanum, Bool.or_eq_true, not_or] at h
        simpa using h.1.1.2
      rw [hdigit]
      rfl

theorem read_eq_underscore_iff (c : Char) : read c = '_' ↔ ReadsUnderscore c := by
  by_cases h : isIdentifierChar c = true <;> simp [read, ReadsUnderscore, h]

/-- A character that does not read as an underscore stands for no other one. -/
theorem read_eq_iff {d : Char} (hd : ¬ ReadsUnderscore d) (c : Char) : read c = d ↔ c = d := by
  constructor
  · intro h
    rw [read] at h
    split at h
    · exact h
    · exact absurd (Or.inl h.symm) hd
  · rintro rfl
    simp only [ReadsUnderscore, not_or, Bool.not_eq_false] at hd
    simp [read, hd.2]

/-- Two characters read alike exactly if they are equal or both read as underscores. -/
theorem read_eq_read_iff (c d : Char) :
    read c = read d ↔ c = d ∨ ReadsUnderscore c ∧ ReadsUnderscore d := by
  by_cases hd : ReadsUnderscore d
  · rw [(read_eq_underscore_iff d).mpr hd, read_eq_underscore_iff]
    constructor
    · exact fun hc => Or.inr ⟨hc, hd⟩
    · rintro (rfl | ⟨hc, -⟩)
      · exact hd
      · exact hc
  · rw [(read_eq_iff hd d).mpr rfl, read_eq_iff hd]
    simp [hd]

theorem map_read_eq_iff {ds : List Char} (hds : ∀ d ∈ ds, ¬ ReadsUnderscore d) (cs : List Char) :
    cs.map read = ds ↔ cs = ds := by
  induction ds generalizing cs with
  | nil => simp
  | cons d rest ih =>
      cases cs with
      | nil => simp
      | cons c cs =>
          rw [List.map_cons, List.cons.injEq, List.cons.injEq, read_eq_iff (hds d (by simp)),
            ih fun e he => hds e (by simp [he])]

/-! ## Whole texts -/

/-- A text with an underscore in front if it is empty or starts with a digit. -/
def led : List Char → List Char
  | [] => ['_']
  | c :: rest => if c.isDigit then '_' :: c :: rest else c :: rest

theorem sanitizeChars_eq (cs : List Char) : sanitizeChars cs = (led cs).map read := by
  cases cs with
  | nil => rfl
  | cons c rest =>
      change (if (read c).isDigit then '_' :: read c :: rest.map read
        else read c :: rest.map read) = _
      rw [isDigit_read, led]
      split <;> rfl

theorem head_led (cs : List Char) : ∃ d rest, led cs = d :: rest ∧ d.isDigit = false := by
  cases cs with
  | nil => exact ⟨'_', [], rfl, rfl⟩
  | cons c rest =>
      rw [led]
      cases hc : c.isDigit with
      | true => exact ⟨'_', c :: rest, rfl, rfl⟩
      | false => exact ⟨c, rest, rfl, hc⟩

theorem led_eq_cons_iff {d : Char} (hd : d ≠ '_') (hdigit : d.isDigit = false)
    (cs rest : List Char) : led cs = d :: rest ↔ cs = d :: rest := by
  cases cs with
  | nil => simp [led, hd.symm]
  | cons c cs =>
      rw [led]
      split
      · next hc =>
          constructor
          · intro h
            exact absurd (List.cons.inj h).1.symm hd
          · intro h
            rw [(List.cons.inj h).1, hdigit] at hc
            cases hc
      · exact Iff.rfl

theorem sanitize_eq_iff (s name : String) :
    sanitize s = name ↔ (led s.toList).map read = name.toList := by
  rw [← String.toList_inj, sanitize, String.toList_ofList, sanitizeChars_eq]

theorem isIdentifier_sanitize (s : String) : IsIdentifier (sanitize s) := by
  obtain ⟨d, rest, hled, hd⟩ := head_led s.toList
  have hlist : (sanitize s).toList = read d :: rest.map read := by
    rw [← (sanitize_eq_iff s _).mp rfl, hled, List.map_cons]
  refine ⟨⟨?_, ?_⟩, ?_⟩
  · intro h
    rw [h] at hlist
    cases hlist
  · rw [hlist, ← List.map_cons]
    intro c hc
    obtain ⟨e, -, rfl⟩ := List.mem_map.mp hc
    exact isIdentifierChar_read e
  · rw [hlist]
    simpa [isDigit_read] using hd

/-- Two texts that are the same up to what reads as an underscore. -/
def ReadsAlike (a b : String) : Prop :=
  List.Forall₂ (fun c d => c = d ∨ ReadsUnderscore c ∧ ReadsUnderscore d)
    (led a.toList) (led b.toList)

theorem sanitize_eq_sanitize_iff (a b : String) : sanitize a = sanitize b ↔ ReadsAlike a b := by
  rw [sanitize, sanitize, String.ofList_inj, sanitizeChars_eq, sanitizeChars_eq,
    ← List.forall₂_eq_eq_eq, List.forall₂_map_left_iff, List.forall₂_map_right_iff, ReadsAlike]
  simp only [read_eq_read_iff]

theorem sanitize_of_isIdentifier {s : String} (h : IsIdentifier s) : sanitize s = s := by
  obtain ⟨⟨hne, hchars⟩, hdigit⟩ := h
  have hled : led s.toList = s.toList := by
    cases hs : s.toList with
    | nil => exact absurd (String.toList_eq_nil_iff.mp hs) hne
    | cons c rest =>
        have hc : c.isDigit = false := by simpa [hs] using hdigit
        simp [led, hc]
  rw [sanitize_eq_iff, hled]
  calc
    s.toList.map read = s.toList.map id :=
      List.map_congr_left fun c hc => if_pos (hchars c hc)
    _ = s.toList := List.map_id _

theorem sanitize_eq_self_iff (s : String) : sanitize s = s ↔ IsIdentifier s := by
  constructor
  · intro h
    rw [← h]
    exact isIdentifier_sanitize s
  · exact sanitize_of_isIdentifier

/-! ## Places of characters -/

/-- The number of characters that are put in front of a text: one if it is empty or starts with a
digit of ASCII, else none. -/
def shift (s : String) : Nat :=
  if s = "" ∨ s.toList.head?.any Char.isDigit = true then 1 else 0

theorem led_eq_replicate_append (s : String) :
    led s.toList = List.replicate (shift s) '_' ++ s.toList := by
  cases hs : s.toList with
  | nil =>
      have hempty : s = "" := String.toList_eq_nil_iff.mp hs
      simp [led, shift, hempty]
  | cons c rest =>
      have hne : s ≠ "" := by
        rintro rfl
        cases hs
      cases hc : c.isDigit <;> simp [led, shift, hs, hne, hc]

/-- Behind what is put in front, each character stands for one of the text. -/
theorem toList_sanitize (s : String) :
    (sanitize s).toList = List.replicate (shift s) '_' ++ s.toList.map read := by
  have hunderscore : read '_' = '_' := (read_eq_underscore_iff '_').mpr (Or.inl rfl)
  rw [← (sanitize_eq_iff s _).mp rfl, led_eq_replicate_append, List.map_append,
    List.map_replicate, hunderscore]

theorem length_sanitize (s : String) : (sanitize s).length = s.length + shift s := by
  rw [← String.length_toList, toList_sanitize, List.length_append, List.length_replicate,
    List.length_map, String.length_toList, Nat.add_comm]

theorem getElem?_sanitize (s : String) (i : Nat) :
    (sanitize s).toList[i + shift s]? = s.toList[i]?.map read := by
  rw [toList_sanitize, List.getElem?_append_right (by simp), List.length_replicate,
    Nat.add_sub_cancel, List.getElem?_map]

/-- Sanitizing projects the texts onto the identifiers. What comes out is an identifier, identifiers
alone stay as they are, and so a second time changes nothing. A text gets longer by one character
exactly if it is empty or starts with a digit. Moved by as much, every character that identifiers
can have is kept in its place, and every other one is an underscore. -/
theorem sanitizing_projects_onto_identifiers (s : String) :
    IsIdentifier (sanitize s) ∧
    (sanitize s = s ↔ IsIdentifier s) ∧
    sanitize (sanitize s) = sanitize s ∧
    (sanitize s).length =
      s.length + (if s = "" ∨ s.toList.head?.any Char.isDigit = true then 1 else 0) ∧
    ∀ (i : Nat) (c : Char), s.toList[i]? = some c →
      (sanitize s).toList[i + shift s]? = some (if isIdentifierChar c then c else '_') := by
  refine ⟨isIdentifier_sanitize s, sanitize_eq_self_iff s, ?_, length_sanitize s, ?_⟩
  · exact sanitize_of_isIdentifier (isIdentifier_sanitize s)
  · intro i c hc
    rw [getElem?_sanitize, hc, Option.map_some, read]

/-- The digit and the letter of `2d-é` move by one, and the two characters behind them become
underscores. -/
theorem sanitizing_of_digit_led_name :
    "2d-é".toList[1]? = some 'd' ∧ "2d-é".toList[3]? = some 'é' ∧
    (sanitize "2d-é").toList[2]? = some 'd' ∧ (sanitize "2d-é").toList[4]? = some '_' := by
  have hd : "2d-é".toList[1]? = some 'd' := by decide
  have hé : "2d-é".toList[3]? = some 'é' := by decide
  obtain ⟨-, -, -, -, hplace⟩ := sanitizing_projects_onto_identifiers "2d-é"
  exact ⟨hd, hé, hplace 1 'd' hd, hplace 3 'é' hé⟩

/-! ## Words without an underscore -/

/-- An identifier without an underscore. -/
def IsPlain (word : String) : Prop :=
  IsIdentifier word ∧ '_' ∉ word.toList

instance (word : String) : Decidable (IsPlain word) :=
  inferInstanceAs (Decidable (_ ∧ _))

theorem IsPlain.not_readsUnderscore {word : String} (h : IsPlain word) :
    ∀ c ∈ word.toList, ¬ ReadsUnderscore c := by
  rintro c hc (rfl | hchar)
  · exact h.2 hc
  · rw [h.1.1.2 c hc] at hchar
    cases hchar

/-- A text that is led to a plain word and what follows it is that text. -/
theorem IsPlain.led_eq_iff {word : String} (h : IsPlain word) (cs rest : List Char) :
    led cs = word.toList ++ rest ↔ cs = word.toList ++ rest := by
  have hplain := h.not_readsUnderscore
  obtain ⟨⟨⟨hne, -⟩, hdigit⟩, -⟩ := h
  cases hword : word.toList with
  | nil => exact absurd (String.toList_eq_nil_iff.mp hword) hne
  | cons d tail =>
      have hd : d.isDigit = false := by simpa [hword] using hdigit
      rw [hword] at hplain
      exact led_eq_cons_iff (fun h => hplain d (by simp) (Or.inl h)) hd cs _

/-- A plain word comes from no other text. -/
theorem sanitize_eq_iff_of_isPlain {word : String} (h : IsPlain word) (s : String) :
    sanitize s = word ↔ s = word := by
  have hled := h.led_eq_iff s.toList []
  rw [List.append_nil] at hled
  rw [sanitize_eq_iff, map_read_eq_iff h.not_readsUnderscore, hled, String.toList_inj]

/-- A plain word with an underscore comes from that word with one character behind it. -/
theorem sanitize_eq_append_iff {word : String} (h : IsPlain word) (s : String) :
    sanitize s = word ++ "_" ↔ ∃ c, ReadsUnderscore c ∧ s.toList = word.toList ++ [c] := by
  rw [sanitize_eq_iff, String.toList_append, List.map_eq_append_iff]
  constructor
  · rintro ⟨front, back, hled, hfront, hback⟩
    obtain ⟨c, rfl, hc⟩ := List.map_eq_singleton_iff.mp hback
    rw [map_read_eq_iff h.not_readsUnderscore] at hfront
    rw [hfront, h.led_eq_iff] at hled
    exact ⟨c, (read_eq_underscore_iff c).mp hc, hled⟩
  · rintro ⟨c, hc, hs⟩
    refine ⟨word.toList, [c], (h.led_eq_iff _ _).mpr hs, ?_, ?_⟩
    · exact (map_read_eq_iff h.not_readsUnderscore _).mpr rfl
    · rw [List.map_singleton, (read_eq_underscore_iff c).mpr hc]
      rfl

end ScriptTypings.Identifier
