import ScriptTypings.Text.Blank
import Mathlib.Data.List.DropRight

/-!
# Trimmed texts

Trimming takes the blanks off the two ends of a text and nothing else. Blanks that are added at the
ends make no difference to it, and what is left starts and ends with characters that are not blank.
-/

namespace ScriptTypings.Text

variable {cs blanks : List Char}

/-! ## One end -/

/-- The end of a text is a run of blanks. -/
theorem exists_eq_trimEnd_append (cs : List Char) :
    ∃ blanks, (∀ c ∈ blanks, isBlank c = true) ∧ cs = trimEnd cs ++ blanks :=
  ⟨cs.rtakeWhile isBlank, fun _ => List.mem_rtakeWhile_imp,
    List.rdropWhile_append_rtakeWhile.symm⟩

theorem trimEnd_append (cs : List Char) (h : ∀ c ∈ blanks, isBlank c = true) :
    trimEnd (cs ++ blanks) = trimEnd cs := by
  rw [trimEnd, List.reverse_append,
    List.dropWhile_append_of_pos fun c hc => h c (List.mem_reverse.mp hc), trimEnd]

/-- Trimming goes no further than to a character that is not blank. -/
theorem trimStart_append_cons (cs : List Char) {c : Char} (h : isBlank c = false)
    (rest : List Char) : trimStart (cs ++ c :: rest) = trimStart cs ++ c :: rest := by
  rw [trimStart, List.dropWhile_append]
  split
  · next hempty =>
      rw [List.dropWhile_cons_of_neg (by simp [h]), trimStart, List.isEmpty_iff.mp hempty,
        List.nil_append]
  · rfl

theorem not_isBlank_of_head {c : Char} {front : List Char} (hfront : front <+: trimStart cs)
    (h : front.head? = some c) : isBlank c = false := by
  obtain ⟨tail, htail⟩ := hfront
  have hhead : (cs.dropWhile isBlank).head? = some c := by
    rw [← trimStart, ← htail, List.head?_append, h, Option.some_or]
  simpa [hhead] using List.head?_dropWhile_not isBlank cs

theorem not_isBlank_of_getLast {c : Char} (h : (trimEnd cs).getLast? = some c) :
    isBlank c = false := by
  rw [trimEnd, List.getLast?_reverse] at h
  simpa [h] using List.head?_dropWhile_not isBlank cs.reverse

theorem trimStart_eq_self (h : ∀ c, cs.head? = some c → isBlank c = false) :
    trimStart cs = cs := by
  cases cs with
  | nil => rfl
  | cons c rest => exact List.dropWhile_cons_of_neg (by simp [h c rfl])

theorem trimEnd_eq_self (h : ∀ c, cs.getLast? = some c → isBlank c = false) :
    trimEnd cs = cs := by
  have hstart : trimStart cs.reverse = cs.reverse :=
    trimStart_eq_self fun c hc => h c (by rwa [List.head?_reverse] at hc)
  rw [trimEnd, ← trimStart, hstart, List.reverse_reverse]

/-! ## Both ends -/

/-- Nothing is left to trim at the start of a trimmed list. -/
theorem trimStart_trimEnd_trimStart (cs : List Char) :
    trimStart (trimEnd (trimStart cs)) = trimEnd (trimStart cs) :=
  trimStart_eq_self fun _ => not_isBlank_of_head (List.rdropWhile_prefix isBlank _)

theorem trim_trim (s : String) : trim (trim s) = trim s := by
  rw [trim, trim, String.toList_ofList, trimStart_trimEnd_trimStart]
  exact congrArg String.ofList (List.rdropWhile_idempotent isBlank _)

/-- Blanks around a text are trimmed with those that it has. -/
theorem trim_append_append (s : String) {before after : String}
    (hbefore : ∀ c ∈ before.toList, isBlank c = true)
    (hafter : ∀ c ∈ after.toList, isBlank c = true) : trim (before ++ s ++ after) = trim s := by
  have hstart : trimStart (before.toList ++ (s.toList ++ after.toList)) =
      trimStart (s.toList ++ after.toList) := List.dropWhile_append_of_pos hbefore
  rw [trim, trim, String.toList_append, String.toList_append, List.append_assoc, hstart, trimStart,
    List.dropWhile_append, ← trimStart]
  split
  · next hempty =>
      have hnone : after.toList.dropWhile isBlank = [] := List.dropWhile_eq_nil_iff.mpr hafter
      rw [hnone, List.isEmpty_iff.mp hempty]
  · rw [trimEnd_append _ hafter]

/-- A text can be trimmed before it is cut at a character that is not blank. -/
theorem trimEnd_takeWhile_trimEnd {p : Char → Bool} (hp : ∀ c, isBlank c = true → p c = true)
    (cs : List Char) : trimEnd ((trimEnd cs).takeWhile p) = trimEnd (cs.takeWhile p) := by
  obtain ⟨blanks, hblanks, hcs⟩ := exists_eq_trimEnd_append cs
  have hkept : blanks.takeWhile p = blanks :=
    List.takeWhile_eq_self_iff.mpr fun c hc => hp c (hblanks c hc)
  conv_rhs => rw [hcs, List.takeWhile_append, hkept]
  split
  · next hall =>
      rw [trimEnd_append _ hblanks, List.IsPrefix.eq_of_length (List.takeWhile_prefix p) hall]
  · rfl

end ScriptTypings.Text
