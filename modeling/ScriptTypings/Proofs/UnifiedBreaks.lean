import ScriptTypings.Text.LineBreaks

/-!
# Line breaks in one pass

Normalizing a text replaces twice, first the CR LF pairs and then every CR that is left. The second
replacement sees the LF that the first one wrote, and a CR may stand in front of it. Both together
still do what one pass from left to right does: each CR becomes an LF of its own unless an LF
follows it, which then stands for both.
-/

namespace ScriptTypings.Text

/-- One pass over a text: a CR LF pair and any other CR become one LF each, all else is copied. -/
def unifyBreaks : List Char → List Char
  | [] => []
  | '\r' :: '\n' :: rest => '\n' :: unifyBreaks rest
  | '\r' :: rest => '\n' :: unifyBreaks rest
  | c :: rest => c :: unifyBreaks rest

/-- One pass over a text that may start with byte order marks, of which one is dropped. -/
def onePass : List Char → List Char
  | '\uFEFF' :: rest => unifyBreaks rest
  | cs => unifyBreaks cs

/-! ## Breaks -/

/-- A character that starts no CR LF pair is kept. -/
theorem joinPairs_cons {c : Char} {rest : List Char}
    (h : c = '\r' → rest.head? ≠ some '\n') : joinPairs (c :: rest) = c :: joinPairs rest := by
  cases rest with
  | nil => rfl
  | cons d more =>
      rw [joinPairs, if_neg]
      rintro ⟨hc, rfl⟩
      exact h hc rfl

/-- The two replacements together are one pass. -/
theorem replaceReturns_joinPairs (cs : List Char) :
    replaceReturns (joinPairs cs) = unifyBreaks cs := by
  -- The pass looks one character ahead, and so do the cases: a CR with an LF behind it goes in the
  -- first replacement, any other CR in the second.
  fun_induction unifyBreaks cs with
  | case1 => rfl
  | case2 rest ih =>
      rw [← ih]
      rfl
  | case3 rest hnext ih =>
      have hhead : rest.head? ≠ some '\n' := by
        intro h
        obtain ⟨more, hmore⟩ := List.head?_eq_some_iff.mp h
        exact hnext more hmore
      rw [joinPairs_cons fun _ => hhead, ← ih]
      rfl
  | case4 c rest _ hc ih =>
      rw [joinPairs_cons fun h => absurd h hc, ← ih, replaceReturns, List.map_cons, if_neg hc]
      rfl

theorem return_not_mem_unifyBreaks (cs : List Char) : '\r' ∉ unifyBreaks cs := by
  rw [← replaceReturns_joinPairs, replaceReturns, List.mem_map]
  rintro ⟨c, -, hc⟩
  split at hc
  · exact absurd hc (by decide)
  · contradiction

theorem unifyBreaks_eq_self_iff (cs : List Char) : unifyBreaks cs = cs ↔ '\r' ∉ cs := by
  constructor
  · intro h
    rw [← h]
    exact return_not_mem_unifyBreaks cs
  · intro h
    fun_induction unifyBreaks cs with
    | case1 => rfl
    | case2 rest ih => simp at h
    | case3 rest hnext ih => simp at h
    | case4 c rest _ hc ih => rw [ih fun hmem => h (List.mem_cons_of_mem _ hmem)]

/-- A pass neither makes nor loses a first character that is no line break. -/
theorem head?_unifyBreaks {c : Char} (hreturn : c ≠ '\r') (hfeed : c ≠ '\n') (cs : List Char) :
    (unifyBreaks cs).head? = some c ↔ cs.head? = some c := by
  fun_cases unifyBreaks cs with
  | case1 => rfl
  | case2 rest => simp [hreturn.symm, hfeed.symm]
  | case3 rest => simp [hreturn.symm, hfeed.symm]
  | case4 d rest => rfl

/-! ## Byte order marks -/

theorem dropMark_eq_self_iff (cs : List Char) :
    dropMark cs = cs ↔ cs.head? ≠ some byteOrderMark := by
  cases cs with
  | nil => simp [dropMark]
  | cons c rest =>
      rw [dropMark]
      split
      · next hc => simp [hc]
      · next hc => simpa using hc

theorem dropMark_sublist (cs : List Char) : (dropMark cs).Sublist cs := by
  cases cs with
  | nil => exact List.Sublist.refl _
  | cons c rest =>
      rw [dropMark]
      split
      · exact List.sublist_cons_self c rest
      · exact List.Sublist.refl _

/-- A mark is left at the start of a text that had two. -/
theorem head?_dropMark_eq_mark_iff (cs : List Char) :
    (dropMark cs).head? = some byteOrderMark ↔ [byteOrderMark, byteOrderMark] <+: cs := by
  cases cs with
  | nil => simp [dropMark]
  | cons c rest =>
      rw [dropMark, List.cons_prefix_cons]
      split
      · next hc => cases rest <;> simp [hc, eq_comm]
      · next hc => simp [hc, Ne.symm hc]

theorem onePass_eq (cs : List Char) : onePass cs = unifyBreaks (dropMark cs) := by
  fun_cases onePass cs with
  | case1 rest => rfl
  | case2 _ hother =>
      rw [(dropMark_eq_self_iff cs).mpr]
      intro hmark
      obtain ⟨rest, hrest⟩ := List.head?_eq_some_iff.mp hmark
      exact hother rest hrest

/-! ## Normalized texts -/

theorem toList_normalize (s : String) : (normalize s).toList = unifyBreaks (dropMark s.toList) := by
  rw [normalize]
  split
  · rw [String.toList_ofList, replaceReturns_joinPairs]
  · next h => rw [String.toList_ofList, (unifyBreaks_eq_self_iff _).mpr h]

theorem return_not_mem_normalize (s : String) : '\r' ∉ (normalize s).toList := by
  rw [toList_normalize]
  exact return_not_mem_unifyBreaks _

/-- Normalizing again can only drop a mark that the first time left. -/
theorem normalize_normalize_iff (s : String) :
    normalize (normalize s) = normalize s ↔ ¬ [byteOrderMark, byteOrderMark] <+: s.toList := by
  have hagain : (normalize (normalize s)).toList = dropMark (normalize s).toList := by
    rw [toList_normalize (normalize s), unifyBreaks_eq_self_iff]
    exact fun h => return_not_mem_normalize s ((dropMark_sublist _).subset h)
  rw [← String.toList_inj, hagain, dropMark_eq_self_iff, toList_normalize, ne_eq,
    head?_unifyBreaks (by decide) (by decide), head?_dropMark_eq_mark_iff]

/-- Normalizing is one pass: it drops one leading mark, writes each CR LF pair and each other CR as
one LF, and copies the rest. A pass changes just the texts with a CR, so that leaving the others
alone agrees with it, as the two replacements do. The result has no CR, and normalizing again
changes nothing exactly if the text does not start with two marks. -/
theorem normalize_is_one_pass (s : String) :
    normalize s = String.ofList (onePass s.toList) ∧
    (∀ cs, replaceReturns (joinPairs cs) = unifyBreaks cs) ∧
    (∀ cs, unifyBreaks cs = cs ↔ '\r' ∉ cs) ∧
    '\r' ∉ (normalize s).toList ∧
    (normalize (normalize s) = normalize s ↔ ¬ ['\uFEFF', '\uFEFF'] <+: s.toList) := by
  refine ⟨?_, replaceReturns_joinPairs, unifyBreaks_eq_self_iff, return_not_mem_normalize s,
    normalize_normalize_iff s⟩
  rw [← String.toList_inj, toList_normalize, String.toList_ofList, onePass_eq]

end ScriptTypings.Text
