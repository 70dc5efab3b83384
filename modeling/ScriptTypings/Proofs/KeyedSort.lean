import Mathlib.Data.List.Basic
import Mathlib.Data.List.Nodup
import Mathlib.Data.List.Perm.Basic

/-!
# Stable sorting by a key

Sorting by a key keeps the order of the elements that share a key, and the keys decide all else. So
the sorted list carries exactly this much of the list it came from: for each key, the subsequence
of the elements with that key.
-/

namespace ScriptTypings.KeyedSort

variable {α κ : Type} [LE κ] [DecidableLE κ] [DecidableEq κ] [Std.IsLinearOrder κ] (key : α → κ)

omit [DecidableEq κ] in
theorem decide_trans (a b c : α) (hab : decide (key a ≤ key b) = true)
    (hbc : decide (key b ≤ key c) = true) : decide (key a ≤ key c) = true := by
  simp only [decide_eq_true_eq] at hab hbc ⊢
  exact Std.le_trans hab hbc

omit [DecidableEq κ] in
theorem decide_total (a b : α) :
    (decide (key a ≤ key b) || decide (key b ≤ key a)) = true := by
  simpa using Std.le_total

omit [DecidableEq κ] in
theorem sorted_mergeSort (l : List α) :
    (l.mergeSort fun a b => decide (key a ≤ key b)).Pairwise fun a b => key a ≤ key b := by
  have h := List.pairwise_mergeSort (decide_trans key) (decide_total key) l
  simpa only [decide_eq_true_eq] using h

/-- Sorting keeps the subsequence of each key. -/
theorem filter_mergeSort (l : List α) (k : κ) :
    ((l.mergeSort fun a b => decide (key a ≤ key b)).filter fun a => key a = k) =
      l.filter fun a => key a = k := by
  have hties : (l.filter fun a => key a = k).Pairwise
      fun a b => decide (key a ≤ key b) = true := by
    apply List.pairwise_of_forall_mem_list
    intro a ha b hb
    have ha : key a = k := by simpa using (List.mem_filter.mp ha).2
    have hb : key b = k := by simpa using (List.mem_filter.mp hb).2
    simp [ha, hb]
  have hsub : (l.filter fun a => key a = k).Sublist
      (l.mergeSort fun a b => decide (key a ≤ key b)) :=
    List.sublist_mergeSort (decide_trans key) (decide_total key) hties List.filter_sublist
  have hsub : (l.filter fun a => key a = k).Sublist
      ((l.mergeSort fun a b => decide (key a ≤ key b)).filter fun a => key a = k) := by
    simpa using hsub.filter fun a => decide (key a = k)
  have hlen := ((List.mergeSort_perm l fun a b => decide (key a ≤ key b)).filter
    fun a => decide (key a = k)).length_eq
  exact (hsub.eq_of_length hlen.symm).symm

omit [LE κ] [DecidableLE κ] [Std.IsLinearOrder κ] in
/-- The head of a list is in every list with the same subsequence for its key. -/
theorem head_mem_of_filter_eq {a : α} {xs ys : List α}
    (h : ((a :: xs).filter fun b => key b = key a) = ys.filter fun b => key b = key a) :
    a ∈ ys := by
  have ha : a ∈ (a :: xs).filter fun b => key b = key a := by simp
  rw [h] at ha
  exact (List.mem_filter.mp ha).1

omit [DecidableLE κ] in
/-- A sorted list is determined by its subsequences for each key. -/
theorem eq_of_sorted_of_filter_eq {xs ys : List α} (hx : xs.Pairwise fun a b => key a ≤ key b)
    (hy : ys.Pairwise fun a b => key a ≤ key b)
    (h : ∀ k, (xs.filter fun a => key a = k) = ys.filter fun a => key a = k) : xs = ys := by
  induction xs generalizing ys with
  | nil =>
      cases ys with
      | nil => rfl
      | cons b ys => simpa using h (key b)
  | cons a xs ih =>
      cases ys with
      | nil => simpa using h (key a)
      | cons b ys =>
          rw [List.pairwise_cons] at hx hy
          -- Each head is in the other list, so neither key is below the other.
          have hab : key a ≤ key b := by
            rcases List.mem_cons.mp (head_mem_of_filter_eq key (h (key b)).symm) with rfl | hb
            · exact Std.le_refl _
            · exact hx.1 b hb
          have hba : key b ≤ key a := by
            rcases List.mem_cons.mp (head_mem_of_filter_eq key (h (key a))) with rfl | ha
            · exact Std.le_refl _
            · exact hy.1 a ha
          have hkey : key a = key b := Std.le_antisymm hab hba
          have hhead := h (key a)
          simp only [List.filter_cons, hkey, decide_true, if_true, List.cons.injEq] at hhead
          obtain ⟨rfl, htail⟩ := hhead
          congr 1
          apply ih hx.2 hy.2
          intro k
          by_cases hk : key a = k
          · subst hk
            exact htail
          · simpa [hk] using h k

/-- Leaving elements out of a sorted list gives what they would be sorted to without them. -/
theorem filter_mergeSort_comm (l : List α) (p : α → Bool) :
    ((l.mergeSort fun a b => decide (key a ≤ key b)).filter p) =
      (l.filter p).mergeSort fun a b => decide (key a ≤ key b) := by
  apply eq_of_sorted_of_filter_eq key ((sorted_mergeSort key l).filter p) (sorted_mergeSort key _)
  intro k
  rw [filter_mergeSort, List.filter_comm, filter_mergeSort, List.filter_comm]

omit [DecidableEq κ] [Std.IsLinearOrder κ] in
/-- What is not the key rides along. -/
theorem mergeSort_map {β : Type} (f : β → α) (l : List β) :
    ((l.map f).mergeSort fun a b => decide (key a ≤ key b)) =
      (l.mergeSort fun a b => decide (key (f a) ≤ key (f b))).map f := by
  symm
  apply List.map_mergeSort
  exact fun _ _ _ _ => rfl

/-- Two lists sort to the same list exactly if they have the same subsequence for each key. -/
theorem mergeSort_eq_iff (xs ys : List α) :
    ((xs.mergeSort fun a b => decide (key a ≤ key b)) =
        ys.mergeSort fun a b => decide (key a ≤ key b)) ↔
      ∀ k, (xs.filter fun a => key a = k) = ys.filter fun a => key a = k := by
  constructor
  · intro h k
    rw [← filter_mergeSort key xs k, h, filter_mergeSort key ys k]
  · intro h
    apply eq_of_sorted_of_filter_eq key (sorted_mergeSort key xs) (sorted_mergeSort key ys)
    intro k
    rw [filter_mergeSort, filter_mergeSort]
    exact h k

omit [DecidableEq κ] in
/-- Where no key occurs twice, sorting forgets the order altogether. -/
theorem mergeSort_eq_of_perm {xs ys : List α} (hperm : xs.Perm ys) (hkeys : (xs.map key).Nodup) :
    (xs.mergeSort fun a b => decide (key a ≤ key b)) =
      ys.mergeSort fun a b => decide (key a ≤ key b) := by
  have hsorted : (xs.mergeSort fun a b => decide (key a ≤ key b)).Perm
      (ys.mergeSort fun a b => decide (key a ≤ key b)) :=
    (List.mergeSort_perm xs _).trans (hperm.trans (List.mergeSort_perm ys _).symm)
  apply List.Perm.eq_of_pairwise _ (sorted_mergeSort key xs) (sorted_mergeSort key ys) hsorted
  intro a b ha hb hab hba
  have ha : a ∈ xs := List.mem_mergeSort.mp ha
  have hb : b ∈ xs := hperm.mem_iff.mpr (List.mem_mergeSort.mp hb)
  exact List.inj_on_of_nodup_map hkeys ha hb (Std.le_antisymm hab hba)

end ScriptTypings.KeyedSort
