import ScriptTypings.Proofs.MappedFile
import Mathlib.Data.List.Count

/-!
# Repeated interface names

Interfaces that share a name are found by comparing neighbours in the sorted list. Sorting brings
all interfaces of a name together, so each of them but the first has one of its name right before
it, and the reported names are those of the records with one occurrence of each taken away.
-/

namespace ScriptTypings

/-- One step of the comparison of neighbours. -/
theorem repeatedNames_cons (a : String) (rest : List String) :
    repeatedNames (a :: rest) =
      if rest.head? = some a then a :: repeatedNames rest else repeatedNames rest := by
  cases rest with
  | nil => rfl
  | cons b rest => simp [repeatedNames, eq_comm]

theorem repeatedNames_sublist (names : List String) : (repeatedNames names).Sublist names := by
  induction names with
  | nil => exact List.Sublist.refl _
  | cons a rest ih =>
      rw [repeatedNames_cons]
      split
      · exact ih.cons_cons a
      · exact ih.cons a

/-- In a sorted list, a name that occurs again does so right away. -/
theorem head?_eq_some_iff_mem {a : String} {rest : List String}
    (h : (a :: rest).Pairwise (· ≤ ·)) : rest.head? = some a ↔ a ∈ rest := by
  cases rest with
  | nil => simp
  | cons b rest =>
      rw [List.pairwise_cons, List.pairwise_cons] at h
      obtain ⟨ha, hb, -⟩ := h
      constructor
      · intro hhead
        rw [List.head?_cons, Option.some.injEq] at hhead
        exact hhead ▸ List.mem_cons_self
      · intro hmem
        rcases List.mem_cons.mp hmem with rfl | hmem
        · rfl
        · rw [List.head?_cons, Std.le_antisymm (hb a hmem) (ha b List.mem_cons_self)]

/-- In a sorted list, each name is reported once less than it occurs. -/
theorem count_repeatedNames {names : List String} (h : names.Pairwise (· ≤ ·)) (n : String) :
    (repeatedNames names).count n = names.count n - 1 := by
  induction names with
  | nil => rfl
  | cons a rest ih =>
      have hrest := ih h.of_cons
      rw [repeatedNames_cons]
      by_cases ha : a = n
      · subst ha
        rw [List.count_cons_self]
        by_cases hmem : a ∈ rest
        · have hpos : 0 < rest.count a := List.count_pos_iff.mpr hmem
          rw [if_pos ((head?_eq_some_iff_mem h).mpr hmem), List.count_cons_self, hrest]
          omega
        · have hzero : rest.count a = 0 := List.count_eq_zero.mpr hmem
          rw [if_neg (mt (head?_eq_some_iff_mem h).mp hmem), hrest]
          omega
      · rw [List.count_cons_of_ne ha]
        split
        · rw [List.count_cons_of_ne ha, hrest]
        · exact hrest

theorem repeatedNames_eq_nil_iff {names : List String} (h : names.Pairwise (· ≤ ·)) :
    repeatedNames names = [] ↔ names.Nodup := by
  rw [List.nodup_iff_count_le_one, List.eq_nil_iff_forall_not_mem]
  apply forall_congr'
  intro n
  rw [← List.count_eq_zero, count_repeatedNames h]
  omega

/-- The interface names of the records of some scripts, in the order of the scripts. -/
def recordNames (scripts : List ScriptClasses) : List String :=
  (recordsOf scripts).map fun r => interfaceName r.1 r.2

theorem sortedNames_perm (scripts : List ScriptClasses) :
    ((sortedInterfaces scripts).map Interface.name).Perm (recordNames scripts) := by
  have h := (sortedInterfaces_perm scripts).map Interface.name
  rwa [List.map_map] at h

theorem sortedNames_ordered (scripts : List ScriptClasses) :
    ((sortedInterfaces scripts).map Interface.name).Pairwise (· ≤ ·) :=
  List.pairwise_map.mpr (sortedInterfaces_ordered scripts)

/-- The sorted names do not depend on the order of the scripts. -/
theorem sortedNames_eq_of_perm {xs ys : List ScriptClasses} (h : xs.Perm ys) :
    (sortedInterfaces xs).map Interface.name = (sortedInterfaces ys).map Interface.name := by
  have hrecords : (recordNames xs).Perm (recordNames ys) := (h.flatMap_right _).map _
  have hperm := (sortedNames_perm xs).trans (hrecords.trans (sortedNames_perm ys).symm)
  apply hperm.eq_of_pairwise _ (sortedNames_ordered xs) (sortedNames_ordered ys)
  intro a b _ _ hab hba
  exact Std.le_antisymm hab hba

/-- All repeated interface names are reported. There is one warning less for a name than there are
records with it, the warnings come in the order of the names, and there is none exactly if all names
are different. Where the scripts stand does not matter. -/
theorem repeated_interfaces_all_reported (scripts : List ScriptClasses) (elapsed : String) :
    ∃ names : List String,
      mappingLog scripts = names.map .interfaceRepeated ∧
      ((mappingLog scripts).map fun e => (e.level, e.message elapsed)) =
        names.map (fun n =>
          (.warn, "interface " ++ n ++
            " is declared by more than one script; declarations will merge")) ∧
      (∀ n, names.count n = (recordNames scripts).count n - 1) ∧
      names.Pairwise (· ≤ ·) ∧
      (mappingLog scripts = [] ↔ (recordNames scripts).Nodup) ∧
      ∀ moved : List ScriptClasses, moved.Perm scripts → mappingLog moved = mappingLog scripts := by
  have hordered := sortedNames_ordered scripts
  have hperm := sortedNames_perm scripts
  refine ⟨repeatedNames ((sortedInterfaces scripts).map Interface.name), rfl, ?_, ?_,
    hordered.sublist (repeatedNames_sublist _), ?_, ?_⟩
  · rw [mappingLog, List.map_map]
    rfl
  · intro n
    rw [count_repeatedNames hordered, hperm.count_eq]
  · rw [mappingLog, List.map_eq_nil_iff, repeatedNames_eq_nil_iff hordered, hperm.nodup_iff]
  · intro moved hmoved
    rw [mappingLog, mappingLog, sortedNames_eq_of_perm hmoved]

/-- Three classes whose names become the same, and one between them that keeps its own. -/
def scatteredScripts : List ScriptClasses :=
  [⟨.ofPath "ai/enemy-ai.gd", [{ extendsClass := some "Node" }]⟩,
   ⟨.ofPath "hero.gd", [{ name := some "Hero" }]⟩,
   ⟨.ofPath "ai/enemy ai.gd", [{ extendsClass := some "Node2D" }]⟩,
   ⟨.ofPath "boss.gd", [{ name := some "enemy_ai" }]⟩]

/-- The name that three of the scripts share is reported twice, in either order of the scripts. -/
theorem repeated_interfaces_of_scatteredScripts :
    (mappingLog scatteredScripts).count (.interfaceRepeated "enemy_ai") = 2 ∧
    scatteredScripts.reverse.Perm scatteredScripts ∧
    mappingLog scatteredScripts.reverse = mappingLog scatteredScripts := by
  obtain ⟨names, hlog, -, hcount, -, -, hmoved⟩ :=
    repeated_interfaces_all_reported scatteredScripts ""
  have hperm := List.reverse_perm scatteredScripts
  refine ⟨?_, hperm, hmoved _ hperm⟩
  have hinjective : Function.Injective Event.interfaceRepeated :=
    fun _ _ => Event.interfaceRepeated.inj
  rw [hlog, List.count_map_of_injective _ _ hinjective, hcount]
  decide

end ScriptTypings
