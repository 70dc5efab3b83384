import ScriptTypings.Declaration.Mapping
import ScriptTypings.Proofs.KeyedSort

/-!
# What the declarations depend on

Interfaces are sorted by name and look-up entries by key. The declarations of a list of scripts
therefore show, for each name, the interfaces of that name in the order of the scripts, and for
each key the entries of that key, and nothing else of the order of the scripts. Where names and
paths are distinct, the order of the scripts does not matter.
-/

namespace ScriptTypings

/-- Declarations are equal exactly if their interfaces and their look-up entries are. -/
theorem declarationsOf_eq_iff (xs ys : List ScriptClasses) :
    declarationsOf xs = declarationsOf ys ↔
      sortedInterfaces xs = sortedInterfaces ys ∧ sortedEntries xs = sortedEntries ys := by
  constructor
  · intro h
    obtain ⟨hinterfaces, hrest⟩ := List.append_inj' h rfl
    refine ⟨?_, by simpa using hrest⟩
    exact (List.map_inj_right fun _ _ => Declaration.interface.inj).mp hinterfaces
  · rintro ⟨hinterfaces, hentries⟩
    rw [declarationsOf, declarationsOf, hinterfaces, hentries]

/-- A script with at most one class gives at most one entry, under its own path. -/
theorem keys_sublist_paths (xs : List ScriptClasses) (h : ∀ s ∈ xs, s.classes.length ≤ 1) :
    ((entriesOf xs).map LookupEntry.key).Sublist (xs.map fun s => s.path.toString) := by
  induction xs with
  | nil => simp [entriesOf]
  | cons s xs ih =>
      have hs : (s.classes.map fun _ => s.path.toString).Sublist [s.path.toString] := by
        have hlen := h s (by simp)
        match hclasses : s.classes with
        | [] => simp
        | [c] => simp
        | c :: d :: rest => simp [hclasses] at hlen
      have hrest := ih fun t ht => h t (by simp [ht])
      have hkeys : (entriesOf (s :: xs)).map LookupEntry.key =
          (s.classes.map fun _ => s.path.toString) ++ (entriesOf xs).map LookupEntry.key := by
        simp [entriesOf, LookupEntry.ofClass, Function.comp_def]
      rw [hkeys, List.map_cons, ← List.singleton_append]
      exact hs.append hrest

/-- Scripts with at most one class each, distinct interface names and distinct paths give the same
declarations in every order. -/
theorem declarationsOf_eq_of_perm {xs ys : List ScriptClasses} (hperm : xs.Perm ys)
    (hnames : ((interfacesOf xs).map Interface.name).Nodup)
    (hpaths : (xs.map fun s => s.path.toString).Nodup)
    (hclasses : ∀ s ∈ xs, s.classes.length ≤ 1) : declarationsOf xs = declarationsOf ys := by
  have hkeys : ((entriesOf xs).map LookupEntry.key).Nodup :=
    hpaths.sublist (keys_sublist_paths xs hclasses)
  rw [declarationsOf_eq_iff]
  constructor
  · exact KeyedSort.mergeSort_eq_of_perm Interface.name (hperm.flatMap_right _) hnames
  · exact KeyedSort.mergeSort_eq_of_perm LookupEntry.key (hperm.flatMap_right _) hkeys

/-- What the output depends on. Two lists of scripts give the same declarations exactly if for each
name they have the same interfaces of that name in the same order, and for each key the same
look-up entries of that key. So where names and paths are distinct and no script has two classes,
every permutation of the scripts gives the same declarations and the same text. -/
theorem declarations_depend_on_ties_only :
    (∀ xs ys : List ScriptClasses,
      declarationsOf xs = declarationsOf ys ↔
        (∀ n : String, ((interfacesOf xs).filter fun i => i.name = n) =
          (interfacesOf ys).filter fun i => i.name = n) ∧
        (∀ k : String, ((entriesOf xs).filter fun e => e.key = k) =
          (entriesOf ys).filter fun e => e.key = k)) ∧
    (∀ xs ys : List ScriptClasses, xs.Perm ys →
      ((interfacesOf xs).map Interface.name).Nodup →
      (xs.map fun s => s.path.toString).Nodup →
      (∀ s ∈ xs, s.classes.length ≤ 1) →
        declarationsOf xs = declarationsOf ys ∧ generate xs = generate ys) := by
  constructor
  · intro xs ys
    rw [declarationsOf_eq_iff]
    exact and_congr (KeyedSort.mergeSort_eq_iff Interface.name _ _)
      (KeyedSort.mergeSort_eq_iff LookupEntry.key _ _)
  · intro xs ys hperm hnames hpaths hclasses
    have h := declarationsOf_eq_of_perm hperm hnames hpaths hclasses
    exact ⟨h, congrArg printFile h⟩

/-- Two scripts with names of their own can be swapped; two that share a name cannot. -/
theorem declarations_of_swapped_scripts :
    let alpha : ScriptClasses := ⟨⟨["z", "alpha.gd"]⟩, [{ name := some "Alpha" }]⟩
    let beta : ScriptClasses := ⟨⟨["a", "beta.gd"]⟩, [{ name := some "Beta" }]⟩
    let other : ScriptClasses :=
      ⟨⟨["a", "beta.gd"]⟩, [{ name := some "Alpha", extendsClass := some "Node" }]⟩
    (declarationsOf [alpha, beta] = declarationsOf [beta, alpha] ∧
        generate [alpha, beta] = generate [beta, alpha]) ∧
      declarationsOf [alpha, other] ≠ declarationsOf [other, alpha] := by
  intro alpha beta other
  constructor
  · exact declarations_depend_on_ties_only.2 [alpha, beta] [beta, alpha] (List.Perm.swap _ _ _)
      (by decide) (by decide) (by decide)
  · intro h
    have htie := ((declarations_depend_on_ties_only.1 _ _).mp h).1 "Alpha"
    exact absurd htie (by decide)

end ScriptTypings
