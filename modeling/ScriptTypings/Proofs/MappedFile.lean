import ScriptTypings.Proofs.DeclarationOrder

/-!
# The declarations of a file

The interfaces and the look-up entries of a file are two images of one list: the class records of
all scripts, each with the path of its script. The two images are sorted apart, by name and by key,
so only names connect them. Since both have each name equally often, every type that the look-up
mentions is declared, and every declared interface can be looked up.
-/

namespace ScriptTypings

/-- The class records of all scripts, each with the path of its script. -/
def recordsOf (scripts : List ScriptClasses) : List (ResourcePath × ClassRecord) :=
  scripts.flatMap fun s => s.classes.map fun c => (s.path, c)

theorem interfacesOf_eq_map (scripts : List ScriptClasses) :
    interfacesOf scripts = (recordsOf scripts).map fun r => Interface.ofClass r.1 r.2 := by
  simp [interfacesOf, recordsOf, List.map_flatMap, Function.comp_def]

theorem entriesOf_eq_map (scripts : List ScriptClasses) :
    entriesOf scripts = (recordsOf scripts).map fun r => LookupEntry.ofClass r.1 r.2 := by
  simp [entriesOf, recordsOf, List.map_flatMap, Function.comp_def]

/-- Sorting loses no interface and makes none twice. -/
theorem sortedInterfaces_perm (scripts : List ScriptClasses) :
    (sortedInterfaces scripts).Perm
      ((recordsOf scripts).map fun r => Interface.ofClass r.1 r.2) := by
  rw [← interfacesOf_eq_map]
  exact List.mergeSort_perm _ _

theorem sortedEntries_perm (scripts : List ScriptClasses) :
    (sortedEntries scripts).Perm
      ((recordsOf scripts).map fun r => LookupEntry.ofClass r.1 r.2) := by
  rw [← entriesOf_eq_map]
  exact List.mergeSort_perm _ _

theorem sortedInterfaces_ordered (scripts : List ScriptClasses) :
    (sortedInterfaces scripts).Pairwise fun i j => i.name ≤ j.name :=
  KeyedSort.sorted_mergeSort Interface.name (interfacesOf scripts)

theorem sortedEntries_ordered (scripts : List ScriptClasses) :
    (sortedEntries scripts).Pairwise fun d e => d.key ≤ e.key :=
  KeyedSort.sorted_mergeSort LookupEntry.key (entriesOf scripts)

/-- As many entries have the type of a name as there are interfaces of that name: one of each for
every record. -/
theorem countP_sortedEntries_type (scripts : List ScriptClasses) (n : String) :
    ((sortedEntries scripts).countP fun e => e.type = .declared n) =
      (sortedInterfaces scripts).countP fun i => i.name = n := by
  rw [(sortedEntries_perm scripts).countP_eq, (sortedInterfaces_perm scripts).countP_eq,
    List.countP_map, List.countP_map]
  simp [Function.comp_def, LookupEntry.ofClass, Interface.ofClass]

/-- The type of an entry is that of a name. -/
theorem exists_type_of_mem_sortedEntries {scripts : List ScriptClasses} {e : LookupEntry}
    (he : e ∈ sortedEntries scripts) : ∃ n, e.type = .declared n := by
  obtain ⟨r, -, rfl⟩ := List.mem_map.mp ((sortedEntries_perm scripts).mem_iff.mp he)
  exact ⟨interfaceName r.1 r.2, rfl⟩

/-- A name is the type of an entry exactly if an interface has it. -/
theorem exists_entry_iff_exists_interface (scripts : List ScriptClasses) (n : String) :
    (∃ e ∈ sortedEntries scripts, e.type = .declared n) ↔
      ∃ i ∈ sortedInterfaces scripts, i.name = n := by
  have hcount := countP_sortedEntries_type scripts n
  constructor
  · rintro ⟨e, he, htype⟩
    have hpos : 0 < (sortedEntries scripts).countP fun e => e.type = .declared n :=
      List.countP_pos_iff.mpr ⟨e, he, by simpa using htype⟩
    rw [hcount] at hpos
    simpa using List.countP_pos_iff.mp hpos
  · rintro ⟨i, hi, hname⟩
    have hpos : 0 < (sortedInterfaces scripts).countP fun i => i.name = n :=
      List.countP_pos_iff.mpr ⟨i, hi, by simpa using hname⟩
    rw [← hcount] at hpos
    simpa using List.countP_pos_iff.mp hpos

/-- The declarations depend on the records only. -/
theorem declarationsOf_eq_of_recordsOf_eq {xs ys : List ScriptClasses}
    (h : recordsOf xs = recordsOf ys) : declarationsOf xs = declarationsOf ys := by
  rw [declarationsOf_eq_iff, sortedInterfaces, sortedInterfaces, sortedEntries, sortedEntries,
    interfacesOf_eq_map, interfacesOf_eq_map, entriesOf_eq_map, entriesOf_eq_map, h]
  exact ⟨rfl, rfl⟩

theorem recordsOf_cons (s : ScriptClasses) (rest : List ScriptClasses) :
    recordsOf (s :: rest) = (s.classes.map fun c => (s.path, c)) ++ recordsOf rest :=
  List.flatMap_cons

/-- A script without classes has no records. -/
theorem recordsOf_filter_classes (scripts : List ScriptClasses) :
    recordsOf (scripts.filter fun s => s.classes ≠ []) = recordsOf scripts := by
  induction scripts with
  | nil => rfl
  | cons s rest ih =>
      by_cases h : s.classes = []
      · rw [List.filter_cons_of_neg (by simpa using h), ih, recordsOf_cons, h]
        rfl
      · rw [List.filter_cons_of_pos (by simpa using h), recordsOf_cons, ih, recordsOf_cons]

/-- The entries of the look-up types among some declarations. -/
def lookupEntries (declarations : List Declaration) : List LookupEntry :=
  declarations.flatMap fun
    | .lookup l => l.entries
    | _ => []

@[simp] theorem lookupEntries_declarationsOf (scripts : List ScriptClasses) :
    lookupEntries (declarationsOf scripts) = sortedEntries scripts := by
  simp [lookupEntries, declarationsOf, List.flatMap_append, List.flatMap_map]

/-- The mapped file is complete, ordered and closed. Its interfaces and look-up entries are those
of all class records, each sorted by code point; one look-up type and one accessor follow the
interfaces. The types of the entries and the names of the interfaces are the same names, equally
often. Scripts without classes contribute nothing. -/
theorem declarations_complete_ordered_and_closed (scripts : List ScriptClasses) :
    ∃ (interfaces : List Interface) (entries : List LookupEntry),
      declarationsOf scripts =
          interfaces.map .interface ++ [.lookup ⟨lookupName, entries⟩, .accessor accessor] ∧
        interfaces.Perm ((recordsOf scripts).map fun r => Interface.ofClass r.1 r.2) ∧
        (interfaces.Pairwise fun i j => i.name ≤ j.name) ∧
        entries.Perm
          ((recordsOf scripts).map fun r =>
            ⟨r.1.toString, .declared (interfaceName r.1 r.2)⟩) ∧
        (entries.Pairwise fun d e => d.key ≤ e.key) ∧
        (∀ e ∈ entries, ∃ i ∈ interfaces, e.type = .declared i.name) ∧
        (∀ i ∈ interfaces, ∃ e ∈ entries, e.type = .declared i.name) ∧
        (∀ n : String, (entries.countP fun e => e.type = .declared n) =
          interfaces.countP fun i => i.name = n) ∧
        declarationsOf (scripts.filter fun s => s.classes ≠ []) = declarationsOf scripts := by
  refine ⟨sortedInterfaces scripts, sortedEntries scripts, rfl, sortedInterfaces_perm scripts,
    sortedInterfaces_ordered scripts, sortedEntries_perm scripts, sortedEntries_ordered scripts,
    ?_, ?_, countP_sortedEntries_type scripts,
    declarationsOf_eq_of_recordsOf_eq (recordsOf_filter_classes scripts)⟩
  · intro e he
    obtain ⟨n, hn⟩ := exists_type_of_mem_sortedEntries he
    obtain ⟨i, hi, rfl⟩ := (exists_entry_iff_exists_interface scripts n).mp ⟨e, he, hn⟩
    exact ⟨i, hi, hn⟩
  · intro i hi
    exact (exists_entry_iff_exists_interface scripts i.name).mpr ⟨i, hi, rfl⟩

end ScriptTypings
