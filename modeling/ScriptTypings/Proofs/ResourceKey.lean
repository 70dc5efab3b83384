import ScriptTypings.Proofs.CanonicalPath
import ScriptTypings.Proofs.ScanPartition

/-!
# One key per script

The key of a script in the look-up type is `res://` and the path of its file below the root. A file
has one path, and paths of real names can be read back from their text, so no two scripts share a
key. The scan is ordered by the steps of the paths and the look-up type by the text of the keys;
these orders differ, since a full stop comes before a slash.
-/

namespace ScriptTypings

/-! ## Paths as texts -/

/-- A path below a root, written with slashes. -/
def relativePath (path : List String) : String :=
  String.intercalate "/" path

namespace File

/-- All names in a tree are names of entries. -/
def NamesAllowed : List (String × Tree) → Prop :=
  Everywhere fun entries => ∀ e ∈ entries, IsEntryName e.1

theorem Holds.isEntryName {entries : List (String × Tree)} {path : List String} {t : Tree}
    (ht : Holds entries path t) (h : NamesAllowed entries) : ∀ name ∈ path, IsEntryName name := by
  induction ht with
  | entry mem => simpa using h.here _ mem
  | inside mem _ ih => exact List.forall_mem_cons.mpr ⟨h.here _ mem, ih (h.inside mem)⟩

/-- Going down by the names of a path is joining the written path. -/
theorem joinAll_eq_join (root : String) {path : List String} (hne : path ≠ [])
    (h : ∀ name ∈ path, IsEntryName name) :
    joinAll root path = join root (relativePath path) := by
  induction path generalizing root with
  | nil => exact absurd rfl hne
  | cons name rest ih =>
      obtain ⟨hname, hrest⟩ := List.forall_mem_cons.mp h
      cases rest with
      | nil => simp [joinAll, relativePath]
      | cons next others =>
          calc
            joinAll root (name :: next :: others) =
                joinAll (join root name) (next :: others) := rfl
            _ = join (join root name) (relativePath (next :: others)) :=
              ih _ (List.cons_ne_nil _ _) hrest
            _ = join root name ++ ("/" ++ relativePath (next :: others)) := by
              rw [join_join hname, String.append_assoc]
            _ = join root (name ++ ("/" ++ relativePath (next :: others))) :=
              (join_append root name _).symm
            _ = join root (relativePath (name :: next :: others)) := by
              simp [relativePath, String.append_assoc]

end File

/-- A path can be read back from its text. -/
theorem relativePath_injective {path path' : List String}
    (h : ∀ name ∈ path, File.IsEntryName name) (h' : ∀ name ∈ path', File.IsEntryName name)
    (heq : relativePath path = relativePath path') : path = path' := by
  have hread := congrArg (fun text => (ResourcePath.ofPath text).components) heq
  simpa only [relativePath, ResourcePath.ofPath_intercalate h,
    ResourcePath.ofPath_intercalate h'] using hread

/-! ## Keys of scripts -/

/-- The record that the contents of a file give: if they are text, that of the tree read from it. -/
def fileRecord (read : Reader) (contents : ByteArray) : Option ClassRecord :=
  (fileText contents).bind fun text => (read (Text.normalize text)).root.classRecord

/-- The entry of a file with a record. -/
def fileEntry (read : Reader) (f : File.FoundFile) : Option LookupEntry :=
  (fileRecord read f.contents).map fun c =>
    ⟨"res://" ++ relativePath f.path, .declared (interfaceName ⟨f.path⟩ c)⟩

/-- The records of the scripts that some files become. -/
theorem recordsOf_filterMap_scriptOfFile (read : Reader) (found : List File.FoundFile) :
    recordsOf ((found.filterMap (scriptOfFile read)).map ScannedScript.toScriptClasses) =
      found.filterMap fun f => (fileRecord read f.contents).map fun c =>
        (⟨f.path.filter ResourcePath.isComponent⟩, c) := by
  induction found with
  | nil => rfl
  | cons f rest ih =>
      rw [List.filterMap_cons, List.filterMap_cons, ← ih]
      cases htext : fileText f.contents with
      | none => simp [scriptOfFile, fileRecord, htext]
      | some text =>
          cases hrecord : (read (Text.normalize text)).root.classRecord <;>
            simp [scriptOfFile, fileRecord, htext, hrecord, recordsOf_cons, scanText]

/-- The names in the path of a discovered file are all components. -/
theorem components_of_mem_discover {p : Project} (hnames : File.NamesAllowed p.entries)
    {patterns : List String} {f : File.FoundFile} (hf : f ∈ File.discover patterns p.entries) :
    f.path ≠ [] ∧ ∀ name ∈ f.path, File.IsEntryName name := by
  obtain ⟨dirs, name, hpath, hholds, -⟩ := (File.mem_discover _ _ _).mp hf
  rw [hpath]
  exact ⟨hholds.path_ne_nil, hholds.isEntryName hnames⟩

/-- The look-up type has the entries of the discovered files. -/
theorem lookupEntries_scan_perm (read : Reader) {p : Project}
    (hnames : File.NamesAllowed p.entries) (patterns : List String) :
    (lookupEntries (declarationsOf (p.scanWith read patterns).scriptClasses)).Perm
      ((File.discover patterns p.entries).filterMap (fileEntry read)) := by
  have hrecords : (recordsOf (p.scanWith read patterns).scriptClasses).map
      (fun r => LookupEntry.ofClass r.1 r.2) =
        (File.discover patterns p.entries).filterMap (fileEntry read) := by
    rw [ScanReport.scriptClasses, scanWith_scripts, recordsOf_filterMap_scriptOfFile,
      List.map_filterMap]
    apply List.filterMap_congr
    intro f hf
    rw [ResourcePath.filter_isComponent (components_of_mem_discover hnames hf).2, Option.map_map]
    rfl
  rw [lookupEntries_declarationsOf, ← hrecords]
  exact sortedEntries_perm _

/-- An entry of a file is that of a record the file gives. -/
theorem fileEntry_eq_some_iff {read : Reader} {f : File.FoundFile} {e : LookupEntry} :
    fileEntry read f = some e ↔
      ∃ c, fileRecord read f.contents = some c ∧
        e = ⟨"res://" ++ relativePath f.path, .declared (interfaceName ⟨f.path⟩ c)⟩ := by
  rw [fileEntry, Option.map_eq_some_iff]
  exact exists_congr fun c => and_congr_right fun _ => eq_comm

theorem key_injective {path path' : List String}
    (h : ∀ name ∈ path, File.IsEntryName name) (h' : ∀ name ∈ path', File.IsEntryName name)
    (heq : "res://" ++ relativePath path = "res://" ++ relativePath path') : path = path' :=
  relativePath_injective h h' ((String.append_right_inj _).mp heq)

/-- No two discovered files share a key. -/
theorem fileEntry_keys_ne (read : Reader) {p : Project} (hdistinct : File.NamesDistinct p.entries)
    (hnames : File.NamesAllowed p.entries) (patterns : List String) :
    ((File.discover patterns p.entries).filterMap (fileEntry read)).Pairwise
      fun d e => d.key ≠ e.key := by
  rw [List.pairwise_filterMap]
  apply (File.discover_path_ne hdistinct patterns).imp_of_mem
  intro f g hf hg hne d hd e he heq
  obtain ⟨_, -, rfl⟩ := fileEntry_eq_some_iff.mp hd
  obtain ⟨_, -, rfl⟩ := fileEntry_eq_some_iff.mp he
  obtain ⟨-, hfnames⟩ := components_of_mem_discover hnames hf
  obtain ⟨-, hgnames⟩ := components_of_mem_discover hnames hg
  exact hne (key_injective hfnames hgnames heq)

/-- The keys of a scan increase strictly. -/
theorem scan_keys_increasing (read : Reader) {p : Project}
    (hdistinct : File.NamesDistinct p.entries) (hnames : File.NamesAllowed p.entries)
    (patterns : List String) :
    ((lookupEntries (declarationsOf (p.scanWith read patterns).scriptClasses)).map
      LookupEntry.key).Pairwise (· < ·) := by
  have hsorted := sortedEntries_ordered (p.scanWith read patterns).scriptClasses
  rw [← lookupEntries_declarationsOf] at hsorted
  have hne := (lookupEntries_scan_perm read hnames patterns).symm.pairwise
    (fileEntry_keys_ne read hdistinct hnames patterns) fun h => h.symm
  rw [List.pairwise_map]
  apply (hsorted.and hne).imp
  rintro d e ⟨hle, hne⟩
  exact Std.lt_of_le_of_ne hle hne

/-- A key of the look-up type is that of a held file exactly if the file is listed and gives a
record. -/
theorem mem_scan_keys_iff (read : Reader) {p : Project}
    (hdistinct : File.NamesDistinct p.entries) (hnames : File.NamesAllowed p.entries)
    (patterns : List String) {path : List String} {contents : ByteArray}
    (hholds : File.Holds p.entries path (.file contents)) :
    "res://" ++ relativePath path ∈
        (lookupEntries (declarationsOf (p.scanWith read patterns).scriptClasses)).map
          LookupEntry.key ↔
      ⟨path, contents⟩ ∈ File.discover patterns p.entries ∧
        (fileRecord read contents).isSome = true := by
  rw [((lookupEntries_scan_perm read hnames patterns).map _).mem_iff]
  constructor
  · intro h
    obtain ⟨e, he, hkey⟩ := List.mem_map.mp h
    obtain ⟨f, hf, he⟩ := List.mem_filterMap.mp he
    obtain ⟨c, hrecord, rfl⟩ := fileEntry_eq_some_iff.mp he
    obtain ⟨-, hcomponents⟩ := components_of_mem_discover hnames hf
    have hpath : f.path = path := key_injective hcomponents (hholds.isEntryName hnames) hkey
    obtain ⟨dirs, name, hsplit, hheld, -⟩ := (File.mem_discover _ _ _).mp hf
    rw [← hsplit, hpath] at hheld
    have hcontents : f.contents = contents := File.Tree.file.inj (hheld.unique hdistinct hholds)
    subst hpath hcontents
    exact ⟨hf, by simp [hrecord]⟩
  · rintro ⟨hf, hrecord⟩
    obtain ⟨c, hrecord⟩ := Option.isSome_iff_exists.mp hrecord
    apply List.mem_map.mpr
    exact ⟨_, List.mem_filterMap.mpr ⟨_, hf, fileEntry_eq_some_iff.mpr ⟨c, hrecord, rfl⟩⟩, rfl⟩

/-- One key per script, end to end. The look-up type has just one entry for each listed file whose
contents are text with a record, and none for any other file. Its keys increase strictly by code
point, while the scripts are ordered by the steps of their paths. Each entry has the type of the
record of its file, under `res://` and the path that leads from the root to that file. -/
theorem one_key_per_script (read : Reader) (p : Project) (patterns : List String)
    (hdistinct : File.NamesDistinct p.entries) (hnames : File.NamesAllowed p.entries) :
    let report := p.scanWith read patterns
    let found := File.discover patterns p.entries
    let entries := lookupEntries (declarationsOf report.scriptClasses)
    (∀ path contents, File.Holds p.entries path (.file contents) →
      (⟨path, contents⟩ ∈ found ∧ (fileRecord read contents).isSome = true →
        (entries.map LookupEntry.key).count ("res://" ++ relativePath path) = 1) ∧
      (¬ (⟨path, contents⟩ ∈ found ∧ (fileRecord read contents).isSome = true) →
        (entries.map LookupEntry.key).count ("res://" ++ relativePath path) = 0)) ∧
    (entries.map LookupEntry.key).Pairwise (· < ·) ∧
    (report.scripts.map ScannedScript.file).Pairwise (· < ·) ∧
    ∀ e ∈ entries, ∃ f ∈ found, ∃ record, fileRecord read f.contents = some record ∧
      e = ⟨"res://" ++ relativePath f.path, .declared (interfaceName ⟨f.path⟩ record)⟩ ∧
      File.join p.root (relativePath f.path) = File.joinAll p.root f.path := by
  intro report found entries
  have hkeys := scan_keys_increasing read hdistinct hnames patterns
  have hnodup : (entries.map LookupEntry.key).Nodup := hkeys.imp Std.ne_of_lt
  refine ⟨?_, hkeys, ?_, ?_⟩
  · intro path contents hholds
    rw [← mem_scan_keys_iff read hdistinct hnames patterns hholds]
    exact ⟨List.count_eq_one_of_mem hnodup, List.count_eq_zero_of_not_mem⟩
  · rw [scanWith_script_files, List.pairwise_map]
    exact (File.discover_ordered hdistinct patterns).filter _
  · intro e he
    obtain ⟨f, hf, he⟩ :=
      List.mem_filterMap.mp ((lookupEntries_scan_perm read hnames patterns).mem_iff.mp he)
    obtain ⟨c, hrecord, rfl⟩ := fileEntry_eq_some_iff.mp he
    obtain ⟨hne, hcomponents⟩ := components_of_mem_discover hnames hf
    exact ⟨f, hf, c, hrecord, rfl, (File.joinAll_eq_join p.root hne hcomponents).symm⟩

/-- A script in a directory and one beside it under a longer name, a script without classes, and one
that is no text. -/
def dottedProject : Project :=
  ⟨"/game",
    [("a", .directory [("b.gd", .file "extends Node\n".toUTF8)]),
     ("a.gd", .file "extends Node\n".toUTF8), ("empty.gd", .file "".toUTF8),
     ("broken.gd", .file ⟨#[0xff]⟩)]⟩

theorem dottedProject_everywhere {P : List (String × File.Tree) → Prop}
    (htop : P dottedProject.entries) (hinner : P [("b.gd", .file "extends Node\n".toUTF8)]) :
    File.Everywhere P dottedProject.entries := by
  refine .intro htop ?_
  intro name inner mem
  obtain ⟨-, rfl⟩ : name = "a" ∧ inner = [("b.gd", .file "extends Node\n".toUTF8)] := by
    simpa [dottedProject] using mem
  exact .intro hinner (by simp)

/-- In `dottedProject` the two scripts with a class have one key each, the other two none. The keys
come in the other order than the files. -/
theorem keys_of_dottedProject :
    let keys := (lookupEntries (declarationsOf
      (dottedProject.scanWith lineReader []).scriptClasses)).map LookupEntry.key
    File.NamesDistinct dottedProject.entries ∧ File.NamesAllowed dottedProject.entries ∧
    keys.count "res://a/b.gd" = 1 ∧ keys.count "res://a.gd" = 1 ∧
    keys.count "res://empty.gd" = 0 ∧ keys.count "res://broken.gd" = 0 ∧
    ["a", "b.gd"] < ["a.gd"] ∧ "res://a.gd" < "res://a/b.gd" := by
  intro keys
  have hdistinct : File.NamesDistinct dottedProject.entries :=
    dottedProject_everywhere (by decide) (by simp)
  have hnames : File.NamesAllowed dottedProject.entries :=
    dottedProject_everywhere (by decide) (by decide)
  obtain ⟨hcount, -⟩ := one_key_per_script lineReader dottedProject [] hdistinct hnames
  have hrecord : (fileRecord lineReader "extends Node\n".toUTF8).isSome = true := by
    rw [fileRecord, fileText_toUTF8]
    decide
  have hempty : (fileRecord lineReader "".toUTF8).isSome ≠ true := by
    rw [fileRecord, fileText_toUTF8]
    decide
  have hbroken : (fileRecord lineReader ⟨#[0xff]⟩).isSome ≠ true := by
    rw [fileRecord, fileText_of_not_valid (by decide)]
    simp
  refine ⟨hdistinct, hnames, ?_, ?_, ?_, ?_, by decide, by decide⟩
  · have hheld : File.Holds dottedProject.entries ["a", "b.gd"] _ :=
      .inside (.head _) (.entry (.head _))
    refine (hcount ["a", "b.gd"] _ hheld).1 ⟨(File.mem_discover _ _ _).mpr ?_, hrecord⟩
    exact ⟨["a"], "b.gd", rfl, hheld, ⟨['b'], 'g', 'd', by decide⟩, by simp⟩
  · have hheld : File.Holds dottedProject.entries ["a.gd"] _ := .entry (.tail _ (.head _))
    refine (hcount ["a.gd"] _ hheld).1 ⟨(File.mem_discover _ _ _).mpr ?_, hrecord⟩
    exact ⟨[], "a.gd", rfl, hheld, ⟨['a'], 'g', 'd', by decide⟩, by simp⟩
  · exact (hcount ["empty.gd"] "".toUTF8 (.entry (by simp [dottedProject]))).2 fun h => hempty h.2
  · exact (hcount ["broken.gd"] ⟨#[0xff]⟩ (.entry (by simp [dottedProject]))).2 fun h => hbroken h.2

end ScriptTypings
