import ScriptTypings.Scan
import ScriptTypings.Proofs.Contribution
import ScriptTypings.Proofs.Discovery
import ScriptTypings.Proofs.MappedFile

/-!
# A scan file by file

A scan deals with each discovered file alone: the file becomes a script if its bytes are text and a
failure if they are not. So the two lists of the report share out the discovered files in their
order, and other contents of one file change nothing about the others.
-/

namespace ScriptTypings

/-! ## One file -/

/-- The script that a file becomes, if it does. -/
def scriptOfFile (read : Reader) (f : File.FoundFile) : Option ScannedScript :=
  (fileText f.contents).map (scanText read f.path)

/-- The failure that a file becomes, if it does. -/
def failureOfFile (root : String) (f : File.FoundFile) : Option ScanFailure :=
  if f.contents.IsValidUTF8 then none
  else some ⟨f.path, .notText (File.joinAll root f.path)⟩

theorem fileText_of_not_valid {contents : ByteArray} (h : ¬ contents.IsValidUTF8) :
    fileText contents = none := by
  simp [fileText, String.fromUTF8?, h]

theorem fileText_of_valid {contents : ByteArray} (h : contents.IsValidUTF8) :
    ∃ text, fileText contents = some text := by
  simp [fileText, String.fromUTF8?, h]

theorem fileText_toUTF8 (text : String) : fileText text.toUTF8 = some text := by
  rw [fileText, String.fromUTF8?, String.toUTF8_eq_toByteArray, dif_pos text.isValidUTF8]
  rfl

/-- The outcome of a file is its script or its failure, and it has just one of the two. -/
theorem scanFile_cases (read : Reader) (root : String) (f : File.FoundFile) :
    (∃ s, scanFile read root f = .ok s ∧ scriptOfFile read f = some s ∧
      failureOfFile root f = none) ∨
    (∃ e, scanFile read root f = .error e ∧ scriptOfFile read f = none ∧
      failureOfFile root f = some e) := by
  by_cases h : f.contents.IsValidUTF8
  · obtain ⟨text, htext⟩ := fileText_of_valid h
    left
    exact ⟨scanText read f.path text, by simp [scanFile, htext], by simp [scriptOfFile, htext],
      by simp [failureOfFile, h]⟩
  · have htext := fileText_of_not_valid h
    right
    exact ⟨⟨f.path, .notText (File.joinAll root f.path)⟩, by simp [scanFile, htext],
      by simp [scriptOfFile, htext], by simp [failureOfFile, h]⟩

theorem scriptOfFile_file (read : Reader) (f : File.FoundFile) :
    (scriptOfFile read f).map ScannedScript.file =
      if f.contents.IsValidUTF8 then some f.path else none := by
  by_cases h : f.contents.IsValidUTF8
  · obtain ⟨text, htext⟩ := fileText_of_valid h
    simp [scriptOfFile, htext, h, scanText]
  · simp [scriptOfFile, fileText_of_not_valid h, h]

theorem failureOfFile_file (root : String) (f : File.FoundFile) :
    (failureOfFile root f).map ScanFailure.file =
      if ¬ f.contents.IsValidUTF8 then some f.path else none := by
  by_cases h : f.contents.IsValidUTF8 <;> simp [failureOfFile, h]

/-! ## All files -/

theorem scanWith_scripts (read : Reader) (p : Project) (patterns : List String) :
    (p.scanWith read patterns).scripts =
      (File.discover patterns p.entries).filterMap (scriptOfFile read) := by
  simp only [Project.scanWith, scanFiles, List.filterMap_map]
  congr 1
  funext f
  obtain ⟨s, h, hs, -⟩ | ⟨e, h, hs, -⟩ := scanFile_cases read p.root f
  · rw [Function.comp_apply, h, hs]
    rfl
  · rw [Function.comp_apply, h, hs]
    rfl

theorem scanWith_failures (read : Reader) (p : Project) (patterns : List String) :
    (p.scanWith read patterns).failures =
      (File.discover patterns p.entries).filterMap (failureOfFile p.root) := by
  simp only [Project.scanWith, scanFiles, List.filterMap_map]
  congr 1
  funext f
  obtain ⟨s, h, -, he⟩ | ⟨e, h, -, he⟩ := scanFile_cases read p.root f
  · rw [Function.comp_apply, h, he]
  · rw [Function.comp_apply, h, he]

/-- The files of the scripts are the discovered files with text in them. -/
theorem scanWith_script_files (read : Reader) (p : Project) (patterns : List String) :
    (p.scanWith read patterns).scripts.map ScannedScript.file =
      ((File.discover patterns p.entries).filter fun f => f.contents.IsValidUTF8).map
        File.FoundFile.path := by
  rw [scanWith_scripts, List.map_filterMap, ← filterMap_ite_some]
  exact congrArg (List.filterMap · _) (funext (scriptOfFile_file read))

/-- The files of the failures are the discovered files with other bytes in them. -/
theorem scanWith_failure_files (read : Reader) (p : Project) (patterns : List String) :
    (p.scanWith read patterns).failures.map ScanFailure.file =
      ((File.discover patterns p.entries).filter fun f => ¬ f.contents.IsValidUTF8).map
        File.FoundFile.path := by
  rw [scanWith_failures, List.map_filterMap, ← filterMap_ite_some]
  exact congrArg (List.filterMap · _) (funext (failureOfFile_file p.root))

theorem classCount_eq_length (report : ScanReport) :
    report.classCount = (lookupEntries (declarationsOf report.scriptClasses)).length := by
  rw [lookupEntries_declarationsOf, (sortedEntries_perm _).length_eq]
  simp [ScanReport.classCount, ScanReport.scriptClasses, recordsOf, List.length_flatMap,
    Function.comp_def]

/-! ## Other contents of one file -/

/-- Two projects with the same root and the same files, but for what stands at one path. -/
structure Project.AgreesExceptAt (p q : Project) (path : List String) : Prop where
  root_eq : p.root = q.root
  holds_iff : ∀ other contents, other ≠ path →
    (File.Holds p.entries other (.file contents) ↔ File.Holds q.entries other (.file contents))

/-- Discovery finds the same other files. -/
theorem Project.AgreesExceptAt.discover_filter_eq {p q : Project} {path : List String}
    (h : p.AgreesExceptAt q path) (hp : File.NamesDistinct p.entries)
    (hq : File.NamesDistinct q.entries) (patterns : List String) :
    ((File.discover patterns p.entries).filter fun f => f.path ≠ path) =
      (File.discover patterns q.entries).filter fun f => f.path ≠ path := by
  apply File.eq_of_ordered_of_mem_iff
  · exact (File.discover_ordered hp patterns).filter _
  · exact (File.discover_ordered hq patterns).filter _
  · intro f
    simp only [List.mem_filter, decide_eq_true_eq]
    apply and_congr_left
    intro hne
    simp only [File.mem_discover]
    constructor
    · rintro ⟨dirs, name, hpath, hholds, hrest⟩
      exact ⟨dirs, name, hpath, (h.holds_iff _ _ (hpath ▸ hne)).mp hholds, hrest⟩
    · rintro ⟨dirs, name, hpath, hholds, hrest⟩
      exact ⟨dirs, name, hpath, (h.holds_iff _ _ (hpath ▸ hne)).mpr hholds, hrest⟩

/-- Leaving out the results of one file is leaving out the file. -/
theorem filter_filterMap_of_file {α : Type} {outcome : File.FoundFile → Option α}
    {file : α → List String} {P : File.FoundFile → Prop} [DecidablePred P]
    (hfile : ∀ f, (outcome f).map file = if P f then some f.path else none)
    (path : List String) (found : List File.FoundFile) :
    ((found.filterMap outcome).filter fun a => file a ≠ path) =
      (found.filter fun f => f.path ≠ path).filterMap outcome := by
  rw [List.filter_filterMap, List.filterMap_filter]
  congr 1
  funext f
  cases hf : outcome f with
  | none => simp
  | some a =>
      have ha : file a = f.path := by
        have hmap := hfile f
        rw [hf] at hmap
        split at hmap
        · exact Option.some.inj hmap
        · nomatch hmap
      simp [Option.filter, ha]

/-- Other contents of one file leave the scripts of all others as they are. -/
theorem Project.AgreesExceptAt.scripts_eq {p q : Project} {path : List String}
    (h : p.AgreesExceptAt q path) (hp : File.NamesDistinct p.entries)
    (hq : File.NamesDistinct q.entries) (read : Reader) (patterns : List String) :
    ((p.scanWith read patterns).scripts.filter fun s => s.file ≠ path) =
      (q.scanWith read patterns).scripts.filter fun s => s.file ≠ path := by
  rw [scanWith_scripts, scanWith_scripts, filter_filterMap_of_file (scriptOfFile_file read),
    filter_filterMap_of_file (scriptOfFile_file read), h.discover_filter_eq hp hq]

theorem Project.AgreesExceptAt.failures_eq {p q : Project} {path : List String}
    (h : p.AgreesExceptAt q path) (hp : File.NamesDistinct p.entries)
    (hq : File.NamesDistinct q.entries) (read : Reader) (patterns : List String) :
    ((p.scanWith read patterns).failures.filter fun e => e.file ≠ path) =
      (q.scanWith read patterns).failures.filter fun e => e.file ≠ path := by
  rw [scanWith_failures, scanWith_failures, h.root_eq,
    filter_filterMap_of_file (failureOfFile_file q.root),
    filter_filterMap_of_file (failureOfFile_file q.root), h.discover_filter_eq hp hq]

/-- A scan partitions the files and isolates failures. Every discovered file is that of one script,
if its bytes are UTF-8, or else of one failure; scripts and failures keep the order of discovery.
There are as many classes as look-up entries. Projects that agree but for one file give the same
scripts and failures for all other files, in the same order. -/
theorem scan_partitions_files_and_isolates_failures (read : Reader) (p : Project)
    (patterns : List String) (hp : File.NamesDistinct p.entries) :
    let report := p.scanWith read patterns
    let found := File.discover patterns p.entries
    (found.map File.FoundFile.path).Nodup ∧
    (report.scripts.map ScannedScript.file ++ report.failures.map ScanFailure.file).Perm
      (found.map File.FoundFile.path) ∧
    report.scripts.map ScannedScript.file =
      (found.filter fun f => f.contents.IsValidUTF8).map File.FoundFile.path ∧
    report.failures.map ScanFailure.file =
      (found.filter fun f => ¬ f.contents.IsValidUTF8).map File.FoundFile.path ∧
    report.classCount = (lookupEntries (declarationsOf report.scriptClasses)).length ∧
    ∀ (q : Project) (path : List String), File.NamesDistinct q.entries → p.AgreesExceptAt q path →
      ((report.scripts.filter fun s => s.file ≠ path) =
        (q.scanWith read patterns).scripts.filter fun s => s.file ≠ path) ∧
      ((report.failures.filter fun e => e.file ≠ path) =
        (q.scanWith read patterns).failures.filter fun e => e.file ≠ path) := by
  intro report found
  have hscripts := scanWith_script_files read p patterns
  have hfailures := scanWith_failure_files read p patterns
  refine ⟨?_, ?_, hscripts, hfailures, classCount_eq_length report, ?_⟩
  · exact List.pairwise_map.mpr (File.discover_path_ne hp patterns)
  · rw [hscripts, hfailures, ← List.map_append]
    apply List.Perm.map
    simpa using List.filter_append_perm (fun f : File.FoundFile => f.contents.IsValidUTF8) found
  · intro q path hq hagrees
    exact ⟨hagrees.scripts_eq hp hq read patterns, hagrees.failures_eq hp hq read patterns⟩

/-- Reads an empty text, or else one whose only line is `extends Node`. -/
def lineReader : Reader := fun text =>
  let statement : Node :=
    .mk (.named "extends_statement") "extends Node" none
      [.mk .token "extends" none [],
       .mk (.named "type") "Node" none [.mk (.named "identifier") "Node" none []]]
  ⟨.mk (.named "source") text none (if text = "" then [] else [statement]), false⟩

/-- A script with one line, a script without any, and a file with the given contents. -/
def threeScripts (contents : ByteArray) : Project :=
  ⟨"/game", [("other.gd", .file contents), ("empty.gd", .file "".toUTF8),
    ("ok.gd", .file "extends Node\n".toUTF8)]⟩

theorem threeScripts_namesDistinct (contents : ByteArray) :
    File.NamesDistinct (threeScripts contents).entries :=
  .intro (by simp [threeScripts]) (by simp [threeScripts])

theorem mem_discover_threeScripts (contents : ByteArray) :
    ⟨["other.gd"], contents⟩ ∈ File.discover [] (threeScripts contents).entries := by
  apply (File.mem_discover _ _ _).mpr
  exact ⟨[], "other.gd", rfl, .entry (.head _), ⟨"other".toList, 'g', 'd', by decide⟩, by simp⟩

/-- Whatever the contents of the third file, the other two are held alike. -/
theorem threeScripts_agree (old new : ByteArray) :
    (threeScripts old).AgreesExceptAt (threeScripts new) ["other.gd"] where
  root_eq := rfl
  holds_iff := by
    have hside (old new : ByteArray) (path : List String) (contents : ByteArray)
        (hne : path ≠ ["other.gd"])
        (h : File.Holds (threeScripts old).entries path (.file contents)) :
        File.Holds (threeScripts new).entries path (.file contents) := by
      cases h with
      | entry mem =>
          rcases mem with _ | ⟨_, mem⟩
          · exact absurd rfl hne
          · exact .entry (.tail _ mem)
      | inside mem _ => simp [threeScripts] at mem
    intro path contents hne
    exact ⟨hside old new path contents hne, hside new old path contents hne⟩

/-- A file that is no text fails; as text it becomes a script, and the scripts of the other two
files stay the same. -/
theorem scan_of_threeScripts :
    let broken := threeScripts ⟨#[0xff]⟩
    let mended := threeScripts "extends Node\n".toUTF8
    File.NamesDistinct broken.entries ∧ File.NamesDistinct mended.entries ∧
    broken.AgreesExceptAt mended ["other.gd"] ∧
    ["other.gd"] ∈ (broken.scanWith lineReader []).failures.map ScanFailure.file ∧
    ["other.gd"] ∈ (mended.scanWith lineReader []).scripts.map ScannedScript.file ∧
    ((broken.scanWith lineReader []).scripts.filter fun s => s.file ≠ ["other.gd"]) =
      (mended.scanWith lineReader []).scripts.filter fun s => s.file ≠ ["other.gd"] := by
  intro broken mended
  have hbroken := threeScripts_namesDistinct ⟨#[0xff]⟩
  have hmended := threeScripts_namesDistinct "extends Node\n".toUTF8
  have hagree := threeScripts_agree ⟨#[0xff]⟩ "extends Node\n".toUTF8
  obtain ⟨-, -, -, hfailures, -, hothers⟩ :=
    scan_partitions_files_and_isolates_failures lineReader broken [] hbroken
  obtain ⟨-, -, hscripts, -⟩ :=
    scan_partitions_files_and_isolates_failures lineReader mended [] hmended
  refine ⟨hbroken, hmended, hagree, ?_, ?_, (hothers mended _ hmended hagree).1⟩
  · rw [hfailures]
    apply List.mem_map.mpr
    exact ⟨_, List.mem_filter.mpr ⟨mem_discover_threeScripts _, by decide⟩, rfl⟩
  · rw [hscripts]
    apply List.mem_map.mpr
    refine ⟨_, List.mem_filter.mpr ⟨mem_discover_threeScripts _, ?_⟩, rfl⟩
    simpa using String.isValidUTF8 "extends Node\n"

end ScriptTypings
