import ScriptTypings.Cli.Run
import ScriptTypings.Proofs.JoinedPath
import ScriptTypings.Proofs.RegularFiles

/-!
# Saves one after the other

Every save of a sequence meets the disk that the saves before it have left. One that fails leaves
all files as they are. One that succeeds writes the file that its path leads to and no other; the
path may lead there through links and dots, and it goes on leading there. In the end each file has
the contents of the last save that wrote it, or those from before the first.
-/

namespace ScriptTypings.File

namespace Disk

/-! ## Addresses of paths -/

section Addresses

variable {files : String → Prop} {d d' : Disk} {path address : List String}

/-- The address of the file that some steps lead to, with links followed. -/
def address? (d : Disk) (path : List String) : Option (List String) :=
  match d.locate .look path with
  | .ok (.file trail name _ _) => some (trail.path ++ [name])
  | _ => none

/-- The address of the file that a name in a directory leads to. -/
def addressIn? (d : Disk) (directory name : String) : Option (List String) :=
  (d.below directory).bind fun inner => d.address? (steps inner ++ [name])

theorem address?_eq_some_iff :
    d.address? path = some address ↔
      ∃ trail name contents links,
        Walks d .look linkLimit [] path (.file trail name contents links) ∧
          trail.path ++ [name] = address := by
  simp only [← walk_eq_ok_iff, address?, locate]
  split <;> simp_all

/-- What a path leads to stays in its place while the disk grows. -/
theorem Grown.address? (hd : d.Grown files d') (h : d.address? path = some address) :
    d'.address? path = some address := by
  obtain ⟨trail, name, contents, links, hwalks, rfl⟩ := address?_eq_some_iff.mp h
  obtain ⟨trail', links', htrail, -, hfile⟩ := hwalks.grown hd .nil .top
  obtain ⟨-, hfound⟩ := hwalks.within .top
  obtain ⟨contents', hfound'⟩ := (htrail.entriesAt hd).lookup_file hfound
  exact address?_eq_some_iff.mpr
    ⟨trail', name, contents', links', hfile _ hfound', by rw [htrail.path_eq]⟩

theorem Grown.addressIn? (hd : d.Grown files d') {directory name : String}
    (h : d.addressIn? directory name = some address) :
    d'.addressIn? directory name = some address := by
  obtain ⟨inner, hinner, haddress⟩ := Option.bind_eq_some_iff.mp h
  rw [Disk.addressIn?, hd.below, hinner, Option.bind_some, hd.address? haddress]

theorem address?_of_writeFile {contents : ByteArray} {written : Disk}
    (h : d.writeFile path contents = .ok written) :
    ∃ address, written.address? path = some address ∧
      Rewritten address contents d.files written.files := by
  obtain ⟨trail, name, hwrites, rfl⟩ := writeFile_eq_ok_iff.mp h
  obtain ⟨trail', links, hpath, hwalks⟩ := hwrites.walks_put contents
  refine ⟨_, address?_eq_some_iff.mpr ⟨trail', name, contents, links, hwalks.look, ?_⟩,
    hwrites.rewritten contents⟩
  rw [hpath]

end Addresses

section Save

variable {files : String → Prop} {d : Disk} {directory name text : String}

/-- A save that fails makes directories at most. -/
theorem grown_of_save_eq_error {cause : Failure}
    (h : (d.save directory name text).2 = .error cause) :
    d.Grown files (d.save directory name text).1 := by
  obtain ⟨cause', hsave⟩ | ⟨inner, -, -, ⟨grown, fault, cause', hmade, hsave⟩ | ⟨grown, hmade,
    ⟨cause', hsave⟩ | ⟨written, -, -, hsave⟩⟩⟩ := save_cases d directory name text
  · rw [hsave]
    exact .refl d
  · have hgrown : d.Grown files _ := makeDirectories_grown d (steps inner)
    rwa [hmade, ← congrArg Prod.fst hsave] at hgrown
  · have hgrown : d.Grown files _ := makeDirectories_grown d (steps inner)
    rwa [hmade, ← congrArg Prod.fst hsave] at hgrown
  · rw [hsave] at h
    cases h

/-- A save that succeeds returns its path and rewrites the file that the path leads to. -/
theorem rewritten_of_save (h : (d.save directory name text).2.isOk = true) :
    (d.save directory name text).2 = .ok (join directory name) ∧
    ∃ address, (d.save directory name text).1.addressIn? directory name = some address ∧
      Rewritten address text.toUTF8 d.files (d.save directory name text).1.files := by
  have hsame := (grown_save d directory name text).below directory
  obtain ⟨inner, grown, written, hbelow, hmade, -, hwritten, hsave⟩ := save_of_isOk h
  have hgrown : d.Grown (fun _ => False) _ := makeDirectories_grown d (steps inner)
  rw [hmade] at hgrown
  obtain ⟨address, haddress, hfiles⟩ := address?_of_writeFile hwritten
  rw [hgrown.files_eq] at hfiles
  rw [hsave] at hsame ⊢
  refine ⟨rfl, address, ?_, hfiles⟩
  rw [addressIn?, hsame, hbelow, Option.bind_some, haddress]

/-- The contents of the file that a path leads to. -/
def read? (d : Disk) (path : String) : Option ByteArray :=
  (d.stepsBelow? path).bind d.contents?

theorem Grown.hasAbsoluteTop {d' : Disk} (h : d.Grown files d') (htop : d.HasAbsoluteTop) :
    d'.HasAbsoluteTop := by
  constructor
  · rw [h.top_eq]
    exact htop.absolute
  · rw [h.top_eq]
    exact htop.no_slash

/-- What was saved is read back by the path of the file. -/
theorem read?_of_save (htop : d.HasAbsoluteTop) (hname : IsEntryName name)
    (h : (d.save directory name text).2.isOk = true) :
    (d.save directory name text).1.read? (join directory name) = some text.toUTF8 := by
  obtain ⟨inner, -, -, hbelow, -, hpath, -, -⟩ := save_of_isOk h
  have hgrown := grown_save d directory name text
  have hsteps : (d.save directory name text).1.stepsBelow? (join directory name) =
      some (steps inner ++ [name]) := by
    rw [stepsBelow?, if_neg (by simp [hpath]), hgrown.below, htop.below_join hname hbelow,
      Option.map_some, stepsWithSlash_join hname]
  have hfile := fileIn?_of_save h
  rw [fileIn?, hgrown.below, hbelow, Option.bind_some] at hfile
  rw [read?, hsteps, Option.bind_some, hfile]

end Save

end Disk

/-! ## Sequences -/

open Cli (outputFileName)

/-- A save of the generated file, with the disk that it meets. -/
structure Saving where
  before : Disk
  directory : String
  text : String

namespace Saving

def outcome (s : Saving) : Disk × Except Failure String :=
  s.before.save s.directory outputFileName s.text

/-- The disk that the save leaves. -/
def after (s : Saving) : Disk :=
  s.outcome.1

def result (s : Saving) : Except Failure String :=
  s.outcome.2

/-- The address of the file that the path of the save leads to, when the save is over. -/
def target? (s : Saving) : Option (List String) :=
  s.after.addressIn? s.directory outputFileName

/-- The save succeeds, and its path leads to the address. -/
def WritesTo (s : Saving) (address : List String) : Prop :=
  s.result.isOk = true ∧ s.target? = some address

instance (s : Saving) (address : List String) : Decidable (s.WritesTo address) :=
  inferInstanceAs (Decidable (_ ∧ _))

theorem grown_after (s : Saving) : s.before.Grown (fun _ => True) s.after :=
  Disk.grown_save s.before s.directory outputFileName s.text

/-- What one save does to the files. -/
theorem files_cases (s : Saving) :
    (∃ cause, s.result = .error cause ∧ s.before.Grown (fun _ => False) s.after) ∨
    (s.result = .ok (join s.directory outputFileName) ∧ ∃ address, s.target? = some address ∧
      Disk.Rewritten address s.text.toUTF8 s.before.files s.after.files) := by
  cases hresult : s.result with
  | error cause => exact Or.inl ⟨cause, rfl, Disk.grown_of_save_eq_error hresult⟩
  | ok path =>
      have hok : s.result.isOk = true := by
        rw [hresult]
        rfl
      rw [← hresult]
      exact Or.inr (Disk.rewritten_of_save hok)

/-- The files at other addresses than that of the path stay, whatever comes of the save. -/
theorem files_elsewhere (s : Saving) {address : List String} (h : s.target? = some address) :
    s.after.files.filter (·.1 ≠ address) = s.before.files.filter (·.1 ≠ address) := by
  obtain ⟨cause, -, hgrown⟩ | ⟨-, address', htarget, hfiles⟩ := s.files_cases
  · rw [hgrown.files_eq]
  · cases htarget.symm.trans h
    exact hfiles.elsewhere

/-- One save, seen from one address. -/
theorem lookup_after (s : Saving) (address : List String) :
    s.after.files.lookup address =
      if s.WritesTo address then some s.text.toUTF8 else s.before.files.lookup address := by
  obtain ⟨cause, hresult, hgrown⟩ | ⟨hresult, address', htarget, hfiles⟩ := s.files_cases
  · have hnot : ¬ s.WritesTo address := by
      simp [WritesTo, hresult, Except.isOk, Except.toBool]
    rw [hgrown.files_eq, if_neg hnot]
  · have hiff : s.WritesTo address ↔ address' = address := by
      simp [WritesTo, hresult, htarget, Except.isOk, Except.toBool]
    rw [hfiles.lookup]
    simp only [hiff]

end Saving

namespace Disk

/-- The saves of texts in directories, one after the other. -/
def savings (d : Disk) : List (String × String) → List Saving
  | [] => []
  | (directory, text) :: rest =>
      ⟨d, directory, text⟩ :: savings (Saving.mk d directory text).after rest

/-- The disk that the saves of texts in directories leave. -/
def afterSaves (d : Disk) : List (String × String) → Disk
  | [] => d
  | (directory, text) :: rest => afterSaves (Saving.mk d directory text).after rest

theorem grown_afterSaves (d : Disk) (calls : List (String × String)) :
    d.Grown (fun _ => True) (d.afterSaves calls) := by
  induction calls generalizing d with
  | nil => exact .refl d
  | cons call rest ih => exact (Saving.mk d call.1 call.2).grown_after.trans (ih _)

/-- The disk grows up to each save and from there to the end. -/
theorem grown_of_mem_savings {d : Disk} {calls : List (String × String)} {s : Saving}
    (h : s ∈ d.savings calls) :
    d.Grown (fun _ => True) s.before ∧ s.after.Grown (fun _ => True) (d.afterSaves calls) := by
  induction calls generalizing d with
  | nil => cases h
  | cons call rest ih =>
      rcases List.mem_cons.mp h with rfl | h
      · exact ⟨.refl d, grown_afterSaves _ rest⟩
      · obtain ⟨hbefore, hafter⟩ := ih h
        exact ⟨(Saving.grown_after _).trans hbefore, hafter⟩

/-- The file at an address is that of the last save that wrote it. -/
theorem lookup_afterSaves (d : Disk) (calls : List (String × String)) (address : List String) :
    (d.afterSaves calls).files.lookup address =
      (((d.savings calls).filter fun s => s.WritesTo address).getLast?.map
        fun s => s.text.toUTF8).or (d.files.lookup address) := by
  induction calls generalizing d with
  | nil => rfl
  | cons call rest ih =>
      obtain ⟨directory, text⟩ := call
      rw [afterSaves, ih, Saving.lookup_after, savings]
      -- if the first save writes the address, it is the last one only where no later save does
      by_cases hwrites : (Saving.mk d directory text).WritesTo address
      · rw [if_pos hwrites, List.filter_cons_of_pos (by simpa using hwrites), List.getLast?_cons]
        cases ((savings (Saving.mk d directory text).after rest).filter
          fun s => s.WritesTo address).getLast? <;> rfl
      · rw [if_neg hwrites, List.filter_cons_of_neg (by simpa using hwrites)]

/-- What a sequence of saves does. A save that succeeds returns the path of the file in its
directory, and the text is read back there. The file that the path leads to is the only one that can
change or appear; it is the one that the path led to before the save, and will lead to after all
saves. A save that fails can make directories, and all files stay. In the end every file has the
text of the last save that wrote it, or is as it was in the beginning. -/
theorem saves_write_only_where_they_lead (d : Disk) (calls : List (String × String)) :
    (∀ s ∈ d.savings calls,
      (∀ path, s.result = .ok path →
        path = join s.directory outputFileName ∧
        s.after.fileIn? s.directory outputFileName = some s.text.toUTF8 ∧
        (d.HasAbsoluteTop → s.after.read? path = some s.text.toUTF8) ∧
        ∃ address, s.target? = some address ∧
          s.after.files.lookup address = some s.text.toUTF8 ∧
          (d.afterSaves calls).addressIn? s.directory outputFileName = some address) ∧
      (∀ address, s.before.addressIn? s.directory outputFileName = some address →
        s.target? = some address) ∧
      (∀ address, s.target? = some address →
        s.after.files.filter (·.1 ≠ address) = s.before.files.filter (·.1 ≠ address)) ∧
      ∀ cause, s.result = .error cause →
        s.after.files = s.before.files ∧ s.before.Grown (fun _ => False) s.after) ∧
    ∀ address, (d.afterSaves calls).files.lookup address =
      (((d.savings calls).filter fun s => s.WritesTo address).getLast?.map
        fun s => s.text.toUTF8).or (d.files.lookup address) := by
  refine ⟨?_, lookup_afterSaves d calls⟩
  intro s hs
  obtain ⟨hbefore, hafter⟩ := grown_of_mem_savings hs
  refine ⟨?_, fun _ => s.grown_after.addressIn?, fun _ => s.files_elsewhere, ?_⟩
  · intro path hpath
    have hok : s.result.isOk = true := by
      rw [hpath]
      rfl
    obtain ⟨cause, hresult, -⟩ | ⟨hresult, address, htarget, hfiles⟩ := s.files_cases
    · cases hresult.symm.trans hpath
    · cases hresult.symm.trans hpath
      refine ⟨rfl, fileIn?_of_save hok, ?_, address, htarget, hfiles.there,
        hafter.addressIn? htarget⟩
      intro htop
      exact read?_of_save (hbefore.hasAbsoluteTop htop) (by decide) hok
  · intro cause hcause
    obtain ⟨-, -, hgrown⟩ | ⟨hresult, -⟩ := s.files_cases
    · exact ⟨hgrown.files_eq, hgrown⟩
    · cases hresult.symm.trans hcause

/-! ## A save through a link and one that fails -/

/-- A disk on which `types` is a link to the empty directory `out`. -/
def linkedTypes : Disk where
  top := "/work"
  entries := [("out", .directory []), ("types", .link "out")]

/-- The disk with the generated file in `out`. -/
def writtenTypes : Disk where
  top := "/work"
  entries := [("out", .directory [("generated.ts", .file "a".toUTF8)]), ("types", .link "out")]

theorem linkedTypes_names :
    isTooLong "types" = false ∧ isTooLong "out" = false ∧ isTooLong "generated.ts" = false := by
  decide

theorem linkStart?_out (d : Disk) (trail : Trail) :
    d.linkStart? trail "out" = some (trail, ["out"]) :=
  linkStart?_eq_some_iff.mpr (Or.inr ⟨by decide, rfl, by decide⟩)

theorem save_linkedTypes :
    linkedTypes.save "types" outputFileName "a" = (writtenTypes, .ok "types/generated.ts") := by
  have hsteps : steps "types" = ["types"] := by decide
  have hmade : linkedTypes.makeDirectories (steps "types") = (linkedTypes, none) := by
    simp [hsteps, makeDirectories, makeDirectory, locateDirectory, locate, walk, entriesAt,
      isDirectory, linkedTypes, linkLimit, linkedTypes_names, linkStart?_out, List.lookup_cons,
      Except.isOk, Except.toBool]
  have hwritten : linkedTypes.writeFile (steps "types" ++ [outputFileName]) "a".toUTF8 =
      .ok writtenTypes := by
    simp [hsteps, writeFile, locate, walk, entriesAt, put, putPath, putName, linkedTypes,
      writtenTypes, linkLimit, linkedTypes_names, linkStart?_out, List.lookup_cons, Trail.path,
      outputFileName]
  exact save_eq_of_written (by decide) (by decide) hmade (by decide) hwritten

theorem save_writtenTypes :
    writtenTypes.save "types/generated.ts" outputFileName "b" =
      (writtenTypes, .error (.write "types/generated.ts/generated.ts" .alreadyExists)) := by
  have hsteps : steps "types/generated.ts" = ["types", "generated.ts"] := by decide
  have hmade : writtenTypes.makeDirectories (steps "types/generated.ts") =
      (writtenTypes, some .alreadyExists) := by
    simp [hsteps, makeDirectories, makeDirectory, locateDirectory, locate, walk, entriesAt,
      isDirectory, writtenTypes, linkLimit, linkedTypes_names, linkStart?_out, List.lookup_cons,
      Except.isOk, Except.toBool]
  exact save_eq_of_fault (by decide) (by decide) hmade

/-- The first save writes through the link, and the second cannot make a directory of the file. -/
theorem saves_of_linkedTypes :
    linkedTypes.HasAbsoluteTop ∧
    ∃ s t : Saving, linkedTypes.savings [("types", "a"), ("types/generated.ts", "b")] = [s, t] ∧
      s.result = .ok "types/generated.ts" ∧
      s.after.read? "types/generated.ts" = some "a".toUTF8 ∧
      t.result = .error (.write "types/generated.ts/generated.ts" .alreadyExists) ∧
      t.after.files = t.before.files := by
  have htop : linkedTypes.HasAbsoluteTop := ⟨by decide, by decide⟩
  obtain ⟨heach, -⟩ :=
    saves_write_only_where_they_lead linkedTypes [("types", "a"), ("types/generated.ts", "b")]
  have hafter : (Saving.mk linkedTypes "types" "a").after = writtenTypes :=
    congrArg Prod.fst save_linkedTypes
  have hlist : linkedTypes.savings [("types", "a"), ("types/generated.ts", "b")] =
      [⟨linkedTypes, "types", "a"⟩, ⟨writtenTypes, "types/generated.ts", "b"⟩] := by
    rw [savings, savings, savings, hafter]
  rw [hlist, List.forall_mem_cons, List.forall_mem_singleton] at heach
  obtain ⟨⟨hfirst, -⟩, -, -, -, hsecond⟩ := heach
  have hok := congrArg Prod.snd save_linkedTypes
  have hfails := congrArg Prod.snd save_writtenTypes
  exact ⟨htop, _, _, hlist, hok, (hfirst _ hok).2.2.1 htop, hfails, (hsecond _ hfails).1⟩

end Disk

end ScriptTypings.File
