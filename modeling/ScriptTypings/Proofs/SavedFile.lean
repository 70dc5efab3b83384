import ScriptTypings.Proofs.DiskGrowth
import Mathlib.Data.List.Induction

/-!
# Saving a file

A save makes the directories that are missing and then writes a file. Whatever comes of it, the disk
has only grown. A file that was saved is read back as it was written. Saving once more leaves the
disk as it is and fails exactly if it failed before: what the first attempt made before a fault does
not help the second past it.
-/

namespace ScriptTypings.File

namespace Disk

/-! ## Directories -/

variable {files : String → Prop} {d d' : Disk} {path front : List String} {name : String}
  {trail : Trail}

theorem isDirectory_iff :
    d.isDirectory path = true ↔ ∃ trail, d.locateDirectory path = .ok trail := by
  rw [isDirectory]
  cases d.locateDirectory path <;> simp [Except.isOk, Except.toBool]

/-- A directory is located on the disk. -/
theorem within_of_locateDirectory (h : d.locateDirectory path = .ok trail) : trail.Within d := by
  obtain ⟨left, hwalks⟩ := locateDirectory_eq_ok_iff.mp h
  exact hwalks.within .top

/-- A directory is located again on a grown disk. -/
theorem Grown.locateDirectory (hd : d.Grown files d') (h : d.locateDirectory path = .ok trail) :
    ∃ trail', d'.locateDirectory path = .ok trail' ∧ Trail.Grown files trail trail' := by
  obtain ⟨left, hwalks⟩ := locateDirectory_eq_ok_iff.mp h
  obtain ⟨trail', hgrown, hwalks'⟩ := hwalks.grown hd .nil .top
  exact ⟨trail', locateDirectory_eq_ok_iff.mpr ⟨left, hwalks'⟩, hgrown⟩

theorem Grown.isDirectory (hd : d.Grown files d') (h : d.isDirectory path = true) :
    d'.isDirectory path = true := by
  obtain ⟨trail, htrail⟩ := isDirectory_iff.mp h
  obtain ⟨trail', htrail', -⟩ := hd.locateDirectory htrail
  exact isDirectory_iff.mpr ⟨trail', htrail'⟩

/-- What leads to a directory leads through directories. -/
theorem isDirectory_of_append {back : List String} (h : d.isDirectory (front ++ back) = true) :
    d.isDirectory front = true := by
  obtain ⟨trail, htrail⟩ := isDirectory_iff.mp h
  obtain ⟨left, hwalks⟩ := locateDirectory_eq_ok_iff.mp htrail
  obtain ⟨middle, left', hfront, -⟩ := hwalks.split
  exact isDirectory_iff.mpr ⟨middle, locateDirectory_eq_ok_iff.mpr ⟨left', hfront⟩⟩

theorem isDirectory_filter_dots (h : d.isDirectory path = true) :
    d.isDirectory (path.filter (· ≠ ".")) = true := by
  obtain ⟨trail, htrail⟩ := isDirectory_iff.mp h
  obtain ⟨left, hwalks⟩ := locateDirectory_eq_ok_iff.mp htrail
  exact isDirectory_iff.mpr ⟨trail, locateDirectory_eq_ok_iff.mpr ⟨left, hwalks.filter_dots⟩⟩

/-- Where the path above a name is a directory, so is the path that is made first if it is not. The
two differ by the step `.`. -/
theorem isDirectory_parentSteps (h : d.isDirectory front = true) :
    d.isDirectory (parentSteps (front ++ [name])) = true := by
  have hfilter := isDirectory_filter_dots h
  rw [parentSteps, List.filter_append]
  by_cases hdot : name = "."
  · obtain ⟨last, hlast⟩ : ∃ last, front.filter (· ≠ ".") =
        (front.filter (· ≠ ".")).dropLast ++ last :=
      (List.dropLast_prefix _).imp fun _ => Eq.symm
    rw [hlast] at hfilter
    simpa [hdot] using isDirectory_of_append hfilter
  · simpa [hdot] using hfilter

/-! ## Making directories -/

/-- What can come of making a directory: something above it is at fault, its own name cannot be
taken, or it is put under a name that is free. -/
theorem makeDirectory_cases (d : Disk) (front : List String) (name : String) :
    (∃ fault, d.locateDirectory front = .error fault ∧
      d.makeDirectory (front ++ [name]) = .error fault) ∨
    ∃ parent, d.locateDirectory front = .ok parent ∧
      ((∃ fault, d.makeDirectory (front ++ [name]) = .error fault ∧ fault ≠ .noEntry ∧
          (name = "." ∨ name = ".." ∨ isTooLong name = true ∨
            ∃ old, (d.entriesAt parent).lookup name = some old)) ∨
        (name ≠ "." ∧ name ≠ ".." ∧ isTooLong name = false ∧
          (d.entriesAt parent).lookup name = none ∧
          d.makeDirectory (front ++ [name]) =
            .ok (d.put (parent.path ++ [name]) (.directory [])))) := by
  rw [makeDirectory, List.getLast?_concat, List.dropLast_concat]
  cases d.locateDirectory front with
  | error fault => exact Or.inl ⟨fault, rfl, rfl⟩
  | ok parent =>
      refine Or.inr ⟨parent, rfl, ?_⟩
      by_cases hdot : name = "."
      · exact Or.inl ⟨.alreadyExists, by simp [hdot], by simp, Or.inl hdot⟩
      · by_cases hup : name = ".."
        · exact Or.inl ⟨.alreadyExists, by simp [hup], by simp, Or.inr (Or.inl hup)⟩
        · cases hlong : isTooLong name with
          | true => exact Or.inl ⟨.nameTooLong, by simp [hdot, hup, hlong], by simp, by simp⟩
          | false =>
              cases hfound : (d.entriesAt parent).lookup name with
              | some old =>
                  exact Or.inl
                    ⟨.alreadyExists, by simp [hdot, hup, hlong, hfound], by simp, by simp⟩
              | none => exact Or.inr ⟨hdot, hup, rfl, rfl, by simp [hdot, hup, hlong, hfound]⟩

/-- A directory is made under a name that is free in the directory above. -/
theorem makeDirectory_eq_ok {made : Disk} (h : d.makeDirectory path = .ok made) :
    ∃ front name parent, path = front ++ [name] ∧ d.locateDirectory front = .ok parent ∧
      name ≠ "." ∧ name ≠ ".." ∧ isTooLong name = false ∧
      (d.entriesAt parent).lookup name = none ∧
      made = d.put (parent.path ++ [name]) (.directory []) := by
  cases path using List.reverseRecOn with
  | nil => cases h
  | append_singleton front name =>
      obtain ⟨fault, -, hmade⟩ | ⟨parent, hparent, ⟨fault, hmade, -⟩ |
        ⟨hdot, hup, hshort, hfree, hmade⟩⟩ := makeDirectory_cases d front name
      · cases h.symm.trans hmade
      · cases h.symm.trans hmade
      · cases h.symm.trans hmade
        exact ⟨front, name, parent, rfl, hparent, hdot, hup, hshort, hfree, rfl⟩

theorem makeDirectory_grown {made : Disk} (h : d.makeDirectory path = .ok made) :
    d.Grown files made := by
  obtain ⟨front, name, parent, rfl, hparent, -, -, -, hfree, rfl⟩ := makeDirectory_eq_ok h
  refine ⟨rfl, (within_of_locateDirectory hparent).grown_put ?_⟩
  exact grown_putName (Or.inl ⟨hfree, .directory .nil .nil⟩)

/-- What was made is there. -/
theorem makeDirectory_isDirectory {made : Disk} (h : d.makeDirectory path = .ok made) :
    made.isDirectory path = true := by
  have hgrown : d.Grown (fun _ => False) made := makeDirectory_grown h
  obtain ⟨front, name, parent, rfl, hparent, hdot, hup, hshort, hfree, rfl⟩ :=
    makeDirectory_eq_ok h
  obtain ⟨parent', hparent', htrail⟩ := hgrown.locateDirectory hparent
  obtain ⟨left, hwalks⟩ := locateDirectory_eq_ok_iff.mp hparent'
  have hfound := (within_of_locateDirectory hparent).lookup_put (hwalks.within .top) htrail.path_eq
  by_cases hempty : name = ""
  · exact isDirectory_iff.mpr ⟨parent', locateDirectory_eq_ok_iff.mpr
      ⟨left, hwalks.append (.stay (Or.inr hempty) .done)⟩⟩
  · have hlooks : LooksUp .look name [] := ⟨⟨hdot, hempty⟩, hup, by simp, hshort⟩
    exact isDirectory_iff.mpr ⟨(name, []) :: parent', locateDirectory_eq_ok_iff.mpr
      ⟨left, hwalks.append (.enter hlooks hfound .done)⟩⟩

/-- The last step to a directory is a dot or the name of an entry. -/
theorem lookup_ne_none_of_walks {links left : Nat} {parent trail : Trail}
    (h : Walks d .look links parent [name] (.directory trail left)) (hempty : name ≠ "")
    (hdot : name ≠ ".") (hup : name ≠ "..") : (d.entriesAt parent).lookup name ≠ none := by
  cases h with
  | stay here _ => exact absurd here (by simp [hdot, hempty])
  | up _ => exact absurd rfl hup
  | enter _ found _ => simp [found]
  | follow _ found _ _ => simp [found]

/-- A directory that is there is not made again, and nothing is missing above it. -/
theorem makeDirectory_of_isDirectory (hpath : path ≠ []) (hempty : "" ∉ path)
    (h : d.isDirectory path = true) :
    ∃ fault, d.makeDirectory path = .error fault ∧ fault ≠ .noEntry := by
  cases path using List.reverseRecOn with
  | nil => exact absurd rfl hpath
  | append_singleton front name =>
      obtain ⟨trail, htrail⟩ := isDirectory_iff.mp h
      obtain ⟨left, hwalks⟩ := locateDirectory_eq_ok_iff.mp htrail
      obtain ⟨parent, left', hfront, hname⟩ := hwalks.split
      have hlocated := locateDirectory_eq_ok_iff.mpr ⟨left', hfront⟩
      obtain ⟨fault, hnot, -⟩ | ⟨other, hother, ⟨fault, hmade, hfault, -⟩ |
        ⟨hdot, hup, -, hfree, -⟩⟩ := makeDirectory_cases d front name
      · cases hlocated.symm.trans hnot
      · exact ⟨fault, hmade, hfault⟩
      · cases hlocated.symm.trans hother
        have hne : name ≠ "" := fun heq => hempty (by simp [heq])
        exact absurd hfree (lookup_ne_none_of_walks hname hne hdot hup)

theorem not_mem_parentSteps (h : "" ∉ path) : "" ∉ parentSteps path := by
  intro hmem
  exact h (List.mem_of_mem_filter (List.dropLast_subset _ hmem))

/-- The directories made on the way are all that changes. -/
theorem makeDirectories_grown (d : Disk) (path : List String) :
    d.Grown files (d.makeDirectories path).1 := by
  fun_induction d.makeDirectories path with
  | case1 => exact .refl d
  | case2 path _ made hmade => exact makeDirectory_grown hmade
  | case3 path _ _ grown fault hparent ih => rwa [hparent] at ih
  | case4 path _ _ grown hparent made hmade ih =>
      rw [hparent] at ih
      exact ih.trans (makeDirectory_grown hmade)
  | case5 path _ _ grown hparent fault _ ih => rwa [hparent] at ih
  | case6 => exact .refl d

/-- Without a fault the directory is there in the end. -/
theorem makeDirectories_isDirectory (h : (d.makeDirectories path).2 = none) :
    (d.makeDirectories path).1.isDirectory path = true := by
  revert h
  fun_cases d.makeDirectories path with
  | case1 hpath =>
      intro _
      rw [hpath]
      exact isDirectory_iff.mpr ⟨[], locateDirectory_eq_ok_iff.mpr ⟨linkLimit, .done⟩⟩
  | case2 _ made hmade => exact fun _ => makeDirectory_isDirectory hmade
  | case3 =>
      intro h
      cases h
  | case4 _ _ grown _ made hmade => exact fun _ => makeDirectory_isDirectory hmade
  | case5 =>
      intro h
      simpa using h
  | case6 =>
      intro h
      simpa using h

theorem makeDirectories_of_isDirectory (hempty : "" ∉ path) (h : d.isDirectory path = true) :
    d.makeDirectories path = (d, none) := by
  by_cases hpath : path = []
  · rw [hpath, makeDirectories, dif_pos rfl]
  · obtain ⟨fault, hmade, hfault⟩ := makeDirectory_of_isDirectory hpath hempty h
    rw [makeDirectories, dif_neg hpath, hmade]
    cases fault <;> simp_all

theorem isDirectory_of_parent (h : d.isDirectory path = true) :
    d.isDirectory (parentSteps path) = true := by
  cases path using List.reverseRecOn with
  | nil => exact h
  | append_singleton front name => exact isDirectory_parentSteps (isDirectory_of_append h)

/-- A directory below one that is not there cannot be made. -/
theorem makeDirectory_of_no_parent (hpath : path ≠ [])
    (h : d.isDirectory (parentSteps path) = false) :
    ∃ fault, d.makeDirectory path = .error fault := by
  cases path using List.reverseRecOn with
  | nil => exact absurd rfl hpath
  | append_singleton front name =>
      obtain ⟨fault, -, hmade⟩ | ⟨parent, hparent, -⟩ := makeDirectory_cases d front name
      · exact ⟨fault, hmade⟩
      · have hthere : d.isDirectory (parentSteps (front ++ [name])) = true :=
          isDirectory_parentSteps (isDirectory_iff.mpr ⟨parent, hparent⟩)
        simp [hthere] at h

theorem makeDirectories_fails {fault : Fault} (hpath : path ≠ [])
    (hfault : d.makeDirectory path = .error fault) (hnot : d.isDirectory path = false)
    (hparent : fault = .noEntry → (d.makeDirectories (parentSteps path)).1 = d) :
    ∃ fault', d.makeDirectories path = (d, some fault') := by
  rw [makeDirectories, dif_neg hpath, hfault]
  by_cases hmissing : fault = .noEntry
  · rcases hmade : d.makeDirectories (parentSteps path) with ⟨grown, _ | fault'⟩
    all_goals
      have hsame : grown = d := by simpa [hmade] using hparent hmissing
      simp [hmissing, hsame, hfault, hnot]
  · exact ⟨fault, by simp [hnot]⟩

/-- What was made before a fault does not help past it. -/
theorem makeDirectories_fails_again (hempty : "" ∉ path) (h : (d.makeDirectories path).2 ≠ none) :
    ∃ fault, (d.makeDirectories path).1.makeDirectories path =
      ((d.makeDirectories path).1, some fault) := by
  fun_induction d.makeDirectories path with
  | case1 => exact absurd rfl h
  | case2 => exact absurd rfl h
  | case3 path hpath _ grown fault hparent ih =>
      have hempty' := not_mem_parentSteps hempty
      rw [hparent] at ih
      obtain ⟨fault', hagain⟩ := ih hempty' (by simp)
      have hnot : grown.isDirectory (parentSteps path) = false := by
        by_contra hthere
        have := makeDirectories_of_isDirectory hempty' (Bool.not_eq_false _ ▸ hthere)
        simp [this] at hagain
      obtain ⟨fault'', hmade⟩ := makeDirectory_of_no_parent hpath hnot
      refine makeDirectories_fails hpath hmade ?_ (fun _ => by rw [hagain])
      by_contra hthere
      simp [isDirectory_of_parent (Bool.not_eq_false _ ▸ hthere)] at hnot
  | case4 => exact absurd rfl h
  | case5 path hpath _ grown hparent fault hfault _ =>
      refine makeDirectories_fails hpath hfault (by simpa using h) (fun _ => ?_)
      have hthere : grown.isDirectory (parentSteps path) = true := by
        have hmade : (d.makeDirectories (parentSteps path)).2 = none := by rw [hparent]
        simpa [hparent] using makeDirectories_isDirectory hmade
      rw [makeDirectories_of_isDirectory (not_mem_parentSteps hempty) hthere]
  | case6 path hpath fault hne hfault =>
      exact makeDirectories_fails hpath hfault (by simpa using h) (fun heq => absurd heq hne)

end Disk

/-! ## Writing a file -/

/-- The directory and the name under which a file is written from a place. -/
def Place.target? : Place → Option (Trail × String)
  | .directory _ _ => none
  | .file trail name _ _ | .absent trail name => some (trail, name)

section Target

variable {files : String → Prop} {d d' : Disk} {place : Place} {trail : Trail} {name : String}

/-- There is no directory and no link under the name. -/
theorem Place.Within.target (h : place.Within d) (htarget : place.target? = some (trail, name)) :
    trail.Within d ∧ ((d.entriesAt trail).lookup name = none ∨
      ∃ old, (d.entriesAt trail).lookup name = some (.file old)) := by
  cases place with
  | directory => cases htarget
  | file _ _ old _ =>
      cases htarget
      exact ⟨h.1, Or.inr ⟨old, h.2⟩⟩
  | absent =>
      cases htarget
      exact ⟨h.1, Or.inl h.2⟩

theorem Place.Again.target {walks : Place → Prop} (h : place.Again files d' walks)
    (htarget : place.target? = some (trail, name)) :
    ∃ trail' links, Trail.Grown files trail trail' ∧ trail'.Within d' ∧
      ∀ contents, (d'.entriesAt trail').lookup name = some (.file contents) →
        walks (.file trail' name contents links) := by
  cases place with
  | directory => cases htarget
  | file =>
      cases htarget
      exact h
  | absent =>
      cases htarget
      exact h

end Target

namespace Disk

variable {files : String → Prop} {d d' : Disk} {path : List String} {name : String} {trail : Trail}
  {contents : ByteArray}

/-- A file that is written at a path comes to stand under a name in the directory at the end of a
trail. The last step of the path and the name differ where links are followed. -/
def Writes (d : Disk) (path : List String) (trail : Trail) (name : String) : Prop :=
  ∃ place, Walks d .write linkLimit [] path place ∧ place.target? = some (trail, name)

theorem writeFile_eq_ok_iff {written : Disk} :
    d.writeFile path contents = .ok written ↔
      ∃ trail name, d.Writes path trail name ∧
        d.put (trail.path ++ [name]) (.file contents) = written := by
  simp only [Writes, ← walk_eq_ok_iff]
  rw [writeFile, locate]
  cases d.walk .write linkLimit [] path with
  | error fault => simp
  | ok place => cases place <;> simp [Place.target?]

theorem Writes.within (h : d.Writes path trail name) : trail.Within d := by
  obtain ⟨place, hwalks, htarget⟩ := h
  exact ((hwalks.within .top).target htarget).1

/-- Only a file of that name changes or appears. -/
theorem Writes.grown (h : d.Writes path trail name) (hfiles : files name) (contents : ByteArray) :
    d.Grown files (d.put (trail.path ++ [name]) (.file contents)) := by
  refine ⟨rfl, h.within.grown_put (grown_putName ?_)⟩
  obtain ⟨place, hwalks, htarget⟩ := h
  obtain ⟨-, hfree | ⟨old, hold⟩⟩ := (hwalks.within .top).target htarget
  · exact Or.inl ⟨hfree, .file hfiles contents .nil⟩
  · exact Or.inr ⟨_, hold, .written hfiles old contents (.refl [])⟩

/-- On the disk with the new file, the path leads to that file. -/
theorem Writes.walks_put (h : d.Writes path trail name) (contents : ByteArray) :
    ∃ trail' links, trail'.path = trail.path ∧
      Walks (d.put (trail.path ++ [name]) (.file contents)) .write linkLimit [] path
        (.file trail' name contents links) := by
  have hgrown : d.Grown (fun _ => True) _ := h.grown trivial contents
  have hwithin := h.within
  obtain ⟨place, hwalks, htarget⟩ := h
  obtain ⟨trail', links, htrail, hwithin', hfile⟩ :=
    (hwalks.grown hgrown .nil .top).target htarget
  exact ⟨trail', links, htrail.path_eq, hfile _ (hwithin.lookup_put hwithin' htrail.path_eq)⟩

/-- Writing the same file once more changes nothing. -/
theorem writeFile_again {written : Disk} (h : d.writeFile path contents = .ok written) :
    written.writeFile path contents = .ok written := by
  obtain ⟨trail, name, hwrites, rfl⟩ := writeFile_eq_ok_iff.mp h
  obtain ⟨trail', links, -, hwalks⟩ := hwrites.walks_put contents
  have hplace := hwalks.within .top
  exact writeFile_eq_ok_iff.mpr
    ⟨trail', name, ⟨_, hwalks, rfl⟩, hplace.1.put_eq_self hplace.2⟩

/-- The contents of the file that a path leads to. -/
def contents? (d : Disk) (path : List String) : Option ByteArray :=
  match d.locate .look path with
  | .ok (.file _ _ contents _) => some contents
  | _ => none

theorem contents?_of_writeFile {written : Disk} (h : d.writeFile path contents = .ok written) :
    written.contents? path = some contents := by
  obtain ⟨trail, name, hwrites, rfl⟩ := writeFile_eq_ok_iff.mp h
  obtain ⟨trail', links, -, hwalks⟩ := hwrites.walks_put contents
  rw [contents?, locate, walk_of_walks hwalks.look]

/-! ## Saving a file -/

/-- The contents of the file of a name in a directory. -/
def fileIn? (d : Disk) (directory name : String) : Option ByteArray :=
  (d.below directory).bind fun inner => d.contents? (steps inner ++ [name])

theorem not_mem_steps (path : String) : "" ∉ steps path := by
  simp [steps]

section Save

variable {inner directory text : String} {grown written : Disk}
  (hrefused : refusal? directory = none) (hbelow : d.below directory = some inner)
include hrefused hbelow

theorem save_eq_of_fault {fault : Fault}
    (hmade : d.makeDirectories (steps inner) = (grown, some fault)) :
    d.save directory name text = (grown, .error (.write (join directory name) fault)) := by
  simp only [save, hrefused, hbelow, hmade]

theorem save_eq_of_refusal {fault : Fault} (hmade : d.makeDirectories (steps inner) = (grown, none))
    (hpath : refusal? (join directory name) = some fault) :
    d.save directory name text = (grown, .error (.write (join directory name) fault)) := by
  simp only [save, hrefused, hbelow, hmade, hpath]

theorem save_eq_of_unwritten {fault : Fault}
    (hmade : d.makeDirectories (steps inner) = (grown, none))
    (hpath : refusal? (join directory name) = none)
    (hwritten : grown.writeFile (steps inner ++ [name]) text.toUTF8 = .error fault) :
    d.save directory name text = (grown, .error (.write (join directory name) fault)) := by
  simp only [save, hrefused, hbelow, hmade, hpath, hwritten]

theorem save_eq_of_written (hmade : d.makeDirectories (steps inner) = (grown, none))
    (hpath : refusal? (join directory name) = none)
    (hwritten : grown.writeFile (steps inner ++ [name]) text.toUTF8 = .ok written) :
    d.save directory name text = (written, .ok (join directory name)) := by
  simp only [save, hrefused, hbelow, hmade, hpath, hwritten]

/-- Once the directory is made, the save goes on as on a disk that had it. -/
theorem save_eq_of_made (hmade : d.makeDirectories (steps inner) = (grown, none)) :
    d.save directory name text = grown.save directory name text := by
  have hgrown : d.Grown (fun _ => True) grown := by
    simpa [hmade] using makeDirectories_grown d (steps inner)
  have hthere : grown.isDirectory (steps inner) = true := by
    simpa [hmade] using makeDirectories_isDirectory (congrArg Prod.snd hmade)
  have hagain := makeDirectories_of_isDirectory (not_mem_steps inner) hthere
  simp only [save, hrefused, hgrown.below, hbelow, hmade, hagain]

end Save

/-- What can come of a save: the directory is refused, it cannot be made, the file cannot be written
into it, or the file is written. -/
theorem save_cases (d : Disk) (directory name text : String) :
    (∃ cause, d.save directory name text = (d, .error cause)) ∨
    ∃ inner, refusal? directory = none ∧ d.below directory = some inner ∧
      ((∃ grown fault cause, d.makeDirectories (steps inner) = (grown, some fault) ∧
          d.save directory name text = (grown, .error cause)) ∨
        ∃ grown, d.makeDirectories (steps inner) = (grown, none) ∧
          ((∃ cause, d.save directory name text = (grown, .error cause)) ∨
            ∃ written, refusal? (join directory name) = none ∧
              grown.writeFile (steps inner ++ [name]) text.toUTF8 = .ok written ∧
              d.save directory name text = (written, .ok (join directory name)))) := by
  cases hrefused : refusal? directory with
  | some fault => exact Or.inl ⟨_, by rw [save, hrefused]⟩
  | none =>
      cases hbelow : d.below directory with
      | none => exact Or.inl ⟨_, by rw [save, hrefused, hbelow]⟩
      | some inner =>
          refine Or.inr ⟨inner, rfl, rfl, ?_⟩
          rcases hmade : d.makeDirectories (steps inner) with ⟨grown, _ | fault⟩
          · refine Or.inr ⟨grown, rfl, ?_⟩
            cases hpath : refusal? (join directory name) with
            | some fault => exact Or.inl ⟨_, save_eq_of_refusal hrefused hbelow hmade hpath⟩
            | none =>
                cases hwritten : grown.writeFile (steps inner ++ [name]) text.toUTF8 with
                | error fault =>
                    exact Or.inl ⟨_, save_eq_of_unwritten hrefused hbelow hmade hpath hwritten⟩
                | ok written =>
                    exact Or.inr ⟨written, rfl, rfl,
                      save_eq_of_written hrefused hbelow hmade hpath hwritten⟩
          · exact Or.inl ⟨grown, fault, _, rfl, save_eq_of_fault hrefused hbelow hmade⟩

variable {directory text : String}

/-- A save lets the disk grow, also one that fails. -/
theorem save_grown
    (hfiles : ∀ grown : Disk, d.Grown files grown → ∀ inner trail written,
      grown.Writes (steps inner ++ [name]) trail written → files written) :
    d.Grown files (d.save directory name text).1 := by
  obtain ⟨cause, hsave⟩ | ⟨inner, -, -, h⟩ := save_cases d directory name text
  · rw [hsave]
    exact .refl d
  · have hgrown : d.Grown files (d.makeDirectories (steps inner)).1 := makeDirectories_grown d _
    obtain ⟨grown, fault, cause, hmade, hsave⟩ | ⟨grown, hmade, ⟨cause, hsave⟩ |
      ⟨written, -, hwritten, hsave⟩⟩ := h
    · rw [hmade] at hgrown
      rwa [hsave]
    · rw [hmade] at hgrown
      rwa [hsave]
    · rw [hmade] at hgrown
      rw [hsave]
      obtain ⟨trail, last, hwrites, rfl⟩ := writeFile_eq_ok_iff.mp hwritten
      exact hgrown.trans (hwrites.grown (hfiles grown hgrown inner trail last hwrites) _)

/-- A save lets the disk grow, if any file may be written. -/
theorem grown_save (d : Disk) (directory name text : String) :
    d.Grown (fun _ => True) (d.save directory name text).1 :=
  save_grown fun _ _ _ _ _ _ => trivial

/-- A save that succeeds has made the directory and written the file. -/
theorem save_of_isOk (h : (d.save directory name text).2.isOk = true) :
    ∃ inner grown written, d.below directory = some inner ∧
      d.makeDirectories (steps inner) = (grown, none) ∧ refusal? (join directory name) = none ∧
      grown.writeFile (steps inner ++ [name]) text.toUTF8 = .ok written ∧
      d.save directory name text = (written, .ok (join directory name)) := by
  obtain ⟨cause, hsave⟩ | ⟨inner, -, hbelow, ⟨grown, fault, cause, -, hsave⟩ | ⟨grown, hmade,
    ⟨cause, hsave⟩ | ⟨written, hpath, hwritten, hsave⟩⟩⟩ := save_cases d directory name text
  · simp [hsave, Except.isOk, Except.toBool] at h
  · simp [hsave, Except.isOk, Except.toBool] at h
  · simp [hsave, Except.isOk, Except.toBool] at h
  · exact ⟨inner, grown, written, hbelow, hmade, hpath, hwritten, hsave⟩

/-- What was saved is read back. -/
theorem fileIn?_of_save (h : (d.save directory name text).2.isOk = true) :
    (d.save directory name text).1.fileIn? directory name = some text.toUTF8 := by
  obtain ⟨inner, grown, written, hbelow, -, -, hwritten, hsave⟩ := save_of_isOk h
  rw [fileIn?, (grown_save d directory name text).below, hsave, hbelow]
  exact contents?_of_writeFile hwritten

/-- Saving once more leaves the disk as it is and fails exactly if the first save failed. -/
theorem save_again (d : Disk) (directory name text : String) :
    ∃ result, (d.save directory name text).1.save directory name text =
        ((d.save directory name text).1, result) ∧
      result.isOk = (d.save directory name text).2.isOk := by
  obtain ⟨cause, hsave⟩ | ⟨inner, hrefused, hbelow, h⟩ := save_cases d directory name text
  · rw [hsave]
    exact ⟨_, hsave, rfl⟩
  · have hbelow' := ((grown_save d directory name text).below directory).trans hbelow
    obtain ⟨grown, fault, cause, hmade, hsave⟩ | ⟨grown, hmade, ⟨cause, hsave⟩ |
      ⟨written, hpath, hwritten, hsave⟩⟩ := h
    · obtain ⟨fault', hagain⟩ := makeDirectories_fails_again (not_mem_steps inner)
        (show (d.makeDirectories (steps inner)).2 ≠ none by simp [hmade])
      rw [hmade] at hagain
      rw [hsave] at hbelow' ⊢
      exact ⟨_, save_eq_of_fault hrefused hbelow' hagain, rfl⟩
    · have hagain := (save_eq_of_made hrefused hbelow hmade).symm.trans hsave
      rw [hsave]
      exact ⟨_, hagain, rfl⟩
    · have hthere : grown.isDirectory (steps inner) = true := by
        simpa [hmade] using makeDirectories_isDirectory (congrArg Prod.snd hmade)
      obtain ⟨trail, last, hwrites, rfl⟩ := writeFile_eq_ok_iff.mp hwritten
      have hwritten' : grown.Grown (fun _ => True) _ := hwrites.grown trivial text.toUTF8
      have hmade' := makeDirectories_of_isDirectory (not_mem_steps inner)
        (hwritten'.isDirectory hthere)
      rw [hsave] at hbelow' ⊢
      exact ⟨_, save_eq_of_written hrefused hbelow' hmade' hpath (writeFile_again hwritten), rfl⟩

end Disk

end ScriptTypings.File
