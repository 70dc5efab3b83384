import ScriptTypings.Proofs.RunEffects
import ScriptTypings.Proofs.ScanPartition

/-!
# Running again

A run writes below its output directory, which may lie inside the directory that it scans. On a disk
without links the next run with the same arguments still does the same. What the first run has added
are directories and a file that is no script, so the scan finds the same scripts and gives the same
text; saving that text once more changes nothing.
-/

namespace ScriptTypings.File

/-! ## Disks without links -/

section Plain

variable {files : String → Prop} {name : String} {d : Disk}

theorem Trail.Within.plain {trail : Trail} (h : trail.Within d) (hd : Plain files d.entries) :
    Plain files (d.entriesAt trail) := by
  induction h with
  | top => exact hd
  | inside _ found ih =>
      cases ih.lookup found with
      | directory within _ => exact within

/-- Without links, a file is written under the last step of its path. -/
theorem Walks.getLast?_of_target {purpose : Purpose} {links : Nat} {trail target : Trail}
    {path : List String} {place : Place} (h : Walks d purpose links trail path place)
    (hd : Plain files d.entries) (htrail : trail.Within d)
    (htarget : place.target? = some (target, name)) : path.getLast? = some name := by
  induction h with
  | done => cases htarget
  | stay _ _ ih => rw [List.getLast?_cons, ih htrail htarget]; rfl
  | up _ ih =>
      cases htrail with
      | inside above _ => rw [List.getLast?_cons, ih above htarget]; rfl
  | enter _ found _ ih =>
      rw [List.getLast?_cons, ih (.inside htrail found) htarget]
      rfl
  | follow _ found _ _ _ => cases (htrail.plain hd).lookup found
  | file _ _ =>
      cases htarget
      rfl
  | absent _ _ =>
      cases htarget
      rfl

end Plain

/-! ## Scripts on a grown disk -/

section Scripts

variable {files all : String → Prop} {xs ys : List (String × Entry)} {d d' : Disk}
  {links links' : Nat} {trail trail' : Trail} {excluded here : List String}

/-- Entries without links are seen as they are. -/
theorem Plain.viewAll_eq (h : Plain files xs) :
    d.viewAll links trail xs = d'.viewAll links' trail' xs := by
  induction h generalizing trail trail' with
  | nil => simp only [Disk.viewAll]
  | file _ contents _ ih =>
      simp only [Disk.viewAll, Disk.view]
      rw [ih]
  | directory _ _ ihWithin ih =>
      simp only [Disk.viewAll, Disk.view]
      rw [ihWithin, ih]

theorem scriptsIn_viewAll_file (name : String) (contents : ByteArray) :
    scriptsIn excluded here (d.viewAll links trail ((name, .file contents) :: xs)) =
      scriptsOf excluded here (name, .file contents) ++
        scriptsIn excluded here (d.viewAll links trail xs) := by
  simp only [Disk.viewAll, Disk.view, scriptsIn]

theorem scriptsIn_viewAll_directory (name : String) (inner : List (String × Entry)) :
    scriptsIn excluded here (d.viewAll links trail ((name, .directory inner) :: xs)) =
      scriptsOf excluded here (name, .directory (d.viewAll links ((name, inner) :: trail) inner)) ++
        scriptsIn excluded here (d.viewAll links trail xs) := by
  simp only [Disk.viewAll, Disk.view, scriptsIn]

theorem Plain.scriptsIn_eq_nil (h : Plain files xs)
    (hfiles : ∀ n, files n → isScriptName n = false) :
    scriptsIn excluded here (d.viewAll links trail xs) = [] := by
  induction h generalizing trail here with
  | nil => simp only [Disk.viewAll, scriptsIn]
  | file allowed contents _ ih =>
      rw [scriptsIn_viewAll_file, ih]
      simp [scriptsOf, hfiles _ allowed]
  | directory _ _ ihWithin ih =>
      rw [scriptsIn_viewAll_directory, ih]
      simp [scriptsOf, ihWithin]

/-- Where only files that are no scripts are added or changed, the scripts stay. -/
theorem Grown.scriptsIn_eq (h : Grown files xs ys) (hplain : Plain all xs)
    (hfiles : ∀ n, files n → isScriptName n = false) :
    scriptsIn excluded here (d'.viewAll links trail' ys) =
      scriptsIn excluded here (d.viewAll links trail xs) := by
  induction h generalizing trail trail' here with
  | fresh new =>
      rw [new.scriptsIn_eq_nil hfiles]
      simp only [Disk.viewAll, scriptsIn]
  | kept name e _ ih =>
      cases hplain with
      | file _ contents behind =>
          rw [scriptsIn_viewAll_file, scriptsIn_viewAll_file, ih behind]
      | directory within behind =>
          rw [scriptsIn_viewAll_directory, scriptsIn_viewAll_directory, ih behind,
            within.viewAll_eq]
  | inside name _ _ ihWithin ih =>
      cases hplain with
      | directory within behind =>
          rw [scriptsIn_viewAll_directory, scriptsIn_viewAll_directory]
          refine congrArg₂ (· ++ ·) ?_ (ih behind)
          rw [scriptsOf, scriptsOf, ihWithin within]
  | written allowed old new _ ih =>
      cases hplain with
      | file _ _ behind =>
          rw [scriptsIn_viewAll_file, scriptsIn_viewAll_file]
          refine congrArg₂ (· ++ ·) ?_ (ih behind)
          simp [scriptsOf, hfiles _ allowed]

end Scripts

namespace Disk

variable {files : String → Prop} {d d' : Disk} {path : String} {trail : Trail}

/-- A disk without links. -/
def LinkFree (d : Disk) : Prop :=
  Plain (fun _ => True) d.entries

theorem Grown.leadsTo (hd : d.Grown files d') (h : d.LeadsTo path trail) :
    ∃ trail', d'.LeadsTo path trail' ∧ Trail.Grown files trail trail' := by
  obtain ⟨steps, left, hsteps, hwalks⟩ := h
  obtain ⟨trail', htrail, hwalks'⟩ := hwalks.grown hd .nil .top
  refine ⟨trail', ⟨steps, left, ?_, hwalks'⟩, htrail⟩
  rw [stepsBelow?, hd.below]
  exact hsteps

/-- The directory at a path is found again, with the same scripts. -/
theorem Grown.directory? (hd : d.Grown files d') (hlinks : d.LinkFree)
    (hfiles : ∀ n, files n → isScriptName n = false) {root : String}
    {entries : List (String × Tree)} (h : d.directory? path = some (root, entries)) :
    ∃ entries', d'.directory? path = some (root, entries') ∧
      ∀ patterns, discover patterns entries' = discover patterns entries := by
  obtain ⟨trail, hleads, hfound⟩ := directory?_eq_some_iff.mp h
  obtain ⟨rfl, rfl⟩ := Prod.mk.inj hfound
  obtain ⟨trail', hleads', htrail⟩ := hd.leadsTo hleads
  have hplain : Plain (fun _ => True) (d.entriesAt trail) := by
    obtain ⟨steps, left, -, hwalks⟩ := hleads
    exact (hwalks.within .top).plain hlinks
  have hgrown := htrail.entriesAt hd
  refine ⟨d'.viewAll linkLimit trail' (d'.entriesAt trail'),
    directory?_eq_some_iff.mpr ⟨trail', hleads', ?_⟩, fun patterns => ?_⟩
  · rw [hd.top_eq, htrail.path_eq]
  · rw [discover, discover, hgrown.scriptsIn_eq hplain hfiles]

/-- Without links, a save adds or changes no file of another name. -/
theorem LinkFree.save_grown (h : d.LinkFree) (directory name text : String) :
    d.Grown (· = name) (d.save directory name text).1 := by
  apply Disk.save_grown
  rintro grown hgrown inner trail written ⟨place, hwalks, htarget⟩
  have hplain := h.grown hgrown.entries fun _ _ => trivial
  have hlast := hwalks.getLast?_of_target hplain .top htarget
  simpa using hlast.symm

end Disk

end ScriptTypings.File

namespace ScriptTypings.Cli

/-! ## The second run -/

section SecondRun

variable {read : Reader} {args : Arguments} {disk disk' : File.Disk} {files : String → Prop}
  {text : String}

theorem scriptClasses_eq_of_discover {p q : Project} {patterns : List String}
    (h : File.discover patterns p.entries = File.discover patterns q.entries) :
    (p.scanWith read patterns).scriptClasses = (q.scanWith read patterns).scriptClasses := by
  rw [ScanReport.scriptClasses, ScanReport.scriptClasses, scanWith_scripts, scanWith_scripts, h]

/-- The text does not change with files that are no scripts. -/
theorem generated?_of_grown (hd : disk.Grown files disk') (hlinks : disk.LinkFree)
    (hfiles : ∀ n, files n → File.isScriptName n = false)
    (h : generated? read args disk = some text) : generated? read args disk' = some text := by
  cases hfound : disk.directory? args.input with
  | none => simp [generated?, openProject, hfound, Except.toOption] at h
  | some found =>
      obtain ⟨root, entries⟩ := found
      obtain ⟨entries', hfound', hsame⟩ := hd.directory? hlinks hfiles hfound
      have hclasses := @scriptClasses_eq_of_discover read ⟨root, entries'⟩ ⟨root, entries⟩ _
        (hsame args.excludePatterns)
      simp only [generated?, openProject, hfound, hfound', Except.toOption, Option.map_some,
        Option.some.injEq] at h ⊢
      rw [hclasses, h]

/-- After a save, the text is generated as before. -/
theorem generated?_of_save (hlinks : disk.LinkFree) (h : generated? read args disk = some text) :
    generated? read args (disk.save args.output outputFileName text).1 = some text := by
  refine generated?_of_grown (hlinks.save_grown args.output outputFileName text) hlinks ?_ h
  rintro name rfl
  decide

/-- The run after a save, whatever came of that save. -/
theorem runWith_after_save (hlinks : disk.LinkFree) (h : generated? read args disk = some text)
    (hdebug : args.debugClass = none) (hstdout : args.stdout = false) :
    (runWith read args (disk.save args.output outputFileName text).1).effects =
      (runWith read args disk).effects := by
  obtain ⟨result, hagain, hresult⟩ := disk.save_again args.output outputFileName text
  rw [effects_of_save (generated?_of_save hlinks h) hdebug hstdout,
    effects_of_save h hdebug hstdout, hagain, hresult]

end SecondRun

/-- On a disk without links, a second run with the same arguments ends as the first one did, from
the same text, and leaves the disk as the first one left it, whatever reads the scripts. -/
theorem regeneration_is_stable (read : Reader) (args : Arguments) (disk : File.Disk)
    (hlinks : disk.LinkFree) :
    (runWith read args (runWith read args disk).disk).exitCode = (runWith read args disk).exitCode ∧
    (runWith read args (runWith read args disk).disk).stdout = (runWith read args disk).stdout ∧
    (runWith read args (runWith read args disk).disk).disk = (runWith read args disk).disk ∧
    generated? read args (runWith read args disk).disk = generated? read args disk := by
  by_cases hnoSave : generated? read args disk = none ∨ args.debugClass ≠ none ∨ args.stdout = true
  · have hdisk := disk_of_no_save hnoSave
    simp only [hdisk, and_self]
  · push Not at hnoSave
    obtain ⟨hsome, hdebug, hstdout⟩ := hnoSave
    obtain ⟨text, htext⟩ := Option.ne_none_iff_exists'.mp hsome
    have hfirst := effects_of_save htext hdebug (by simpa using hstdout)
    have hdisk : (runWith read args disk).disk = (disk.save args.output outputFileName text).1 :=
      congrArg (·.2.2) hfirst
    have hsecond := runWith_after_save hlinks htext hdebug (by simpa using hstdout)
    rw [← hdisk] at hsecond
    refine ⟨congrArg (·.1) hsecond, congrArg (·.2.1) hsecond, congrArg (·.2.2) hsecond, ?_⟩
    rw [hdisk, htext]
    exact generated?_of_save hlinks htext

/-! ## A save that fails halfway -/

def onePlayer : File.Disk where
  top := "/work"
  entries := [("player.gd", .file "class_name Player\n".toUTF8)]

section OnePlayer

open File

/-- The directory `new` is made before the file `player.gd` turns out to be in the way. -/
theorem makeDirectories_onePlayer :
    onePlayer.makeDirectories ["new", "..", "player.gd", "out"] =
      (onePlayer.put ["new"] (.directory []), some .alreadyExists) := by
  have hlong : ∀ name ∈ ["new", "player.gd", "out"], isTooLong name = false := by decide
  simp only [List.forall_mem_cons] at hlong
  simp [Disk.makeDirectories, Disk.makeDirectory, Disk.locateDirectory, Disk.locate, Disk.walk,
    Disk.entriesAt, Disk.parentSteps, Disk.put, Disk.isDirectory, putPath, putName, onePlayer,
    linkLimit, List.lookup_cons, List.lookup_nil, Trail.path, hlong, Except.isOk, Except.toBool]

theorem exitCode_onePlayer :
    (run { output := "new/../player.gd/out" } onePlayer).exitCode = 1 := by
  have hleads : onePlayer.LeadsTo "." [] := ⟨["."], linkLimit, by decide, .stay (Or.inl rfl) .done⟩
  have hsome : generated? Script.parse { output := "new/../player.gd/out" } onePlayer ≠ none :=
    fun hnone => generated?_eq_none_iff.mp hnone ⟨[], hleads⟩
  obtain ⟨text, htext⟩ := Option.ne_none_iff_exists'.mp hsome
  have hsteps : steps "new/../player.gd/out" = ["new", "..", "player.gd", "out"] := by decide
  have hmade := makeDirectories_onePlayer
  rw [← hsteps] at hmade
  refine exitCode_eq_one_iff.mpr ⟨rfl, rfl, text, htext, ?_⟩
  rw [Disk.save_eq_of_fault (by decide) (by decide) hmade]
  rfl

end OnePlayer

/-- Both for a save that fails and for one into a directory that is named like a script. -/
theorem regeneration_of_onePlayer :
    onePlayer.LinkFree ∧
    (run { output := "new/../player.gd/out" } onePlayer).exitCode = 1 ∧
    (run { output := "new/../player.gd/out" }
      (run { output := "new/../player.gd/out" } onePlayer).disk).exitCode = 1 ∧
    (run { output := "new/../player.gd/out" }
      (run { output := "new/../player.gd/out" } onePlayer).disk).disk =
        (run { output := "new/../player.gd/out" } onePlayer).disk ∧
    (run { output := "types.gd" } (run { output := "types.gd" } onePlayer).disk).disk =
      (run { output := "types.gd" } onePlayer).disk := by
  have hlinks : onePlayer.LinkFree := .file trivial _ .nil
  have hfails := exitCode_onePlayer
  obtain ⟨hcode, -, hdisk, -⟩ :=
    regeneration_is_stable Script.parse { output := "new/../player.gd/out" } onePlayer hlinks
  obtain ⟨-, -, hsaved, -⟩ :=
    regeneration_is_stable Script.parse { output := "types.gd" } onePlayer hlinks
  exact ⟨hlinks, hfails, hcode.trans hfails, hdisk, hsaved⟩

end ScriptTypings.Cli
