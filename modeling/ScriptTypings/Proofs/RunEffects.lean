import ScriptTypings.Cli.Run
import ScriptTypings.Proofs.SavedFile

/-!
# What a run does

A run ends in one of four ways. Its input is no directory, it shows the records of a class, it
prints the generated text, or it saves that text. The exit code tells the first from the others, and
a save that failed from one that did not. Only a save touches the disk, only printing fills the
standard output, and both give the same text. All this holds for any reader of scripts.
-/

namespace ScriptTypings.Cli

/-- The text that is generated from the input; `none` if the input is no directory. -/
def generated? (read : Reader) (args : Arguments) (disk : File.Disk) : Option String :=
  (openProject disk args.input).toOption.map fun project =>
    generate (project.scanWith read args.excludePatterns).scriptClasses

/-- What a run leaves behind besides its notices. -/
def Outcome.effects (o : Outcome) : Nat × String × File.Disk :=
  (o.exitCode, o.stdout, o.disk)

section Effects

variable {read : Reader} {args : Arguments} {disk : File.Disk} {text : String}

theorem generated?_eq_none_iff :
    generated? read args disk = none ↔ ¬ ∃ trail, disk.LeadsTo args.input trail := by
  have hdirectory := @File.Disk.directory?_eq_some_iff disk args.input
  cases hfound : disk.directory? args.input with
  | none => simp_all [generated?, openProject, Except.toOption]
  | some found =>
      obtain ⟨trail, hleads, -⟩ := hdirectory.mp hfound
      simp only [generated?, openProject, hfound, Except.toOption, Option.map_some, reduceCtorEq,
        false_iff, not_not]
      exact ⟨trail, hleads⟩

/-- What a task does to a disk whose files are saved in the given directory. -/
def Task.effects (output : String) (disk : File.Disk) : Task → Nat × String × File.Disk
  | .stop exitCode => (exitCode, "", disk)
  | .print text => (0, text, disk)
  | .save text =>
      (if (disk.save output outputFileName text).2.isOk then 0 else 1, "",
        (disk.save output outputFileName text).1)

theorem runWith_effects (read : Reader) (args : Arguments) (disk : File.Disk) :
    (runWith read args disk).effects =
      (planWith read args (openProject disk args.input)).task.effects args.output disk := by
  rw [runWith]
  cases (planWith read args (openProject disk args.input)).task with
  | stop exitCode => rfl
  | print text => rfl
  | save text =>
      rw [Task.effects]
      dsimp only
      rcases disk.save args.output outputFileName text with ⟨written, _ | path⟩
      · rfl
      · rfl

theorem task_of_no_directory (h : generated? read args disk = none) :
    (planWith read args (openProject disk args.input)).task = .stop 2 := by
  cases hopen : openProject disk args.input with
  | error path => rfl
  | ok project => simp [generated?, hopen, Except.toOption] at h

/-- The scan decides the text alone; the arguments decide what is done with it. -/
theorem task_of_generated (h : generated? read args disk = some text) :
    (planWith read args (openProject disk args.input)).task =
      if args.debugClass ≠ none then .stop 0
      else if args.stdout then .print text
      else .save text := by
  cases hopen : openProject disk args.input with
  | error path => simp [generated?, hopen, Except.toOption] at h
  | ok project =>
      simp only [generated?, hopen, Except.toOption, Option.map_some, Option.some.injEq] at h
      cases hdebug : args.debugClass <;> simp [planWith, hdebug, h]

theorem effects_of_no_directory (h : generated? read args disk = none) :
    (runWith read args disk).effects = (2, "", disk) := by
  rw [runWith_effects, task_of_no_directory h, Task.effects]

theorem effects_of_debugClass (h : generated? read args disk = some text)
    (hdebug : args.debugClass ≠ none) : (runWith read args disk).effects = (0, "", disk) := by
  rw [runWith_effects, task_of_generated h, if_pos hdebug, Task.effects]

theorem effects_of_stdout (h : generated? read args disk = some text)
    (hdebug : args.debugClass = none) (hstdout : args.stdout = true) :
    (runWith read args disk).effects = (0, text, disk) := by
  rw [runWith_effects, task_of_generated h, if_neg (not_not.mpr hdebug), if_pos hstdout,
    Task.effects]

theorem effects_of_save (h : generated? read args disk = some text)
    (hdebug : args.debugClass = none) (hstdout : args.stdout = false) :
    (runWith read args disk).effects =
      (if (disk.save args.output outputFileName text).2.isOk then 0 else 1, "",
        (disk.save args.output outputFileName text).1) := by
  rw [runWith_effects, task_of_generated h, if_neg (not_not.mpr hdebug), if_neg (by simp [hstdout]),
    Task.effects]

/-- The four ways in which a run ends. -/
theorem runWith_cases (read : Reader) (args : Arguments) (disk : File.Disk) :
    (generated? read args disk = none ∧ (runWith read args disk).effects = (2, "", disk)) ∨
    ∃ text, generated? read args disk = some text ∧
      ((args.debugClass ≠ none ∧ (runWith read args disk).effects = (0, "", disk)) ∨
        args.debugClass = none ∧
          ((args.stdout = true ∧ (runWith read args disk).effects = (0, text, disk)) ∨
            (args.stdout = false ∧ (runWith read args disk).effects =
              (if (disk.save args.output outputFileName text).2.isOk then 0 else 1, "",
                (disk.save args.output outputFileName text).1)))) := by
  cases h : generated? read args disk with
  | none => exact Or.inl ⟨rfl, effects_of_no_directory h⟩
  | some text =>
      refine Or.inr ⟨text, rfl, ?_⟩
      by_cases hdebug : args.debugClass = none
      · refine Or.inr ⟨hdebug, ?_⟩
        cases hstdout : args.stdout with
        | true => exact Or.inl ⟨rfl, effects_of_stdout h hdebug hstdout⟩
        | false => exact Or.inr ⟨rfl, effects_of_save h hdebug hstdout⟩
      · exact Or.inl ⟨hdebug, effects_of_debugClass h hdebug⟩

theorem exitCode_eq_two_iff :
    (runWith read args disk).exitCode = 2 ↔ generated? read args disk = none := by
  change (runWith read args disk).effects.1 = 2 ↔ _
  obtain ⟨h, heffects⟩ | ⟨text, h, ⟨-, heffects⟩ | ⟨-, ⟨-, heffects⟩ | ⟨-, heffects⟩⟩⟩ :=
    runWith_cases read args disk
  · simp [h, heffects]
  · simp [h, heffects]
  · simp [h, heffects]
  · rw [heffects, h]
    split <;> simp

theorem exitCode_eq_one_iff :
    (runWith read args disk).exitCode = 1 ↔
      args.debugClass = none ∧ args.stdout = false ∧ ∃ text, generated? read args disk = some text ∧
        (disk.save args.output outputFileName text).2.isOk = false := by
  change (runWith read args disk).effects.1 = 1 ↔ _
  obtain ⟨h, heffects⟩ | ⟨text, h, ⟨hdebug, heffects⟩ | ⟨hdebug, ⟨hstdout, heffects⟩ |
    ⟨hstdout, heffects⟩⟩⟩ := runWith_cases read args disk
  · simp [h, heffects]
  · simp [hdebug, heffects]
  · simp [hstdout, heffects]
  · simp [h, hdebug, hstdout, heffects]

theorem exitCode_lt_three (read : Reader) (args : Arguments) (disk : File.Disk) :
    (runWith read args disk).exitCode < 3 := by
  change (runWith read args disk).effects.1 < 3
  obtain ⟨-, heffects⟩ | ⟨text, -, ⟨-, heffects⟩ | ⟨-, ⟨-, heffects⟩ | ⟨-, heffects⟩⟩⟩ :=
    runWith_cases read args disk
  · simp [heffects]
  · simp [heffects]
  · simp [heffects]
  · rw [heffects]
    dsimp only
    split <;> decide

theorem disk_of_no_save
    (h : generated? read args disk = none ∨ args.debugClass ≠ none ∨ args.stdout = true) :
    (runWith read args disk).disk = disk := by
  change (runWith read args disk).effects.2.2 = disk
  obtain ⟨-, heffects⟩ | ⟨text, hsome, ⟨-, heffects⟩ | ⟨hdebug, ⟨-, heffects⟩ |
    ⟨hstdout, heffects⟩⟩⟩ := runWith_cases read args disk
  · rw [heffects]
  · rw [heffects]
  · rw [heffects]
  · simp [hsome, hdebug, hstdout] at h

theorem of_stdout_ne_empty (h : (runWith read args disk).stdout ≠ "") :
    args.stdout = true ∧ args.debugClass = none ∧ generated? read args disk ≠ none := by
  change (runWith read args disk).effects.2.1 ≠ "" at h
  obtain ⟨-, heffects⟩ | ⟨text, hsome, ⟨-, heffects⟩ | ⟨hdebug, ⟨hstdout, -⟩ |
    ⟨-, heffects⟩⟩⟩ := runWith_cases read args disk
  · simp [heffects] at h
  · simp [heffects] at h
  · exact ⟨hstdout, hdebug, by simp [hsome]⟩
  · simp [heffects] at h

/-- Where a class is shown, it does not matter whether printing is asked for. -/
theorem runWith_of_debugClass (hdebug : args.debugClass ≠ none) (flag : Bool) :
    runWith read { args with stdout := flag } disk = runWith read args disk := by
  obtain ⟨name, hname⟩ := Option.ne_none_iff_exists'.mp hdebug
  cases hopen : openProject disk args.input <;>
    simp [runWith, planWith, hopen, hname, Arguments.excludePatterns]

/-- What is saved is what is printed. -/
theorem fileIn?_eq_stdout (hdebug : args.debugClass = none) (hstdout : args.stdout = true)
    (h : (runWith read { args with stdout := false } disk).exitCode = 0) :
    (runWith read { args with stdout := false } disk).disk.fileIn? args.output outputFileName =
      some (runWith read args disk).stdout.toUTF8 := by
  have hsame : generated? read { args with stdout := false } disk = generated? read args disk := rfl
  cases hsome : generated? read args disk with
  | none =>
      have htwo := exitCode_eq_two_iff.mpr (hsame.trans hsome)
      omega
  | some text =>
      have hprinted := effects_of_stdout hsome hdebug hstdout
      have hsaved := effects_of_save (hsame.trans hsome) hdebug rfl
      simp only [Outcome.effects, Prod.mk.injEq] at hprinted hsaved
      have hok : (disk.save args.output outputFileName text).2.isOk = true := by
        by_contra hnot
        rw [hsaved.1, if_neg hnot] at h
        cases h
      rw [hsaved.2.2, hprinted.2.1]
      exact File.Disk.fileIn?_of_save hok

end Effects

/-- The exit code is 2 if the input leads to no directory, 1 if a save was asked for and failed, and
else 0, whatever the scan met and whatever reads the scripts. The disk changes only in a save, and
the standard output is filled only by printing, which gives what a save would write. -/
theorem exit_codes_and_effects (read : Reader) (args : Arguments) (disk : File.Disk) :
    ((runWith read args disk).exitCode = 2 ↔ ¬ ∃ trail, disk.LeadsTo args.input trail) ∧
    ((runWith read args disk).exitCode = 1 ↔
      args.debugClass = none ∧ args.stdout = false ∧ ∃ text, generated? read args disk = some text ∧
        (disk.save args.output outputFileName text).2.isOk = false) ∧
    (runWith read args disk).exitCode < 3 ∧
    ((runWith read args disk).exitCode = 2 ∨ args.debugClass ≠ none ∨ args.stdout = true →
      (runWith read args disk).disk = disk) ∧
    ((runWith read args disk).stdout ≠ "" →
      args.stdout = true ∧ args.debugClass = none ∧ ∃ trail, disk.LeadsTo args.input trail) ∧
    (args.debugClass ≠ none →
      ∀ flag, runWith read { args with stdout := flag } disk = runWith read args disk) ∧
    (args.debugClass = none → args.stdout = true →
      (runWith read { args with stdout := false } disk).exitCode = 0 →
      (runWith read { args with stdout := false } disk).disk.fileIn? args.output outputFileName =
        some (runWith read args disk).stdout.toUTF8) := by
  have hnone := @generated?_eq_none_iff read args disk
  refine ⟨exitCode_eq_two_iff.trans hnone, exitCode_eq_one_iff, exitCode_lt_three read args disk,
    ?_, ?_, runWith_of_debugClass, fileIn?_eq_stdout⟩
  · intro h
    rw [exitCode_eq_two_iff] at h
    exact disk_of_no_save h
  · intro h
    obtain ⟨hstdout, hdebug, hsome⟩ := of_stdout_ne_empty h
    exact ⟨hstdout, hdebug, by_contra fun hnot => hsome (hnone.mpr hnot)⟩

/-! ## A save through a link -/

/-- A project whose output directory is a link and lies below its input. -/
def linkedOutput : File.Disk where
  top := "/work"
  entries := [
    ("player.gd", .file "class_name Player\n".toUTF8),
    ("types", .link "build/out"),
    ("build", .directory [("out", .directory [])])]

section LinkedOutput

open File

theorem linkStart?_buildOut (d : Disk) (trail : Trail) :
    d.linkStart? trail "build/out" = some (trail, ["build", "out"]) :=
  Disk.linkStart?_eq_some_iff.mpr (Or.inr ⟨by decide, rfl, by decide⟩)

theorem makeDirectories_linkedOutput :
    linkedOutput.makeDirectories ["types", "new"] =
      (linkedOutput.put ["build", "out", "new"] (.directory []), none) := by
  have hlong : ∀ name ∈ ["types", "build", "out", "new"], isTooLong name = false := by decide
  simp only [List.forall_mem_cons] at hlong
  simp [Disk.makeDirectories, Disk.makeDirectory, Disk.locateDirectory, Disk.locate, Disk.walk,
    Disk.entriesAt, linkedOutput, linkLimit, linkStart?_buildOut, hlong, List.lookup_cons,
    List.lookup_nil, Trail.path]

theorem save_linkedOutput (text : String) :
    (linkedOutput.save "types/new" outputFileName text).2.isOk = true := by
  have hsteps : steps "types/new" = ["types", "new"] := by decide
  have hlong : ∀ name ∈ ["types", "build", "out", "new", "generated.ts"],
      isTooLong name = false := by decide
  obtain ⟨written, hwritten⟩ : ∃ written,
      (linkedOutput.put ["build", "out", "new"] (.directory [])).writeFile
        (steps "types/new" ++ [outputFileName]) text.toUTF8 = .ok written := by
    simp only [List.forall_mem_cons] at hlong
    simp [hsteps, Disk.writeFile, Disk.put, putPath, putName, Disk.locate, Disk.walk,
      Disk.entriesAt, linkedOutput, linkLimit, linkStart?_buildOut, hlong, List.lookup_cons,
      List.lookup_nil, outputFileName]
  have hmade := makeDirectories_linkedOutput
  rw [← hsteps] at hmade
  rw [Disk.save_eq_of_written (by decide) (by decide) hmade (by decide) hwritten]
  rfl

end LinkedOutput

theorem effects_of_linkedOutput :
    (run { output := "types/new" } linkedOutput).exitCode = 0 ∧
    (run { output := "types/new" } linkedOutput).disk.fileIn? "types/new" outputFileName =
      some (run { output := "types/new", stdout := true } linkedOutput).stdout.toUTF8 := by
  obtain ⟨htwo, hone, hlt, -⟩ :=
    exit_codes_and_effects Script.parse { output := "types/new" } linkedOutput
  obtain ⟨-, -, -, -, -, -, hsame⟩ :=
    exit_codes_and_effects Script.parse { output := "types/new", stdout := true } linkedOutput
  have hleads : linkedOutput.LeadsTo "." [] :=
    ⟨["."], File.linkLimit, by decide, .stay (Or.inl rfl) .done⟩
  have hzero : (runWith Script.parse { output := "types/new" } linkedOutput).exitCode = 0 := by
    have hnotTwo := mt htwo.mp (not_not.mpr ⟨[], hleads⟩)
    have hnotOne :
        (runWith Script.parse { output := "types/new" } linkedOutput).exitCode ≠ 1 := by
      intro h
      obtain ⟨-, -, text, -, hfails⟩ := hone.mp h
      simp [save_linkedOutput] at hfails
    omega
  exact ⟨hzero, hsame rfl rfl hzero⟩

end ScriptTypings.Cli
