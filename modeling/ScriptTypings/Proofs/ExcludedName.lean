import ScriptTypings.Proofs.Discovery
import Mathlib.Data.List.DropRight

/-!
# What a pattern excludes

A pattern is written like a path, with slashes of either kind, and only its last step counts: it is
the name of the directories that are left out. Everything about the steps follows from one equation,
that a slash divides the steps before it from those behind it. A pattern without steps has the empty
name, which no directory has, so it leaves nothing out.
-/

namespace ScriptTypings.File

/-! ## Steps -/

/-- Slashes of either kind. -/
def isSlash (c : Char) : Bool :=
  c = '/' || c = '\\'

/-- The steps of a pattern: its pieces between slashes, without the empty ones. -/
def patternSteps (pattern : List Char) : List (List Char) :=
  (pattern.splitOnP isSlash).filter (· ≠ [])

section Steps

variable {cs front slashes : List Char}

/-- A slash divides the steps before it from those behind it. -/
theorem patternSteps_append_cons {c : Char} (h : isSlash c = true) (before behind : List Char) :
    patternSteps (before ++ c :: behind) = patternSteps before ++ patternSteps behind := by
  rw [patternSteps, List.splitOnP_append_cons before behind h, List.filter_append, patternSteps,
    patternSteps]

theorem patternSteps_of_no_slash (h : ∀ c ∈ cs, isSlash c = false) :
    patternSteps cs = if cs = [] then [] else [cs] := by
  rw [patternSteps, List.splitOnP_eq_singleton h]
  split <;> simp [*]

theorem patternSteps_of_slashes (h : ∀ c ∈ slashes, isSlash c = true) :
    patternSteps slashes = [] := by
  induction slashes with
  | nil => simp [patternSteps]
  | cons c rest ih =>
      obtain ⟨hc, hrest⟩ := List.forall_mem_cons.mp h
      have hsplit := patternSteps_append_cons hc [] rest
      rw [List.nil_append] at hsplit
      rw [hsplit, ih hrest]
      simp [patternSteps]

/-- Slashes at the end add no step. -/
theorem patternSteps_append_slashes (cs : List Char) (h : ∀ c ∈ slashes, isSlash c = true) :
    patternSteps (cs ++ slashes) = patternSteps cs := by
  cases slashes with
  | nil => rw [List.append_nil]
  | cons c rest =>
      obtain ⟨hc, hrest⟩ := List.forall_mem_cons.mp h
      rw [patternSteps_append_cons hc, patternSteps_of_slashes hrest, List.append_nil]

/-- Behind a slash the steps start anew. -/
theorem patternSteps_append (h : ∀ c, front.getLast? = some c → isSlash c = true)
    (cs : List Char) : patternSteps (front ++ cs) = patternSteps front ++ patternSteps cs := by
  obtain rfl | ⟨init, c, rfl⟩ := List.eq_nil_or_concat front
  · simp [patternSteps]
  · have hc : isSlash c = true := h c (by simp)
    have hinit : patternSteps (init ++ [c]) = patternSteps init :=
      patternSteps_append_slashes init (by simpa using hc)
    rw [List.concat_eq_append, hinit, List.append_assoc, List.singleton_append,
      patternSteps_append_cons hc]

end Steps

/-! ## The name of a pattern -/

/-- The name is found from the right: slashes are passed over, then the name is read up to the next
slash. -/
theorem toList_excludedName (pattern : String) :
    (excludedName pattern).toList =
      (pattern.toList.rdropWhile isSlash).rtakeWhile fun c => !isSlash c := by
  have hturned (c : Char) : (if c = '\\' then '/' else c) = '/' ↔ isSlash c = true := by
    by_cases hc : c = '\\' <;> simp [isSlash, hc]
  simp only [excludedName, String.toList_ofList, ← List.map_reverse, List.dropWhile_map,
    List.takeWhile_map, Function.comp_def, ne_eq, hturned, List.rtakeWhile, List.rdropWhile,
    List.reverse_reverse, Bool.decide_eq_true, decide_not]
  -- What was read has no slash of either kind, so turning backslashes left it alone.
  refine (List.map_congr_left fun c hc => ?_).trans (List.map_id _)
  have hother : isSlash c = false := by
    simpa using List.mem_takeWhile_imp (List.mem_reverse.mp hc)
  have hne : c ≠ '\\' := by
    rintro rfl
    exact absurd hother (by decide)
  rw [if_neg hne, id]

theorem not_isSlash_of_mem_excludedName {pattern : String} {c : Char}
    (h : c ∈ (excludedName pattern).toList) : isSlash c = false := by
  rw [toList_excludedName] at h
  simpa using List.mem_rtakeWhile_imp h

/-- The name of a pattern is its last step. -/
theorem patternSteps_cases (pattern : String) :
    (patternSteps pattern.toList = [] ∧ excludedName pattern = "") ∨
      ∃ above, patternSteps pattern.toList = above ++ [(excludedName pattern).toList] := by
  let trimmed := pattern.toList.rdropWhile isSlash
  let above := trimmed.rdropWhile fun c => !isSlash c
  have hname : (excludedName pattern).toList = trimmed.rtakeWhile fun c => !isSlash c :=
    toList_excludedName pattern
  have htrimmed : patternSteps pattern.toList = patternSteps trimmed := by
    rw [← List.rdropWhile_append_rtakeWhile (p := isSlash) (l := pattern.toList)]
    exact patternSteps_append_slashes _ fun c => List.mem_rtakeWhile_imp
  have hsplit : patternSteps trimmed =
      patternSteps above ++ patternSteps (excludedName pattern).toList := by
    rw [hname, ← patternSteps_append, List.rdropWhile_append_rtakeWhile]
    -- What stands in front of the name is empty or ends in the slash where reading stopped.
    intro c hc
    obtain ⟨hne, rfl⟩ := List.mem_getLast?_eq_getLast hc
    simpa using List.rdropWhile_last_not _ trimmed hne
  rw [htrimmed]
  by_cases hempty : excludedName pattern = ""
  · -- What is left without slashes at its end can only have an empty name if it is empty.
    have hnil : trimmed = [] := by
      by_contra hne
      rw [hempty, String.toList_empty, eq_comm, List.rtakeWhile_eq_nil_iff] at hname
      exact List.rdropWhile_last_not _ _ hne (by simpa using hname hne)
    rw [hnil]
    exact Or.inl ⟨patternSteps_of_slashes (by simp), hempty⟩
  · refine Or.inr ⟨patternSteps above, ?_⟩
    rw [hsplit, patternSteps_of_no_slash fun c => not_isSlash_of_mem_excludedName, if_neg]
    simpa using hempty

theorem excludedName_eq_getLastD (pattern : String) :
    excludedName pattern = String.ofList ((patternSteps pattern.toList).getLastD []) := by
  obtain ⟨hnone, hempty⟩ | ⟨above, hsteps⟩ := patternSteps_cases pattern
  · rw [hnone, hempty]
    rfl
  · rw [hsteps, List.getLastD_concat, String.ofList_toList]

theorem excludedName_excludedName (pattern : String) :
    excludedName (excludedName pattern) = excludedName pattern := by
  have hfree : ∀ c ∈ (excludedName pattern).toList, isSlash c = false :=
    fun _ => not_isSlash_of_mem_excludedName
  rw [excludedName_eq_getLastD (excludedName pattern), patternSteps_of_no_slash hfree]
  split
  · next hempty => exact (String.toList_eq_nil_iff.mp hempty).symm
  · simp

/-- The name of a pattern with a step depends neither on what stands in front of a slash before the
pattern nor on slashes behind it. -/
theorem excludedName_append_append {pattern front back : String}
    (hsteps : patternSteps pattern.toList ≠ [])
    (hfront : ∀ c, front.toList.getLast? = some c → isSlash c = true)
    (hback : ∀ c ∈ back.toList, isSlash c = true) :
    excludedName (front ++ pattern ++ back) = excludedName pattern := by
  rw [excludedName_eq_getLastD, String.toList_append, patternSteps_append_slashes _ hback,
    String.toList_append, patternSteps_append hfront, excludedName_eq_getLastD]
  simp only [List.getLastD_eq_getLast?, List.getLast?_append_of_ne_nil _ hsteps]

/-! ## Leaving directories out -/

/-- A pattern leaves out the directories of its name and no others. -/
theorem mem_discover_append_cons (before after : List String) (pattern : String)
    (entries : List (String × Tree)) (f : FoundFile) :
    f ∈ discover (before ++ pattern :: after) entries ↔
      f ∈ discover (before ++ after) entries ∧ excludedName pattern ∉ f.path.dropLast := by
  have hsplit (dirs : List String) :
      (∀ d ∈ dirs, ∀ p ∈ before ++ pattern :: after, d ≠ excludedName p) ↔
        (∀ d ∈ dirs, ∀ p ∈ before ++ after, d ≠ excludedName p) ∧
          excludedName pattern ∉ dirs := by
    simp only [List.forall_mem_append, List.forall_mem_cons]
    constructor
    · intro h
      exact ⟨fun d hd => ⟨(h d hd).1, (h d hd).2.2⟩, fun hmem => (h _ hmem).2.1 rfl⟩
    · rintro ⟨hothers, hpattern⟩ d hd
      exact ⟨(hothers d hd).1, ne_of_mem_of_not_mem hd hpattern, (hothers d hd).2⟩
  rw [mem_discover, mem_discover]
  constructor
  · rintro ⟨dirs, name, hpath, hholds, hname, hdirs⟩
    obtain ⟨hothers, hpattern⟩ := (hsplit dirs).mp hdirs
    refine ⟨⟨dirs, name, hpath, hholds, hname, hothers⟩, ?_⟩
    rwa [hpath, List.dropLast_concat]
  · rintro ⟨⟨dirs, name, hpath, hholds, hname, hothers⟩, hpattern⟩
    rw [hpath, List.dropLast_concat] at hpattern
    exact ⟨dirs, name, hpath, hholds, hname, (hsplit dirs).mpr ⟨hothers, hpattern⟩⟩

/-- A pattern without steps adds the empty name and no other. -/
theorem mem_map_excludedName_iff {pattern : String} (hsteps : patternSteps pattern.toList = [])
    (before after : List String) (name : String) (hname : name ≠ "") :
    name ∈ (before ++ pattern :: after).map excludedName ↔
      name ∈ (before ++ after).map excludedName := by
  have hempty : excludedName pattern = "" := by
    rw [excludedName_eq_getLastD, hsteps]
    rfl
  simp [hempty, hname]

/-- No directory lists an entry without a name. -/
def EntriesNamed : List (String × Tree) → Prop :=
  Everywhere fun entries => ∀ e ∈ entries, e.1 ≠ ""

theorem walkLog_eq_flatMap (excluded : List String) (directory : String)
    (entries : List (String × Tree)) :
    walkLog excluded directory entries = entries.flatMap (entryLog excluded directory) := by
  induction entries with
  | nil => simp [walkLog]
  | cons entry rest ih => simp [walkLog, ih]

namespace EntriesNamed

variable {entries : List (String × Tree)} {excluded excluded' : List String}

/-- Where all entries have names, it makes no difference to what is found whether the empty name is
excluded. -/
theorem scriptsIn_eq (h : EntriesNamed entries)
    (hsame : ∀ name, name ≠ "" → (name ∈ excluded ↔ name ∈ excluded')) (here : List String) :
    scriptsIn excluded here entries = scriptsIn excluded' here entries := by
  induction h generalizing here with
  | @intro entries named _ ih =>
      rw [scriptsIn_eq_flatMap, scriptsIn_eq_flatMap]
      apply List.flatMap_congr
      rintro ⟨name, t⟩ hmem
      cases t with
      | file contents => rw [scriptsOf, scriptsOf]
      | directory inner =>
          have hname : name ∈ excluded ↔ name ∈ excluded' := hsame name (named _ hmem)
          simp only [scriptsOf, List.contains_iff_mem, hname, ih name inner hmem]

/-- Nor does it to what is reported. -/
theorem walkLog_eq (h : EntriesNamed entries)
    (hsame : ∀ name, name ≠ "" → (name ∈ excluded ↔ name ∈ excluded')) (directory : String) :
    walkLog excluded directory entries = walkLog excluded' directory entries := by
  induction h generalizing directory with
  | @intro entries named _ ih =>
      rw [walkLog_eq_flatMap, walkLog_eq_flatMap]
      apply List.flatMap_congr
      rintro ⟨name, t⟩ hmem
      cases t with
      | file contents => rw [entryLog, entryLog]
      | directory inner =>
          have hname : name ∈ excluded ↔ name ∈ excluded' := hsame name (named _ hmem)
          simp only [entryLog, List.contains_iff_mem, hname, ih name inner hmem]

/-- A pattern without steps names no directory, so it can be left out. -/
theorem discover_eq (h : EntriesNamed entries) {pattern : String}
    (hsteps : patternSteps pattern.toList = []) (before after : List String) :
    discover (before ++ pattern :: after) entries = discover (before ++ after) entries := by
  rw [discover, h.scriptsIn_eq (mem_map_excludedName_iff hsteps before after), discover]

/-- The first line of the report shows the names; behind it nothing changes. -/
theorem tail_discoveryLog_eq (h : EntriesNamed entries) {pattern : String}
    (hsteps : patternSteps pattern.toList = []) (before after : List String) (root : String) :
    (discoveryLog root (before ++ pattern :: after) entries).tail =
      (discoveryLog root (before ++ after) entries).tail := by
  have hsame : ∀ name, name ≠ "" →
      (name ∈ ((before ++ pattern :: after).map excludedName).eraseDups ↔
        name ∈ ((before ++ after).map excludedName).eraseDups) := by
    simpa only [List.mem_eraseDups] using mem_map_excludedName_iff hsteps before after
  rw [discoveryLog, discoveryLog, List.tail_cons, List.tail_cons, h.walkLog_eq hsame]

end EntriesNamed

/-- A pattern reduces to one name of directories. The name is the last of the pieces between slashes
of either kind that are not empty, or the empty text if there is none. It has no slash itself, so it
is its own name. A pattern with such a piece keeps its name when anything that ends in a slash is
put in front of it, and any number of slashes behind it. Adding a pattern leaves out the directories
of its name and no others; without such a piece it leaves out none, and the walk is reported as
before. -/
theorem patterns_reduce_to_one_name (pattern : String) :
    let name := excludedName pattern
    name = String.ofList ((patternSteps pattern.toList).getLastD []) ∧
    ('/' ∉ name.toList ∧ '\\' ∉ name.toList) ∧
    excludedName name = name ∧
    (patternSteps pattern.toList ≠ [] → ∀ front back : String,
      (∀ c, front.toList.getLast? = some c → isSlash c = true) →
      (∀ c ∈ back.toList, isSlash c = true) →
      excludedName (front ++ pattern ++ back) = name) ∧
    (∀ before after entries (f : FoundFile),
      f ∈ discover (before ++ pattern :: after) entries ↔
        f ∈ discover (before ++ after) entries ∧ name ∉ f.path.dropLast) ∧
    (patternSteps pattern.toList = [] → ∀ before after entries, EntriesNamed entries →
      discover (before ++ pattern :: after) entries = discover (before ++ after) entries ∧
      ∀ root, (discoveryLog root (before ++ pattern :: after) entries).tail =
        (discoveryLog root (before ++ after) entries).tail) := by
  intro name
  have hslash (c : Char) (hc : isSlash c = true) : c ∉ name.toList := by
    intro hmem
    rw [not_isSlash_of_mem_excludedName hmem] at hc
    contradiction
  refine ⟨excludedName_eq_getLastD pattern, ⟨hslash _ rfl, hslash _ rfl⟩,
    excludedName_excludedName pattern, ?_, ?_, ?_⟩
  · intro hsteps front back
    exact excludedName_append_append hsteps
  · intro before after entries f
    exact mem_discover_append_cons before after pattern entries f
  · intro hsteps before after entries hnamed
    exact ⟨hnamed.discover_eq hsteps before after, hnamed.tail_discoveryLog_eq hsteps before after⟩

/-- A directory with a script in it. -/
def addonListing : List (String × Tree) :=
  [("addons", .directory [("plugin.gd", .file .empty)])]

theorem addonListing_entriesNamed : EntriesNamed addonListing := by
  refine .intro (by decide) ?_
  rintro name inner hmem
  obtain ⟨-, rfl⟩ : name = "addons" ∧ inner = [("plugin.gd", .file .empty)] := by
    simpa [addonListing] using hmem
  exact .intro (by decide) (by simp)

/-- Slashes of both kinds around a name, and nothing but slashes. -/
theorem reduced_names_of_mixed_slashes :
    patternSteps "lib\\addons//".toList ≠ [] ∧
    excludedName "lib\\addons//" = "addons" ∧
    excludedName ("**/" ++ "lib\\addons//" ++ "\\/") = "addons" ∧
    ⟨["addons", "plugin.gd"], .empty⟩ ∉ discover ["lib\\addons//"] addonListing ∧
    patternSteps "\\//".toList = [] ∧
    EntriesNamed addonListing ∧
    ⟨["addons", "plugin.gd"], .empty⟩ ∈ discover ["\\//"] addonListing := by
  have hsteps : patternSteps "lib\\addons//".toList ≠ [] := by decide
  have hnone : patternSteps "\\//".toList = [] := by decide
  have hnamed := addonListing_entriesNamed
  obtain ⟨hname, -, -, hkept, hexact, -⟩ := patterns_reduce_to_one_name "lib\\addons//"
  obtain ⟨-, -, -, -, -, hnothing⟩ := patterns_reduce_to_one_name "\\//"
  have hname : excludedName "lib\\addons//" = "addons" := hname.trans (by decide)
  refine ⟨hsteps, hname, ?_, ?_, hnone, hnamed, ?_⟩
  · exact (hkept hsteps "**/" "\\/" (by simp [isSlash]) (by simp [isSlash])).trans hname
  · intro hfound
    obtain ⟨-, hallowed⟩ := (hexact [] [] addonListing _).mp hfound
    rw [hname] at hallowed
    exact hallowed (by simp)
  · obtain ⟨hsame, -⟩ := hnothing hnone [] [] addonListing hnamed
    rw [List.nil_append] at hsame
    rw [hsame, mem_discover]
    have hholds : Holds addonListing ["addons", "plugin.gd"] (.file .empty) :=
      .inside (.head _) (.entry (.head _))
    exact ⟨["addons"], "plugin.gd", rfl, hholds,
      ⟨"plugin".toList, 'g', 'd', rfl, by simp, by simp⟩, by simp⟩

end ScriptTypings.File
