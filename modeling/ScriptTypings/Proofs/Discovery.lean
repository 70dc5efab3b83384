import ScriptTypings.File.Discovery
import ScriptTypings.Proofs.FileTree

/-!
# Discovery is exact

Discovery walks a tree in the order in which directories are listed, leaves excluded directories
out and sorts what it found. Here its result is stated on the tree alone: the files that a path of
directories with allowed names leads to and whose name is that of a script, each once, in the order
of the paths. So neither the listing order nor the order of the patterns matters.
-/

namespace ScriptTypings.File

/-! ## The order of paths -/

/-- The test of the sort is the lexicographic order of the steps. -/
theorem pathLe_iff (a b : List String) : pathLe a b = true ↔ a = b ∨ a < b := by
  fun_induction pathLe a b with
  | case1 b => cases b <;> simp
  | case2 a restA => simp
  | case3 a restA restB ih => simp [ih]
  | case4 a restA b restB hne =>
      simp only [decide_eq_true_eq, List.cons.injEq, hne, false_and, false_or,
        List.cons_lt_cons_iff, or_false]
      exact ⟨fun h => Std.lt_of_le_of_ne h hne, Std.le_of_lt⟩

theorem pathLe_trans (a b c : List String) (hab : pathLe a b = true) (hbc : pathLe b c = true) :
    pathLe a c = true := by
  rw [pathLe_iff] at hab hbc ⊢
  rcases hab with rfl | hab
  · exact hbc
  · rcases hbc with rfl | hbc
    · exact Or.inr hab
    · exact Or.inr (List.lt_trans hab hbc)

theorem pathLe_total (a b : List String) : (pathLe a b || pathLe b a) = true := by
  rw [Bool.or_eq_true, pathLe_iff, pathLe_iff]
  by_cases hab : a < b
  · exact Or.inl (Or.inr hab)
  · by_cases hba : b < a
    · exact Or.inr (Or.inr hba)
    · exact Or.inl (Or.inl (Std.Trichotomous.trichotomous a b hab hba))

/-- Lists that are strictly ordered by path and have the same files are equal. -/
theorem eq_of_ordered_of_mem_iff {xs ys : List FoundFile}
    (hx : xs.Pairwise fun f g => f.path < g.path) (hy : ys.Pairwise fun f g => f.path < g.path)
    (h : ∀ f, f ∈ xs ↔ f ∈ ys) : xs = ys := by
  have hne : ∀ f g : FoundFile, f.path < g.path → f ≠ g := by
    rintro f _ hlt rfl
    exact List.lt_irrefl f.path hlt
  have hperm : xs.Perm ys :=
    (List.perm_ext_iff_of_nodup (hx.imp (hne _ _)) (hy.imp (hne _ _))).mpr h
  apply List.Perm.eq_of_pairwise _ hx hy hperm
  intro f g _ _ hfg hgf
  exact absurd hgf (List.lt_asymm hfg)

/-! ## What is listed -/

theorem toNat_toLower (c : Char) :
    c.toLower.toNat = if 65 ≤ c.toNat ∧ c.toNat ≤ 90 then c.toNat + 32 else c.toNat := by
  unfold Char.toLower
  by_cases h : c.val ≥ 'A'.val ∧ c.val ≤ 'Z'.val
  · have hcode : 65 ≤ c.toNat ∧ c.toNat ≤ 90 := h
    have hlt : c.toNat + 32 < 4294967296 := by omega
    rw [dif_pos h, if_pos hcode]
    change (c.val + 32).toNat = _
    rw [UInt32.toNat_add]
    exact Nat.mod_eq_of_lt hlt
  · have hcode : ¬ (65 ≤ c.toNat ∧ c.toNat ≤ 90) := h
    rw [dif_neg h, if_neg hcode]

/-- Names that end in `.gd`, with each letter in either case. -/
def HasScriptExtension (name : String) : Prop :=
  ∃ stem g d, name.toList = stem ++ ['.', g, d] ∧ (g = 'g' ∨ g = 'G') ∧ (d = 'd' ∨ d = 'D')

theorem toLower_extension_iff (dot g d : Char) :
    [dot, g, d].map Char.toLower = ['.', 'g', 'd'] ↔
      dot = '.' ∧ (g = 'g' ∨ g = 'G') ∧ (d = 'd' ∨ d = 'D') := by
  simp only [List.map_cons, List.map_nil, List.cons.injEq, and_true, ← Char.toNat_inj,
    toNat_toLower, Char.reduceToNat]
  split <;> split <;> split <;> omega

theorem isScriptName_iff (name : String) : isScriptName name = true ↔ HasScriptExtension name := by
  rw [isScriptName, List.isSuffixOf_iff_suffix]
  constructor
  · rintro ⟨front, h⟩
    obtain ⟨stem, extension, hname, -, hextension⟩ := List.map_eq_append_iff.mp h.symm
    have hlength : extension.length = 3 := by simpa using congrArg List.length hextension
    obtain ⟨dot, g, d, rfl⟩ := List.length_eq_three.mp hlength
    obtain ⟨rfl, hg, hd⟩ := (toLower_extension_iff dot g d).mp hextension
    exact ⟨stem, g, d, hname, hg, hd⟩
  · rintro ⟨stem, g, d, hname, hg, hd⟩
    refine ⟨stem.map Char.toLower, ?_⟩
    rw [hname, List.map_append, (toLower_extension_iff '.' g d).mpr ⟨rfl, hg, hd⟩]
    rfl

theorem scriptsIn_eq_flatMap (excluded here : List String) (entries : List (String × Tree)) :
    scriptsIn excluded here entries = entries.flatMap (scriptsOf excluded here) := by
  induction entries with
  | nil => simp [scriptsIn]
  | cons entry rest ih => simp [scriptsIn, ih]

theorem mem_scriptsOf_file {excluded here : List String} {name : String} {contents : ByteArray}
    {f : FoundFile} :
    f ∈ scriptsOf excluded here (name, .file contents) ↔
      HasScriptExtension name ∧ f = ⟨here ++ [name], contents⟩ := by
  simp [scriptsOf, isScriptName_iff]

theorem mem_scriptsOf_directory {excluded here : List String} {name : String}
    {inner : List (String × Tree)} {f : FoundFile} :
    f ∈ scriptsOf excluded here (name, .directory inner) ↔
      name ∉ excluded ∧ f ∈ scriptsIn excluded (here ++ [name]) inner := by
  simp [scriptsOf]

/-- The scripts below a directory are the files with a script's name that a path of directories
leads to, none of them excluded. -/
theorem mem_scriptsIn (excluded here : List String) (entries : List (String × Tree))
    (f : FoundFile) :
    f ∈ scriptsIn excluded here entries ↔
      ∃ dirs name, f.path = here ++ (dirs ++ [name]) ∧
        Holds entries (dirs ++ [name]) (.file f.contents) ∧ HasScriptExtension name ∧
        ∀ d ∈ dirs, d ∉ excluded := by
  -- Each step down moves one name from the path below to the path above.
  induction entries using directory_induction generalizing here with
  | step entries ih =>
      rw [scriptsIn_eq_flatMap, List.mem_flatMap]
      constructor
      · rintro ⟨⟨name, t⟩, hmem, hf⟩
        cases t with
        | file contents =>
            obtain ⟨hname, rfl⟩ := mem_scriptsOf_file.mp hf
            exact ⟨[], name, rfl, .entry hmem, hname, by simp⟩
        | directory inner =>
            obtain ⟨hallowed, hf⟩ := mem_scriptsOf_directory.mp hf
            obtain ⟨dirs, last, hpath, hholds, hlast, hdirs⟩ := (ih name inner hmem _).mp hf
            refine ⟨name :: dirs, last, by simp [hpath], .inside hmem hholds, hlast, ?_⟩
            exact List.forall_mem_cons.mpr ⟨hallowed, hdirs⟩
      · rintro ⟨dirs, name, hpath, hholds, hname, hdirs⟩
        cases dirs with
        | nil =>
            obtain ⟨path, contents⟩ := f
            subst hpath
            exact ⟨_, holds_singleton.mp hholds, mem_scriptsOf_file.mpr ⟨hname, rfl⟩⟩
        | cons d dirs =>
            obtain ⟨inner, hmem, hholds⟩ := (holds_cons (by simp)).mp hholds
            obtain ⟨hallowed, hdirs⟩ := List.forall_mem_cons.mp hdirs
            refine ⟨_, hmem, mem_scriptsOf_directory.mpr ⟨hallowed, ?_⟩⟩
            exact (ih d inner hmem _).mpr ⟨dirs, name, by simp [hpath], hholds, hname, hdirs⟩

/-- The path of a script starts with the name of the entry it was found under. -/
theorem path_of_mem_scriptsOf {excluded here : List String} {entry : String × Tree} {f : FoundFile}
    (hf : f ∈ scriptsOf excluded here entry) : here ++ [entry.1] <+: f.path := by
  obtain ⟨name, t⟩ := entry
  cases t with
  | file contents =>
      obtain ⟨-, rfl⟩ := mem_scriptsOf_file.mp hf
      exact List.prefix_rfl
  | directory inner =>
      obtain ⟨-, hf⟩ := mem_scriptsOf_directory.mp hf
      obtain ⟨dirs, last, hpath, -⟩ := (mem_scriptsIn _ _ _ _).mp hf
      exact ⟨dirs ++ [last], hpath.symm⟩

/-- No path is found twice. -/
theorem scriptsIn_path_ne {entries : List (String × Tree)} (h : NamesDistinct entries)
    (excluded here : List String) :
    (scriptsIn excluded here entries).Pairwise fun f g => f.path ≠ g.path := by
  induction h generalizing here with
  | @intro entries names _ ih =>
      rw [scriptsIn_eq_flatMap, List.pairwise_flatMap]
      constructor
      · rintro ⟨name, t⟩ hmem
        cases t with
        | file contents =>
            rw [scriptsOf]
            split <;> simp
        | directory inner =>
            rw [scriptsOf]
            split
            · simp
            · exact ih name inner hmem _
      · -- Below different entries, paths differ in the name of the entry already.
        apply (List.pairwise_map.mp names).imp
        intro a b hne f hf g hg heq
        have hprefix := List.prefix_of_prefix_length_le (path_of_mem_scriptsOf hf)
          (heq ▸ path_of_mem_scriptsOf hg) (by simp)
        apply hne
        simpa using hprefix.eq_of_length (by simp)

theorem mem_discover (patterns : List String) (entries : List (String × Tree)) (f : FoundFile) :
    f ∈ discover patterns entries ↔
      ∃ dirs name, f.path = dirs ++ [name] ∧ Holds entries (dirs ++ [name]) (.file f.contents) ∧
        HasScriptExtension name ∧ ∀ d ∈ dirs, ∀ p ∈ patterns, d ≠ excludedName p := by
  rw [discover, List.mem_mergeSort, mem_scriptsIn]
  simp [eq_comm]

/-- Where no path is found twice, the files are strictly ordered by path. -/
theorem discover_ordered_of_path_ne {patterns : List String} {entries : List (String × Tree)}
    (h : (scriptsIn (patterns.map excludedName) [] entries).Pairwise fun f g => f.path ≠ g.path) :
    (discover patterns entries).Pairwise fun f g => f.path < g.path := by
  have hsorted : (discover patterns entries).Pairwise fun f g => pathLe f.path g.path = true :=
    List.pairwise_mergeSort (fun f g h => pathLe_trans f.path g.path h.path)
      (fun f g => pathLe_total f.path g.path) _
  have hne : (discover patterns entries).Pairwise fun f g => f.path ≠ g.path :=
    (List.mergeSort_perm _ _).symm.pairwise h fun h => h.symm
  apply (hsorted.and hne).imp
  rintro f g ⟨hle, hne⟩
  exact ((pathLe_iff _ _).mp hle).resolve_left hne

theorem discover_ordered {entries : List (String × Tree)} (h : NamesDistinct entries)
    (patterns : List String) :
    (discover patterns entries).Pairwise fun f g => f.path < g.path :=
  discover_ordered_of_path_ne (scriptsIn_path_ne h _ _)

theorem discover_path_ne {entries : List (String × Tree)} (h : NamesDistinct entries)
    (patterns : List String) :
    (discover patterns entries).Pairwise fun f g => f.path ≠ g.path := by
  apply (discover_ordered h patterns).imp
  intro f g hlt heq
  exact List.lt_irrefl g.path (heq ▸ hlt)

/-! ## What does not matter -/

/-- Another listing order finds the same scripts in another order. -/
theorem Relisted.scriptsIn_perm {xs ys : List (String × Tree)} (h : Relisted xs ys)
    (excluded here : List String) :
    (scriptsIn excluded here xs).Perm (scriptsIn excluded here ys) := by
  induction h generalizing here with
  | nil => exact .refl _
  | file name contents _ ih =>
      rw [scriptsIn, scriptsIn]
      exact (ih here).append_left _
  | directory name _ _ ihInner ihRest =>
      rw [scriptsIn, scriptsIn, scriptsOf, scriptsOf]
      split
      · exact (ihRest here).append_left _
      · exact (ihInner _).append (ihRest here)
  | swap a b xs =>
      simp only [scriptsIn]
      exact List.perm_append_comm_assoc _ _ _
  | trans _ _ ihFirst ihSecond => exact (ihFirst here).trans (ihSecond here)

theorem discover_eq_of_relisted {xs ys : List (String × Tree)} (hx : NamesDistinct xs)
    (h : Relisted xs ys) (patterns : List String) :
    discover patterns xs = discover patterns ys := by
  have hperm := h.scriptsIn_perm (patterns.map excludedName) []
  have hne := scriptsIn_path_ne hx (patterns.map excludedName) []
  apply eq_of_ordered_of_mem_iff (discover_ordered_of_path_ne hne)
  · exact discover_ordered_of_path_ne (hperm.pairwise hne fun h => h.symm)
  · intro f
    rw [discover, discover, List.mem_mergeSort, List.mem_mergeSort]
    exact hperm.mem_iff

/-- Only the set of the patterns matters. -/
theorem discover_eq_of_patterns {entries : List (String × Tree)} (h : NamesDistinct entries)
    {patterns patterns' : List String} (hpatterns : ∀ p, p ∈ patterns ↔ p ∈ patterns') :
    discover patterns entries = discover patterns' entries := by
  apply eq_of_ordered_of_mem_iff (discover_ordered h _) (discover_ordered h _)
  intro f
  simp only [mem_discover, hpatterns]

/-- The scripts of a project below one of its directories are the scripts of that directory, unless
the directory or one above it is excluded. -/
theorem mem_discover_inside {entries : List (String × Tree)} (h : NamesDistinct entries)
    {patterns dirs : List String} {inner : List (String × Tree)}
    (hinner : Holds entries dirs (.directory inner))
    (hdirs : ∀ d ∈ dirs, ∀ p ∈ patterns, d ≠ excludedName p) (f : FoundFile) :
    ⟨dirs ++ f.path, f.contents⟩ ∈ discover patterns entries ↔ f ∈ discover patterns inner := by
  rw [mem_discover, mem_discover]
  constructor
  · rintro ⟨above, name, hpath, hholds, hname, habove⟩
    have hpath : dirs ++ f.path = above ++ [name] := hpath
    rw [← hpath] at hholds
    rcases List.eq_nil_or_concat f.path with hnil | ⟨below, last, hlast⟩
    · -- A directory stands there, so no file does.
      rw [hnil, List.append_nil] at hholds
      nomatch hinner.unique h hholds
    · rw [hlast, List.concat_eq_append] at hpath hholds
      rw [← List.append_assoc] at hpath
      obtain ⟨rfl, hname'⟩ := List.append_inj' hpath rfl
      obtain rfl : last = name := by simpa using hname'
      refine ⟨below, last, by simpa using hlast, hinner.of_append h (by simp) hholds, hname, ?_⟩
      intro d hd
      exact habove d (List.mem_append_right dirs hd)
  · rintro ⟨below, name, hpath, hholds, hname, hbelow⟩
    refine ⟨dirs ++ below, name, by rw [hpath, List.append_assoc], ?_, hname, ?_⟩
    · rw [List.append_assoc]
      exact hinner.append hholds
    · intro d hd
      rcases List.mem_append.mp hd with hd | hd
      · exact hdirs d hd
      · exact hbelow d hd

/-- A directory is not listed itself, whatever its name. -/
theorem path_ne_of_holds_directory {entries : List (String × Tree)} (h : NamesDistinct entries)
    {patterns dirs : List String} {inner : List (String × Tree)}
    (hinner : Holds entries dirs (.directory inner)) {f : FoundFile}
    (hf : f ∈ discover patterns entries) : f.path ≠ dirs := by
  rintro rfl
  obtain ⟨above, name, hpath, hholds, -⟩ := (mem_discover _ _ _).mp hf
  rw [← hpath] at hholds
  nomatch hinner.unique h hholds

/-- File discovery is exact. The files found are those under the names of scripts such that no
directory on the way down to them has the name of a pattern; they come in the order of their paths,
each once. The root itself is no step of a path, so a script right below it is always found. A
directory is walked and not listed, also where its name is that of a script. Neither the listing
order nor the order or the repetition of patterns changes the result. -/
theorem discovery_is_exact (patterns : List String) (entries : List (String × Tree))
    (h : NamesDistinct entries) :
    (∀ f : FoundFile, f ∈ discover patterns entries ↔
      ∃ dirs name, f.path = dirs ++ [name] ∧ Holds entries (dirs ++ [name]) (.file f.contents) ∧
        HasScriptExtension name ∧ ∀ d ∈ dirs, ∀ p ∈ patterns, d ≠ excludedName p) ∧
    ((discover patterns entries).Pairwise fun f g => f.path < g.path) ∧
    (∀ name contents, (name, .file contents) ∈ entries → HasScriptExtension name →
      ⟨[name], contents⟩ ∈ discover patterns entries) ∧
    (∀ dirs inner, Holds entries dirs (.directory inner) →
      (∀ f ∈ discover patterns entries, f.path ≠ dirs) ∧
      ((∀ d ∈ dirs, ∀ p ∈ patterns, d ≠ excludedName p) → ∀ f : FoundFile,
        ⟨dirs ++ f.path, f.contents⟩ ∈ discover patterns entries ↔
          f ∈ discover patterns inner)) ∧
    (∀ entries' patterns', Relisted entries entries' → (∀ p, p ∈ patterns ↔ p ∈ patterns') →
      discover patterns' entries' = discover patterns entries) := by
  refine ⟨mem_discover patterns entries, discover_ordered h patterns, ?_, ?_, ?_⟩
  · intro name contents hmem hname
    exact (mem_discover _ _ _).mpr ⟨[], name, rfl, .entry hmem, hname, by simp⟩
  · intro dirs inner hinner
    exact ⟨fun f hf => path_ne_of_holds_directory h hinner hf, mem_discover_inside h hinner⟩
  · intro entries' patterns' hrelisted hpatterns
    rw [← discover_eq_of_relisted h hrelisted, discover_eq_of_patterns h hpatterns]

/-- A directory with the name of a script, an excluded directory in it next to one whose name
differs in case, and a script whose name is that of a pattern. -/
def mixedListing : List (String × Tree) :=
  [("z.gd", .directory
      [("Addons", .directory [("b.GD", .file .empty)]),
       ("addons", .directory [("v.gd", .file .empty)])]),
   ("a.gd", .file .empty)]

theorem mixedListing_namesDistinct : NamesDistinct mixedListing := by
  have single (name : String) : NamesDistinct [(name, .file .empty)] :=
    .intro (by simp) (by simp)
  have inner : NamesDistinct
      [("Addons", .directory [("b.GD", .file .empty)]),
       ("addons", .directory [("v.gd", .file .empty)])] := by
    refine .intro (by decide) ?_
    rintro name inner hmem
    rcases hmem with _ | ⟨_, _ | ⟨_, ⟨⟩⟩⟩
    · exact single _
    · exact single _
  refine .intro (by decide) ?_
  rintro name inner hmem
  rcases hmem with _ | ⟨_, _ | ⟨_, ⟨⟩⟩⟩
  exact inner

/-- Discovery in `mixedListing`. The pattern `a.gd` excludes no file, and `addons` not `Addons`. -/
theorem discovery_of_mixedListing :
    NamesDistinct mixedListing ∧
    ⟨["a.gd"], .empty⟩ ∈ discover ["**/addons/", "a.gd"] mixedListing ∧
    ⟨["z.gd", "Addons", "b.GD"], .empty⟩ ∈ discover ["**/addons/", "a.gd"] mixedListing ∧
    (∀ f ∈ discover ["**/addons/", "a.gd"] mixedListing,
      f.path ≠ ["z.gd"] ∧ f.path ≠ ["z.gd", "addons", "v.gd"]) ∧
    discover ["a.gd", "a.gd", "**/addons/"] mixedListing.reverse =
      discover ["**/addons/", "a.gd"] mixedListing := by
  have hdistinct := mixedListing_namesDistinct
  obtain ⟨hmem, -, htop, hdirs, hsame⟩ :=
    discovery_is_exact ["**/addons/", "a.gd"] mixedListing hdistinct
  have hz : Holds mixedListing ["z.gd"] _ := .entry (.head _)
  refine ⟨hdistinct, ?_, ?_, ?_, ?_⟩
  · exact htop "a.gd" .empty (.tail _ (.head _)) ⟨['a'], 'g', 'd', rfl, by simp, by simp⟩
  · refine (hmem _).mpr ⟨["z.gd", "Addons"], "b.GD", rfl, ?_,
      ⟨['b'], 'G', 'D', rfl, by simp, by simp⟩, by decide⟩
    exact .inside (.head _) (.inside (.head _) (.entry (.head _)))
  · intro f hf
    refine ⟨(hdirs _ _ hz).1 f hf, ?_⟩
    intro hpath
    obtain ⟨dirs, name, hsplit, -, -, hallowed⟩ := (hmem f).mp hf
    have hsplit : ["z.gd", "addons"] ++ ["v.gd"] = dirs ++ [name] := hpath.symm.trans hsplit
    obtain ⟨rfl, -⟩ := List.append_inj' hsplit rfl
    exact hallowed "addons" (by simp) "**/addons/" (by simp) (by decide)
  · exact hsame _ _ (.swap _ _ _) fun p => by grind

end ScriptTypings.File
