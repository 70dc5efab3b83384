import ScriptTypings.Proofs.JoinedPath
import ScriptTypings.ResourcePath
import Mathlib.Data.List.TakeWhile

/-!
# Canonical resource paths

The text of a resource path is `res://` and the names of the path with one slash between them.
Names hold no slash and are never empty, so the names can be read back from the text.
-/

namespace ScriptTypings.ResourcePath

/-! ## Parts -/

/-- The parts of a path between its slashes: no part holds a slash, and joined by slashes they are
the path. -/
structure PartsOf (path : String) (parts : List String) : Prop where
  ne_nil : parts ≠ []
  no_slash : ∀ part ∈ parts, '/' ∉ part.toList
  joined : String.intercalate "/" parts = path

theorem partsOf_piecesOf (path : String) : PartsOf path (Text.piecesOf '/' path) where
  ne_nil := Text.piecesOf_ne_nil '/' path
  no_slash _ := Text.not_mem_of_mem_piecesOf
  joined := Text.intercalate_piecesOf '/' path

theorem PartsOf.eq_piecesOf {path : String} {parts : List String} (h : PartsOf path parts) :
    parts = Text.piecesOf '/' path := by
  rw [← h.joined]
  exact (Text.piecesOf_intercalate h.ne_nil h.no_slash).symm

theorem existsUnique_partsOf (path : String) : ∃! parts, PartsOf path parts :=
  ⟨_, partsOf_piecesOf path, fun _ h => h.eq_piecesOf⟩

/-! ## Names -/

/-- The parts that are names: neither empty nor a step to the directory itself or above it. -/
def namesOf (parts : List String) : List String :=
  parts.filter (· ∉ ["", ".", ".."])

theorem PartsOf.components {path : String} {parts : List String} (h : PartsOf path parts) :
    (ofPath path).components = namesOf parts := by
  rw [h.eq_piecesOf]
  apply List.filter_congr
  simp [isComponent]

theorem filter_isComponent {names : List String} (h : ∀ name ∈ names, File.IsEntryName name) :
    names.filter isComponent = names := by
  apply List.filter_eq_self.mpr
  intro name hname
  obtain ⟨hempty, hdot, hdots, -⟩ := h name hname
  simp [isComponent, hempty, hdot, hdots]

theorem isEntryName_of_mem_components {path name : String}
    (h : name ∈ (ofPath path).components) : File.IsEntryName name := by
  obtain ⟨hpiece, hcomponent⟩ := List.mem_filter.mp h
  simp only [isComponent, decide_eq_true_eq] at hcomponent
  obtain ⟨hempty, hdot, hdots⟩ := hcomponent
  exact ⟨hempty, hdot, hdots, (partsOf_piecesOf path).no_slash name hpiece⟩

/-- Joined names are read back. -/
theorem ofPath_intercalate {names : List String} (h : ∀ name ∈ names, File.IsEntryName name) :
    ofPath (String.intercalate "/" names) = ⟨names⟩ := by
  by_cases hne : names = []
  · subst hne
    decide
  · have hpieces : Text.piecesOf '/' (String.intercalate "/" names) = names :=
      Text.piecesOf_intercalate hne fun name hname => (h name hname).2.2.2
    rw [ofPath, hpieces, filter_isComponent h]

/-- Reading the part of a resource path behind its scheme changes nothing. -/
theorem ofPath_intercalate_components (path : String) :
    ofPath (String.intercalate "/" (ofPath path).components) = ofPath path :=
  ofPath_intercalate fun _ => isEntryName_of_mem_components

/-- Paths with the same text have the same names. -/
theorem toString_ofPath_inj {path path' : String} :
    (ofPath path).toString = (ofPath path').toString ↔
      (ofPath path).components = (ofPath path').components := by
  constructor
  · intro h
    have hinner := (String.append_right_inj _).mp h
    rw [← ofPath_intercalate_components path, hinner, ofPath_intercalate_components path']
  · intro h
    rw [toString, h, toString]

/-! ## Stems -/

theorem stemOfName_of_not_mem {name : List Char} (h : '.' ∉ name) : stemOfName name = name := by
  have hnone : name.reverse.dropWhile (· ≠ '.') = [] := by
    rw [List.dropWhile_eq_nil_iff]
    intro c hc
    simpa using ne_of_mem_of_not_mem (List.mem_reverse.mp hc) h
  rw [stemOfName, hnone]

/-- What stands before the last dot is the stem, unless nothing does. -/
theorem stemOfName_append (front : List Char) {extension : List Char} (h : '.' ∉ extension) :
    stemOfName (front ++ '.' :: extension) = if front = [] then '.' :: extension else front := by
  have hlast : (front ++ '.' :: extension).reverse.dropWhile (· ≠ '.') = '.' :: front.reverse := by
    rw [List.reverse_append, List.reverse_cons, List.append_assoc, List.dropWhile_append_of_pos]
    · rfl
    · intro c hc
      simpa using ne_of_mem_of_not_mem (List.mem_reverse.mp hc) h
  rw [stemOfName, hlast]
  obtain rfl | ⟨init, c, rfl⟩ := List.eq_nil_or_concat front
  · rfl
  · simp

theorem exists_eq_append_dot {name : List Char} (h : '.' ∈ name) :
    ∃ front extension, name = front ++ '.' :: extension ∧ '.' ∉ extension := by
  obtain ⟨extension, front, hname, hfree⟩ := List.eq_append_cons_of_mem (List.mem_reverse.mpr h)
  refine ⟨front.reverse, extension.reverse, ?_, by simpa using hfree⟩
  rw [← List.reverse_reverse name, hname]
  simp

/-- A dot at the very start is not taken for the start of an extension. -/
theorem stemOfName_cases (name : List Char) :
    ('.' ∉ name.tail ∧ name = stemOfName name) ∨
      ('.' ∈ name.tail ∧ ∃ extension, '.' ∉ extension ∧
        name = stemOfName name ++ '.' :: extension) := by
  by_cases hdot : '.' ∈ name
  · obtain ⟨front, extension, rfl, hfree⟩ := exists_eq_append_dot hdot
    rw [stemOfName_append front hfree]
    cases front with
    | nil => exact Or.inl ⟨hfree, rfl⟩
    | cons c rest => exact Or.inr ⟨by simp, extension, hfree, rfl⟩
  · exact Or.inl ⟨mt List.mem_of_mem_tail hdot, (stemOfName_of_not_mem hdot).symm⟩

theorem stem_eq (p : ResourcePath) :
    p.stem = String.ofList (stemOfName (p.components.getLastD "").toList) := by
  rw [stem, List.getLastD_eq_getLast?]
  cases p.components.getLast? <;> rfl

/-- The stem is the last name up to its extension. -/
theorem stem_cases (p : ResourcePath) :
    let last := p.components.getLastD ""
    ('.' ∉ last.toList.tail ∧ last = p.stem) ∨
      ('.' ∈ last.toList.tail ∧ ∃ extension : String, '.' ∉ extension.toList ∧
        last = p.stem ++ "." ++ extension) := by
  intro last
  obtain ⟨hfree, hname⟩ | ⟨hdot, extension, hfree, hname⟩ := stemOfName_cases last.toList
  · refine Or.inl ⟨hfree, ?_⟩
    rw [stem_eq, ← hname, String.ofList_toList]
  · refine Or.inr ⟨hdot, String.ofList extension, by simpa using hfree, ?_⟩
    rw [← String.toList_inj, hname, stem_eq]
    simp [last]

/-- The last name of a path with names is a real one. -/
theorem isEntryName_getLastD {path : String} (h : (ofPath path).components ≠ []) :
    File.IsEntryName ((ofPath path).components.getLastD "") := by
  rw [List.getLastD_eq_getLast?, List.getLast?_eq_some_getLast h]
  exact isEntryName_of_mem_components (List.getLast_mem h)

theorem slash_not_mem_getLastD (path : String) :
    '/' ∉ ((ofPath path).components.getLastD "").toList := by
  by_cases h : (ofPath path).components = []
  · simp [h]
  · exact (isEntryName_getLastD h).2.2.2

theorem slash_not_mem_stem (path : String) : '/' ∉ (ofPath path).stem.toList := by
  have hlast := slash_not_mem_getLastD path
  obtain ⟨-, hname⟩ | ⟨-, extension, -, hname⟩ := stem_cases (ofPath path)
  · rwa [← hname]
  · intro hslash
    rw [hname, String.toList_append, String.toList_append] at hlast
    exact hlast (List.mem_append_left _ (List.mem_append_left _ hslash))

theorem stem_ne_empty_iff (path : String) :
    (ofPath path).stem ≠ "" ↔ (ofPath path).components ≠ [] := by
  constructor
  · intro hstem hnone
    exact hstem (by rw [stem, hnone]; rfl)
  · intro hne hstem
    obtain ⟨-, hname⟩ | ⟨hdot, extension, hfree, hname⟩ := stem_cases (ofPath path)
    · exact (isEntryName_getLastD hne).1 (hname.trans hstem)
    · -- A name that only starts with a dot has no dot behind it, so the dot is not taken off.
      rw [hname, hstem, String.empty_append, String.toList_append] at hdot
      exact hfree hdot

/-! ## Texts -/

theorem exists_slash_intercalate_eq (names : List String) :
    ∃ front, "/" ++ String.intercalate "/" names = front ++ "/" ++ names.getLastD "" := by
  induction names with
  | nil => exact ⟨"", rfl⟩
  | cons name rest ih =>
      cases rest with
      | nil => exact ⟨"", by simp⟩
      | cons next others =>
          obtain ⟨front, hfront⟩ := ih
          refine ⟨"/" ++ name ++ front, ?_⟩
          calc
            "/" ++ String.intercalate "/" (name :: next :: others) =
                "/" ++ name ++ ("/" ++ String.intercalate "/" (next :: others)) := by
              rw [String.intercalate_cons_cons]
              simp only [String.append_assoc]
            _ = "/" ++ name ++ front ++ "/" ++ (next :: others).getLastD "" := by
              rw [hfront]
              simp only [String.append_assoc]

/-- What follows the last slash of a text is the last name. Without names it is nothing, and the
slash is that of the scheme. -/
theorem exists_toString_eq (p : ResourcePath) :
    ∃ front, p.toString = front ++ "/" ++ p.components.getLastD "" := by
  obtain ⟨front, hfront⟩ := exists_slash_intercalate_eq p.components
  refine ⟨"res:/" ++ front, ?_⟩
  have hscheme : scheme = "res:/" ++ "/" := rfl
  rw [toString, hscheme, String.append_assoc, hfront]
  simp only [String.append_assoc]

/-- Resource paths are canonical. The text of one is `res://` and the names among the parts of the
path, and the part behind `res://` is a path to the same. Two paths have the same text exactly if
they have the same names. The stem has no slash and is empty only if there is no name. The last
name, which is what follows the last slash of the text, is the stem, or the stem with a dot and an
extension behind it if the name has a dot other than its first character. -/
theorem resource_paths_are_canonical (path : String) :
    (∃! parts, PartsOf path parts) ∧
    ∀ parts, PartsOf path parts →
      let p := ofPath path
      let names := namesOf parts
      let inner := String.intercalate "/" names
      let last := names.getLastD ""
      p.toString = "res://" ++ inner ∧
      ofPath inner = p ∧
      (∀ other otherParts, PartsOf other otherParts →
        ((ofPath other).toString = p.toString ↔ namesOf otherParts = names)) ∧
      '/' ∉ p.stem.toList ∧
      (p.stem ≠ "" ↔ names ≠ []) ∧
      (∃ front, p.toString = front ++ "/" ++ last) ∧
      (('.' ∉ last.toList.tail ∧ last = p.stem) ∨
        ('.' ∈ last.toList.tail ∧ ∃ extension : String, '.' ∉ extension.toList ∧
          last = p.stem ++ "." ++ extension)) := by
  refine ⟨existsUnique_partsOf path, ?_⟩
  intro parts hparts
  rw [← hparts.components]
  refine ⟨rfl, ofPath_intercalate_components path, ?_, slash_not_mem_stem path,
    stem_ne_empty_iff path, exists_toString_eq _, stem_cases _⟩
  intro other otherParts hother
  rw [← hother.components]
  exact toString_ofPath_inj

/-- A path with steps that are no names has the text of the plain one, and a stem with a dot. -/
theorem canonical_path_of_winding_path :
    PartsOf "./ui//../hud.test.gd/" [".", "ui", "", "..", "hud.test.gd", ""] ∧
    PartsOf "ui/hud.test.gd" ["ui", "hud.test.gd"] ∧
    (ofPath "./ui//../hud.test.gd/").toString = "res://ui/hud.test.gd" ∧
    (ofPath "ui/hud.test.gd").toString = (ofPath "./ui//../hud.test.gd/").toString ∧
    ∃ extension : String, '.' ∉ extension.toList ∧
      "hud.test.gd" = (ofPath "./ui//../hud.test.gd/").stem ++ "." ++ extension := by
  have hwinding : PartsOf "./ui//../hud.test.gd/" [".", "ui", "", "..", "hud.test.gd", ""] :=
    ⟨by decide, by decide, by decide⟩
  have hplain : PartsOf "ui/hud.test.gd" ["ui", "hud.test.gd"] :=
    ⟨by decide, by decide, by decide⟩
  obtain ⟨-, hcanonical⟩ := resource_paths_are_canonical "./ui//../hud.test.gd/"
  obtain ⟨htext, -, hsame, -, -, -, hstem⟩ := hcanonical _ hwinding
  refine ⟨hwinding, hplain, htext, (hsame _ _ hplain).mpr (by decide), ?_⟩
  obtain ⟨hfree, -⟩ | ⟨-, hextension⟩ := hstem
  · exact absurd (by decide) hfree
  · exact hextension

end ScriptTypings.ResourcePath
