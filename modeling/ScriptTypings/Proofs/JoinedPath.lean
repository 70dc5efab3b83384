import ScriptTypings.File.Disk
import Mathlib.Data.List.Basic

/-!
# Joined paths

A name is joined to a directory as texts, by one slash. The joined text is walked as the directory
is, and then by the name. It leads below the top directory of a disk exactly where the directory
does, if the top directory has an absolute name.
-/

namespace ScriptTypings.File

/-- Names that an entry of a directory can have. -/
def IsEntryName (name : String) : Prop :=
  name ≠ "" ∧ name ≠ "." ∧ name ≠ ".." ∧ '/' ∉ name.toList

instance : DecidablePred IsEntryName :=
  fun _ => inferInstanceAs (Decidable (_ ∧ _))

/-! ## Texts -/

theorem join_append (directory name rest : String) :
    join directory (name ++ rest) = join directory name ++ rest := by
  unfold join
  split
  · rfl
  · split <;> simp only [String.append_assoc]

theorem exists_join_eq (directory name : String) :
    ∃ front, join directory name = front ++ name := by
  unfold join
  split
  · exact ⟨"", by simp⟩
  · split
    · exact ⟨directory, rfl⟩
    · exact ⟨directory ++ "/", rfl⟩

theorem getLast?_join_ne {name : String} (h : IsEntryName name) (directory : String) :
    (join directory name).toList.getLast? ≠ some '/' := by
  obtain ⟨front, hfront⟩ := exists_join_eq directory name
  have hname : name.toList ≠ [] := by simpa using h.1
  rw [hfront, String.toList_append, List.getLast?_append_of_ne_nil _ hname]
  intro hslash
  exact h.2.2.2 (List.mem_of_getLast? hslash)

/-- Below an entry, a name is joined by a slash. -/
theorem join_join {name : String} (h : IsEntryName name) (directory rest : String) :
    join (join directory name) rest = join directory name ++ "/" ++ rest := by
  obtain ⟨front, hfront⟩ := exists_join_eq directory name
  have hne : join directory name ≠ "" := by
    rw [hfront]
    simp [h.1]
  rw [join, if_neg hne, if_neg (getLast?_join_ne h directory)]

/-! ## Steps -/

theorem steps_append_slash (s t : String) : steps (s ++ "/" ++ t) = steps s ++ steps t := by
  have hpieces : Text.piecesOf '/' (s ++ "/" ++ t) = Text.piecesOf '/' s ++ Text.piecesOf '/' t :=
    Text.piecesOf_append_separator '/' s t
  rw [steps, hpieces, List.filter_append, steps, steps]

theorem steps_of_isEntryName {name : String} (h : IsEntryName name) : steps name = [name] := by
  simp [steps, Text.piecesOf_of_not_mem h.2.2.2, h.1]

/-- A text with a slash at its end. -/
theorem exists_eq_append_slash {s : String} (h : s.toList.getLast? = some '/') :
    ∃ front, s = front ++ "/" := by
  obtain ⟨front, hfront⟩ := List.getLast?_eq_some_iff.mp h
  refine ⟨String.ofList front, String.toList_inj.mp ?_⟩
  rw [hfront, String.toList_append, String.toList_ofList]
  rfl

theorem steps_join {name : String} (h : IsEntryName name) (directory : String) :
    steps (join directory name) = steps directory ++ [name] := by
  have hempty : steps "" = [] := rfl
  rw [join]
  split
  · next hnone => rw [hnone, hempty, steps_of_isEntryName h, List.nil_append]
  · split
    · next hslash =>
        obtain ⟨front, rfl⟩ := exists_eq_append_slash hslash
        have hfront := steps_append_slash front ""
        rw [String.append_empty, hempty, List.append_nil] at hfront
        rw [steps_append_slash, steps_of_isEntryName h, hfront]
    · rw [steps_append_slash, steps_of_isEntryName h]

theorem stepsWithSlash_join {name : String} (h : IsEntryName name) (directory : String) :
    stepsWithSlash (join directory name) = steps directory ++ [name] := by
  rw [stepsWithSlash, if_neg (getLast?_join_ne h directory), steps_join h]

/-! ## Paths below the top directory -/

namespace Disk

/-- The top directory has an absolute name, without a slash at its end. So no relative path is taken
for one that starts with that name. -/
structure HasAbsoluteTop (d : Disk) : Prop where
  absolute : d.top.toList.head? = some '/'
  no_slash : d.top.toList.getLast? ≠ some '/'

variable {d : Disk} {directory inner path name : String}

theorem below_top_append (d : Disk) (inner : String) :
    d.below (d.top ++ "/" ++ inner) = some inner := by
  have hne : d.top ++ "/" ++ inner ≠ d.top := by
    intro h
    simpa using congrArg (fun s => s.toList.length) h
  have hdrop : (d.top ++ "/" ++ inner).toList.drop (d.top.length + 1) = inner.toList := by
    simp [← String.length_toList]
  rw [below, if_neg hne, if_pos (by simp), hdrop, String.ofList_toList]

theorem eq_top_append_of_isPrefixOf (h : (d.top ++ "/").toList.isPrefixOf path.toList = true) :
    path = d.top ++ "/" ++ String.ofList (path.toList.drop (d.top.length + 1)) := by
  obtain ⟨rest, hrest⟩ := List.isPrefixOf_iff_prefix.mp h
  have hdrop : path.toList.drop (d.top.length + 1) = rest := by
    simp [← hrest, ← String.length_toList]
  rw [← String.toList_inj, hdrop, String.toList_append, String.toList_ofList, hrest]

/-- What starts with the name of the top directory is as absolute as that name. -/
theorem HasAbsoluteTop.head?_append (h : d.HasAbsoluteTop) (s : String) :
    (d.top ++ s).toList.head? = some '/' := by
  rw [String.toList_append, List.head?_append, h.absolute, Option.some_or]

/-- The part of a path below the top directory can have three reasons. -/
theorem below_eq_some_cases (h : d.below directory = some inner) :
    (directory = d.top ∧ inner = "") ∨ directory = d.top ++ "/" ++ inner ∨
      (directory.toList.head? ≠ some '/' ∧ inner = directory) := by
  rw [below] at h
  split at h
  · next htop => exact Or.inl ⟨htop, (Option.some.inj h).symm⟩
  · split at h
    · next hbelow =>
        rw [← Option.some.inj h]
        exact Or.inr (Or.inl (eq_top_append_of_isPrefixOf hbelow))
    · split at h
      · cases h
      · next hrelative => exact Or.inr (Or.inr ⟨hrelative, (Option.some.inj h).symm⟩)

theorem HasAbsoluteTop.below_of_relative (h : d.HasAbsoluteTop)
    (hpath : path.toList.head? ≠ some '/') : d.below path = some path := by
  have hne : path ≠ d.top := by
    rintro rfl
    exact hpath h.absolute
  have hnot : ¬ (d.top ++ "/").toList.isPrefixOf path.toList = true := by
    intro hbelow
    rw [eq_top_append_of_isPrefixOf hbelow, String.append_assoc] at hpath
    exact hpath (h.head?_append _)
  rw [below, if_neg hne, if_neg hnot, if_neg hpath]

theorem join_top_append (d : Disk) (inner name : String) :
    join (d.top ++ "/" ++ inner) name = d.top ++ "/" ++ join inner name := by
  have hne : d.top ++ "/" ++ inner ≠ "" := by simp
  by_cases hempty : inner = ""
  · have hlast : (d.top ++ "/" ++ inner).toList.getLast? = some '/' := by simp [hempty]
    rw [join, if_neg hne, if_pos hlast, join, if_pos hempty, hempty, String.append_empty]
  · have hlast : (d.top ++ "/" ++ inner).toList.getLast? = inner.toList.getLast? := by
      rw [String.toList_append, List.getLast?_append_of_ne_nil _ (by simpa using hempty)]
    rw [join, if_neg hne, hlast, join, if_neg hempty]
    split <;> simp only [String.append_assoc]

theorem head?_join_ne (hname : IsEntryName name) (h : directory.toList.head? ≠ some '/') :
    (join directory name).toList.head? ≠ some '/' := by
  have hhead : name.toList.head? ≠ some '/' := fun hslash => hname.2.2.2 (List.mem_of_head? hslash)
  by_cases hempty : directory = ""
  · rwa [join, if_pos hempty]
  · obtain ⟨c, rest, hlist⟩ := List.exists_cons_of_ne_nil (mt String.toList_eq_nil_iff.mp hempty)
    rw [join, if_neg hempty]
    split <;> simpa [hlist] using h

/-- A name in a directory is below the top directory where the directory is. -/
theorem HasAbsoluteTop.below_join (h : d.HasAbsoluteTop) (hname : IsEntryName name)
    (hbelow : d.below directory = some inner) :
    d.below (join directory name) = some (join inner name) := by
  obtain ⟨rfl, rfl⟩ | rfl | ⟨hrelative, rfl⟩ := below_eq_some_cases hbelow
  · have hne : d.top ≠ "" := by
      intro hempty
      have habsolute := h.absolute
      rw [hempty] at habsolute
      cases habsolute
    rw [join, if_neg hne, if_neg h.no_slash, below_top_append, join, if_pos rfl]
  · rw [join_top_append, below_top_append]
  · exact h.below_of_relative (head?_join_ne hname hrelative)

end Disk

end ScriptTypings.File
