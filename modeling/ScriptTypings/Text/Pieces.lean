/-! # Pieces of a text -/

namespace ScriptTypings.Text

/-- The pieces of a text between occurrences of a character; a text without one is its only
piece. -/
def piecesOf (separator : Char) (s : String) : List String :=
  (s.toList.splitOn separator).map String.ofList

theorem piecesOf_ne_nil (separator : Char) (s : String) : piecesOf separator s ≠ [] := by
  simp [piecesOf]

theorem piecesOf_of_not_mem {separator : Char} {s : String} (h : separator ∉ s.toList) :
    piecesOf separator s = [s] := by
  simp [piecesOf, List.splitOn_eq_singleton h]

/-- A separator divides the pieces before it from those after it. -/
theorem piecesOf_append_separator (separator : Char) (s t : String) :
    piecesOf separator (s ++ String.singleton separator ++ t) =
      piecesOf separator s ++ piecesOf separator t := by
  simp [piecesOf, String.toList_append, List.splitOn_append_cons_self]

/-- No piece of a list holds what the list is split at. -/
theorem not_mem_of_mem_splitOn {separator : Char} {cs piece : List Char}
    (h : piece ∈ cs.splitOn separator) : separator ∉ piece := by
  induction cs generalizing piece with
  | nil => simp_all
  | cons c rest ih =>
      rw [List.splitOn_cons_eq_if_modifyHead] at h
      split at h
      · obtain rfl | h := List.mem_cons.mp h
        · exact List.not_mem_nil
        · exact ih h
      · next hc =>
          obtain ⟨first, more, hrest⟩ :=
            List.exists_cons_of_ne_nil (List.splitOn_ne_nil separator rest)
          rw [hrest] at ih h
          rw [List.modifyHead_cons] at h
          obtain rfl | h := List.mem_cons.mp h
          · exact List.not_mem_cons_of_ne_of_not_mem (Ne.symm (by simpa using hc))
              (ih List.mem_cons_self)
          · exact ih (List.mem_cons_of_mem _ h)

theorem not_mem_of_mem_piecesOf {separator : Char} {s piece : String}
    (h : piece ∈ piecesOf separator s) : separator ∉ piece.toList := by
  obtain ⟨cs, hcs, rfl⟩ := List.mem_map.mp h
  rw [String.toList_ofList]
  exact not_mem_of_mem_splitOn hcs

/-- Nothing is lost: the pieces with the separator between them are the text. -/
theorem intercalate_piecesOf (separator : Char) (s : String) :
    String.intercalate (String.singleton separator) (piecesOf separator s) = s := by
  have hlists : (piecesOf separator s).map String.toList = s.toList.splitOn separator := by
    simp [piecesOf]
  rw [← String.toList_inj, String.toList_intercalate, String.toList_singleton, hlists,
    List.intercalate_splitOn]

/-- Parts without the separator are the pieces of what they are joined to. -/
theorem piecesOf_intercalate {separator : Char} {parts : List String} (hne : parts ≠ [])
    (h : ∀ part ∈ parts, separator ∉ part.toList) :
    piecesOf separator (String.intercalate (String.singleton separator) parts) = parts := by
  rw [piecesOf, String.toList_intercalate, String.toList_singleton, List.splitOn_intercalate]
  · simp
  · simpa using h
  · simpa using hne

end ScriptTypings.Text
