import ScriptTypings.Proofs.SavedFile

/-!
# Regular files of a disk

The regular files of a disk are listed with their addresses, the names from the top directory down;
links are not followed. Making directories leaves the list as it is. Writing a file changes the list
at the address of that file alone: there it has the new contents, and all other files stay, in their
order.
-/

namespace ScriptTypings.File

namespace Disk

/-! ## Addresses -/

theorem filesIn_eq_flatMap (here : List String) (entries : List (String × Entry)) :
    filesIn here entries = entries.flatMap (filesOf here) := by
  induction entries with
  | nil => rw [filesIn, List.flatMap_nil]
  | cons entry rest ih => rw [filesIn, ih, List.flatMap_cons]

theorem filesIn_append (here : List String) (xs ys : List (String × Entry)) :
    filesIn here (xs ++ ys) = filesIn here xs ++ filesIn here ys := by
  simp only [filesIn_eq_flatMap, List.flatMap_append]

mutual

theorem here_le_of_mem_filesIn (here : List String) :
    ∀ (entries : List (String × Entry)) (f : List String × ByteArray), f ∈ filesIn here entries →
      here <+: f.1
  | [], f, h => by
      rw [filesIn] at h
      cases h
  | entry :: rest, f, h => by
      rw [filesIn, List.mem_append] at h
      rcases h with h | h
      · exact (List.prefix_append here [entry.1]).trans (address_le_of_mem_filesOf here entry f h)
      · exact here_le_of_mem_filesIn here rest f h

/-- A file is listed for the entry through which its address leads. -/
theorem address_le_of_mem_filesOf (here : List String) :
    ∀ (entry : String × Entry) (f : List String × ByteArray), f ∈ filesOf here entry →
      here ++ [entry.1] <+: f.1
  | (name, .file contents), f, h => by
      rw [filesOf] at h
      obtain rfl := List.mem_singleton.mp h
      exact List.prefix_rfl
  | (name, .link target), f, h => by
      rw [filesOf] at h
      cases h
  | (name, .directory inner), f, h => by
      rw [filesOf] at h
      exact here_le_of_mem_filesIn (here ++ [name]) inner f h

end

/-- Files of entries with other names have other addresses. -/
theorem not_address_le_of_mem_filesIn {here rest : List String} {name : String}
    {entries : List (String × Entry)} (hentries : ∀ entry ∈ entries, entry.1 ≠ name)
    {f : List String × ByteArray} (hf : f ∈ filesIn here entries) :
    ¬ here ++ name :: rest <+: f.1 := by
  rintro ⟨behind, hname⟩
  rw [filesIn_eq_flatMap] at hf
  obtain ⟨entry, hentry, hf⟩ := List.mem_flatMap.mp hf
  obtain ⟨behind', hother⟩ := address_le_of_mem_filesOf here entry f hf
  have hsame : name :: (rest ++ behind) = entry.1 :: behind' := by
    simpa using hname.trans hother.symm
  exact hentries entry hentry (List.cons.inj hsame).1.symm

/-! ## Files without a change -/

theorem filesIn_of_plain {here : List String} {entries : List (String × Entry)}
    (h : Plain (fun _ => False) entries) : filesIn here entries = [] := by
  induction h generalizing here with
  | nil => rw [filesIn]
  | file allowed => exact allowed.elim
  | directory _ _ ihWithin ih => rw [filesIn, filesOf, ihWithin, ih, List.nil_append]

theorem filesIn_of_grown {here : List String} {xs ys : List (String × Entry)}
    (h : File.Grown (fun _ => False) xs ys) : filesIn here ys = filesIn here xs := by
  induction h generalizing here with
  | fresh new => rw [filesIn_of_plain new, filesIn]
  | kept name e _ ih => rw [filesIn, filesIn, ih]
  | inside name _ _ ihWithin ih => rw [filesIn, filesIn, filesOf, filesOf, ihWithin, ih]
  | written allowed => exact allowed.elim

/-- Where a disk gains nothing but directories, the files are the same. -/
theorem Grown.files_eq {d d' : Disk} (h : d.Grown (fun _ => False) d') : d'.files = d.files :=
  filesIn_of_grown h.entries

/-! ## Files around an address -/

/-- An entry is put in place of the first one of its name, or behind all entries. -/
theorem exists_putName_eq (name : String) (e : Entry) (entries : List (String × Entry)) :
    ∃ front back,
      entries = front ++ (entries.lookup name).toList.map (fun old => (name, old)) ++ back ∧
      putName name e entries = front ++ [(name, e)] ++ back ∧
      ∀ entry ∈ front, entry.1 ≠ name := by
  induction entries with
  | nil => exact ⟨[], [], rfl, rfl, by simp⟩
  | cons entry rest ih =>
      obtain ⟨other, old⟩ := entry
      by_cases hname : other = name
      · subst hname
        exact ⟨[], rest, by simp, by simp [putName], by simp⟩
      · obtain ⟨front, back, hrest, hput, hfront⟩ := ih
        have hlookup : ((other, old) :: rest).lookup name = rest.lookup name := by
          rw [List.lookup_cons, beq_false_of_ne (Ne.symm hname)]
        refine ⟨(other, old) :: front, back, ?_, ?_, ?_⟩
        · rw [hlookup, List.cons_append, List.cons_append, ← hrest]
        · rw [putName, if_neg hname, hput]
          rfl
        · exact List.forall_mem_cons.mpr ⟨hname, hfront⟩

/-- An entry that is put at a path changes the list of files where those of the old entry stand.
Files in front of these are not listed for that path. -/
theorem exists_filesIn_putPath {path : List String} {entries inner : List (String × Entry)}
    (h : entriesUnder? path entries = some inner) (here : List String) (name : String) (e : Entry) :
    ∃ front back,
      filesIn here entries = front ++ (inner.lookup name).toList.flatMap
        (fun old => filesOf (here ++ path) (name, old)) ++ back ∧
      filesIn here (putPath e (path ++ [name]) entries) =
        front ++ filesOf (here ++ path) (name, e) ++ back ∧
      ∀ f ∈ front, ¬ here ++ path ++ [name] <+: f.1 := by
  -- each directory of the path splits the list once more, around its own files
  induction path generalizing entries here with
  | nil =>
      obtain rfl : entries = inner := Option.some.inj h
      obtain ⟨front, back, hentries, hput, hfront⟩ := exists_putName_eq name e entries
      refine ⟨filesIn here front, filesIn here back, ?_, ?_, ?_⟩
      · conv_lhs => rw [hentries]
        simp only [filesIn_append, List.append_nil]
        simp only [filesIn_eq_flatMap, List.flatMap_map]
      · rw [List.nil_append, putPath, hput]
        simp only [filesIn_append, List.append_nil]
        simp only [filesIn_eq_flatMap, List.flatMap_singleton]
      · intro f hf
        rw [List.append_nil]
        exact not_address_le_of_mem_filesIn hfront hf
  | cons first rest ih =>
      obtain ⟨middle, hfound, hrest⟩ := (entriesUnder?_cons first rest).mp h
      obtain ⟨front, back, hentries, hput, hfront⟩ :=
        exists_putName_eq first (.directory (putPath e (rest ++ [name]) middle)) entries
      obtain ⟨front', back', hold, hnew, hfront'⟩ := ih hrest (here ++ [first])
      have hhere : here ++ first :: rest = here ++ [first] ++ rest := by simp
      refine ⟨filesIn here front ++ front', back' ++ filesIn here back, ?_, ?_, ?_⟩
      · conv_lhs => rw [hentries]
        simp only [hfound, Option.toList_some, List.map_cons, List.map_nil, filesIn_append]
        rw [filesIn, filesOf, filesIn, hold, hhere]
        simp
      · rw [List.cons_append, putPath_cons (by simp) hfound, hput]
        simp only [filesIn_append]
        rw [filesIn, filesOf, filesIn, hnew, hhere]
        simp
      · intro f hf
        rcases List.mem_append.mp hf with hf | hf
        · simpa using not_address_le_of_mem_filesIn hfront hf
        · simpa using hfront' f hf

/-! ## Files after a write -/

/-- The files of a disk before and after one is written: those at other addresses are the same, in
the same order, and its own address has the contents. -/
structure Rewritten (address : List String) (contents : ByteArray)
    (before after : List (List String × ByteArray)) : Prop where
  elsewhere : after.filter (·.1 ≠ address) = before.filter (·.1 ≠ address)
  there : after.lookup address = some contents

section Rewritten

variable {address other : List String} {contents : ByteArray}
  {before after front old back : List (List String × ByteArray)}

theorem rewritten_of_parts (hold : ∀ f ∈ old, f.1 = address) (hfront : ∀ f ∈ front, f.1 ≠ address) :
    Rewritten address contents (front ++ old ++ back) (front ++ [(address, contents)] ++ back) where
  elsewhere := by
    have hnone : old.filter (·.1 ≠ address) = [] := by
      apply List.filter_eq_nil_iff.mpr
      intro f hf
      simp [hold f hf]
    simp only [List.filter_append, hnone]
    simp
  there := by
    have hnone : front.lookup address = none := by
      apply List.lookup_eq_none_iff.mpr
      intro f hf
      simpa using Ne.symm (hfront f hf)
    simp [List.lookup_append, hnone]

/-- Files at one address do not matter to the file at another. -/
theorem lookup_filter_of_ne (h : other ≠ address) (files : List (List String × ByteArray)) :
    (files.filter (·.1 ≠ address)).lookup other = files.lookup other := by
  induction files with
  | nil => rfl
  | cons f rest ih =>
      by_cases hf : f.1 = address
      · have hother : (other == f.1) = false := beq_false_of_ne (hf ▸ h)
        rw [List.filter_cons_of_neg (by simp [hf]), ih, List.lookup_cons, hother]
      · rw [List.filter_cons_of_pos (by simp [hf]), List.lookup_cons, List.lookup_cons, ih]

theorem Rewritten.lookup (h : Rewritten address contents before after) (other : List String) :
    after.lookup other = if address = other then some contents else before.lookup other := by
  split
  · next heq => rw [← heq, h.there]
  · next hne =>
      rw [← lookup_filter_of_ne (Ne.symm hne) after, h.elsewhere,
        lookup_filter_of_ne (Ne.symm hne) before]

end Rewritten

/-- A file that is written takes the place of the one at its address, or is new there. -/
theorem Writes.rewritten {d : Disk} {path : List String} {trail : Trail} {name : String}
    (h : d.Writes path trail name) (contents : ByteArray) :
    Rewritten (trail.path ++ [name]) contents d.files
      (d.put (trail.path ++ [name]) (.file contents)).files := by
  obtain ⟨place, hwalks, htarget⟩ := h
  obtain ⟨hwithin, hplace⟩ := (hwalks.within .top).target htarget
  obtain ⟨front, back, hold, hnew, hfront⟩ :=
    exists_filesIn_putPath hwithin.entriesUnder?_path [] name (.file contents)
  rw [files, files, hold, Disk.put, hnew, filesOf]
  apply rewritten_of_parts
  · intro f hf
    rcases hplace with hfree | ⟨old, hfile⟩
    · simp [hfree] at hf
    · rw [hfile, Option.toList_some, List.flatMap_singleton, filesOf, List.mem_singleton] at hf
      rw [hf, List.nil_append]
  · intro f hf heq
    have hsame : [] ++ trail.path ++ [name] = f.1 := by rw [heq, List.nil_append]
    exact hfront f hf (hsame ▸ List.prefix_rfl)

end Disk

end ScriptTypings.File
