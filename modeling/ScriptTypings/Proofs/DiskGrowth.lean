import ScriptTypings.Proofs.DiskWalk
import Mathlib.Data.List.Forall2

/-!
# Growing disks

Making directories and writing files lets a disk grow: entries stay where they are, directories gain
entries behind those they have, and files of certain names appear or get other contents. A walk that
reaches a directory reaches it again after the disk has grown, by the same names. What was put under
a name is found there.
-/

namespace ScriptTypings.File

/-! ## Entries -/

section Entries

variable {files : String → Prop}

/-- Entries without links: directories of such entries, and files of the names. -/
inductive Plain (files : String → Prop) : List (String × Entry) → Prop
  | nil : Plain files []
  | file {name : String} {rest : List (String × Entry)} (allowed : files name)
      (contents : ByteArray) (behind : Plain files rest) :
      Plain files ((name, .file contents) :: rest)
  | directory {name : String} {inner rest : List (String × Entry)} (within : Plain files inner)
      (behind : Plain files rest) : Plain files ((name, .directory inner) :: rest)

/-- The entries of a directory before and after it has grown. -/
inductive Grown (files : String → Prop) : List (String × Entry) → List (String × Entry) → Prop
  | fresh {added : List (String × Entry)} (new : Plain files added) : Grown files [] added
  | kept (name : String) (e : Entry) {xs ys : List (String × Entry)} (behind : Grown files xs ys) :
      Grown files ((name, e) :: xs) ((name, e) :: ys)
  | inside (name : String) {xs ys inner inner' : List (String × Entry)}
      (within : Grown files inner inner') (behind : Grown files xs ys) :
      Grown files ((name, .directory inner) :: xs) ((name, .directory inner') :: ys)
  | written {name : String} {xs ys : List (String × Entry)} (allowed : files name)
      (old new : ByteArray) (behind : Grown files xs ys) :
      Grown files ((name, .file old) :: xs) ((name, .file new) :: ys)

theorem Grown.refl (entries : List (String × Entry)) : Grown files entries entries := by
  induction entries with
  | nil => exact .fresh .nil
  | cons entry rest ih => exact .kept entry.1 entry.2 ih

theorem Plain.mono {files' : String → Prop} {xs : List (String × Entry)} (h : Plain files xs)
    (himp : ∀ name, files name → files' name) : Plain files' xs := by
  induction h with
  | nil => exact .nil
  | file allowed contents _ ih => exact .file (himp _ allowed) contents ih
  | directory _ _ ihWithin ih => exact .directory ihWithin ih

/-- No link appears in what has grown. -/
theorem Plain.grown {files' : String → Prop} {xs ys : List (String × Entry)} (h : Plain files' xs)
    (hxy : Grown files xs ys) (himp : ∀ name, files name → files' name) : Plain files' ys := by
  induction h generalizing ys with
  | nil =>
      cases hxy with
      | fresh new => exact new.mono himp
  | file allowed contents _ ih =>
      cases hxy with
      | kept _ _ behind => exact .file allowed contents (ih behind)
      | written _ _ new behind => exact .file allowed new (ih behind)
  | directory within _ ihWithin ih =>
      cases hxy with
      | kept _ _ behind => exact .directory within (ih behind)
      | inside _ within behind => exact .directory (ihWithin within) (ih behind)

theorem Grown.trans {xs ys zs : List (String × Entry)} (hxy : Grown files xs ys)
    (hyz : Grown files ys zs) : Grown files xs zs := by
  induction hxy generalizing zs with
  | fresh new => exact .fresh (new.grown hyz fun _ => id)
  | kept name e _ ih =>
      cases hyz with
      | kept _ _ behind => exact .kept name e (ih behind)
      | inside _ within behind => exact .inside name within (ih behind)
      | written allowed old new behind => exact .written allowed old new (ih behind)
  | inside name within _ ihWithin ih =>
      cases hyz with
      | kept _ _ behind => exact .inside name within (ih behind)
      | inside _ within behind => exact .inside name (ihWithin within) (ih behind)
  | written allowed old _ _ ih =>
      cases hyz with
      | kept _ _ behind => exact .written allowed old _ (ih behind)
      | written _ _ new behind => exact .written allowed old new (ih behind)

variable {xs ys : List (String × Entry)} {name : String}

/-- An entry is found again, as it was or grown. -/
theorem Grown.lookup (h : Grown files xs ys) {e : Entry} (hx : xs.lookup name = some e) :
    ∃ e', ys.lookup name = some e' ∧ Grown files [(name, e)] [(name, e')] := by
  have hnil : Grown files [] [] := .fresh .nil
  induction h with
  | fresh => cases hx
  | kept other e _ ih =>
      rw [List.lookup_cons] at hx ⊢
      split at hx
      · cases hx
        exact ⟨e, rfl, .kept name e hnil⟩
      · exact ih hx
  | inside other within _ _ ih =>
      rw [List.lookup_cons] at hx ⊢
      split at hx
      · cases hx
        exact ⟨_, rfl, .inside name within hnil⟩
      · exact ih hx
  | @written other _ _ allowed old new _ ih =>
      rw [List.lookup_cons] at hx ⊢
      split at hx
      · next heq =>
          cases hx
          obtain rfl : name = other := by simpa using heq
          exact ⟨_, rfl, .written allowed old new hnil⟩
      · exact ih hx

theorem Grown.lookup_directory (h : Grown files xs ys) {inner : List (String × Entry)}
    (hx : xs.lookup name = some (.directory inner)) :
    ∃ inner', ys.lookup name = some (.directory inner') ∧ Grown files inner inner' := by
  obtain ⟨e, hy, hgrown⟩ := h.lookup hx
  cases hgrown with
  | kept => exact ⟨inner, hy, .refl inner⟩
  | inside _ within _ => exact ⟨_, hy, within⟩

theorem Grown.lookup_link (h : Grown files xs ys) {target : String}
    (hx : xs.lookup name = some (.link target)) : ys.lookup name = some (.link target) := by
  obtain ⟨e, hy, hgrown⟩ := h.lookup hx
  cases hgrown with
  | kept => exact hy

theorem Grown.lookup_file (h : Grown files xs ys) {contents : ByteArray}
    (hx : xs.lookup name = some (.file contents)) :
    ∃ contents', ys.lookup name = some (.file contents') := by
  obtain ⟨e, hy, hgrown⟩ := h.lookup hx
  cases hgrown with
  | kept => exact ⟨contents, hy⟩
  | written _ _ new _ => exact ⟨new, hy⟩

/-- What is found among entries without links is such an entry itself. -/
theorem Plain.lookup (h : Plain files xs) {e : Entry} (hx : xs.lookup name = some e) :
    Plain files [(name, e)] := by
  induction h with
  | nil => cases hx
  | @file other _ allowed contents _ ih =>
      rw [List.lookup_cons] at hx
      split at hx
      · next heq =>
          cases hx
          obtain rfl : name = other := by simpa using heq
          exact .file allowed contents .nil
      · exact ih hx
  | directory within _ _ ih =>
      rw [List.lookup_cons] at hx
      split at hx
      · cases hx
        exact .directory within .nil
      · exact ih hx

end Entries

/-! ## Disks -/

namespace Disk

/-- A disk before and after it has grown. Its top directory keeps its name. -/
structure Grown (files : String → Prop) (d d' : Disk) : Prop where
  top_eq : d'.top = d.top
  entries : File.Grown files d.entries d'.entries

variable {files : String → Prop} {d d' d'' : Disk}

theorem Grown.refl (d : Disk) : d.Grown files d :=
  ⟨rfl, .refl _⟩

theorem Grown.trans (h : d.Grown files d') (h' : d'.Grown files d'') : d.Grown files d'' :=
  ⟨h'.top_eq.trans h.top_eq, h.entries.trans h'.entries⟩

theorem Grown.below (h : d.Grown files d') (path : String) : d'.below path = d.below path := by
  rw [Disk.below, Disk.below, h.top_eq]

end Disk

/-! ## Walks on a grown disk -/

section Walks

variable {files : String → Prop} {d d' : Disk}

/-- The same names, with the entries of each directory grown. -/
def Trail.Grown (files : String → Prop) : Trail → Trail → Prop :=
  List.Forall₂ fun a b => a.1 = b.1 ∧ File.Grown files a.2 b.2

theorem Trail.Grown.path_eq {trail trail' : Trail} (h : Trail.Grown files trail trail') :
    trail'.path = trail.path := by
  have hnames : trail'.map Prod.fst = trail.map Prod.fst := by
    induction h with
    | nil => rfl
    | cons hab _ ih => rw [List.map_cons, List.map_cons, hab.1, ih]
  rw [Trail.path, Trail.path, hnames]

theorem Trail.Grown.entriesAt {trail trail' : Trail} (h : Trail.Grown files trail trail')
    (hd : d.Grown files d') : File.Grown files (d.entriesAt trail) (d'.entriesAt trail') := by
  cases h with
  | nil => exact hd.entries
  | cons hab _ => exact hab.2

/-- A link is followed by the same steps, from the same names or from the top directory. -/
theorem Trail.Grown.linkStart {trail trail' start : Trail} {target : String} {path : List String}
    (h : Trail.Grown files trail trail') (hd : d.Grown files d')
    (hstart : d.linkStart? trail target = some (start, path)) :
    ∃ start', d'.linkStart? trail' target = some (start', path) ∧
      Trail.Grown files start start' := by
  obtain ⟨habsolute, inner, hinner, rfl, hpath⟩ | ⟨hrelative, rfl, hpath⟩ :=
    Disk.linkStart?_eq_some_iff.mp hstart
  · rw [← hd.below] at hinner
    exact ⟨[], Disk.linkStart?_eq_some_iff.mpr (Or.inl ⟨habsolute, inner, hinner, rfl, hpath⟩),
      .nil⟩
  · exact ⟨trail', Disk.linkStart?_eq_some_iff.mpr (Or.inr ⟨hrelative, rfl, hpath⟩), h⟩

/-- What a walk to a place has become on a grown disk: it ends in the same directory, or it comes to
the same last name and ends at the file that is now there. -/
def Place.Again (files : String → Prop) (d' : Disk) (walks : Place → Prop) : Place → Prop
  | .directory trail links =>
      ∃ trail', Trail.Grown files trail trail' ∧ walks (.directory trail' links)
  | .file trail name _ _ | .absent trail name =>
      ∃ trail' links, Trail.Grown files trail trail' ∧ trail'.Within d' ∧
        ∀ contents, (d'.entriesAt trail').lookup name = some (.file contents) →
          walks (.file trail' name contents links)

theorem Place.Again.imp {walks walks' : Place → Prop} {place : Place}
    (h : place.Again files d' walks) (himp : ∀ p, walks p → walks' p) :
    place.Again files d' walks' := by
  cases place with
  | directory trail links =>
      obtain ⟨trail', hgrown, hwalks⟩ := h
      exact ⟨trail', hgrown, himp _ hwalks⟩
  | file trail name contents links =>
      obtain ⟨trail', left, hgrown, hwithin, hwalks⟩ := h
      exact ⟨trail', left, hgrown, hwithin, fun c hc => himp _ (hwalks c hc)⟩
  | absent trail name =>
      obtain ⟨trail', left, hgrown, hwithin, hwalks⟩ := h
      exact ⟨trail', left, hgrown, hwithin, fun c hc => himp _ (hwalks c hc)⟩

/-- A walk takes the same steps on a grown disk. -/
theorem Walks.grown {purpose : Purpose} {links : Nat} {trail trail' : Trail} {path : List String}
    {place : Place} (h : Walks d purpose links trail path place)
    (hd : d.Grown files d') (htrail : Trail.Grown files trail trail')
    (hwithin : trail'.Within d') :
    place.Again files d' (Walks d' purpose links trail' path) := by
  induction h generalizing trail' with
  | done => exact ⟨trail', htrail, .done⟩
  | stay here _ ih => exact (ih htrail hwithin).imp fun _ => .stay here
  | up _ ih =>
      cases htrail with
      | cons _ houter =>
          cases hwithin with
          | inside above _ => exact (ih houter above).imp fun _ => .up
  | @enter _ trail step _ _ inner looks found _ ih =>
      obtain ⟨inner', hfound, hinner⟩ := (htrail.entriesAt hd).lookup_directory found
      have hentered : Trail.Grown files ((step, inner) :: trail) ((step, inner') :: trail') :=
        .cons ⟨rfl, hinner⟩ htrail
      exact (ih hentered (.inside hwithin hfound)).imp fun _ => .enter looks hfound
  | follow looks found starts _ ih =>
      have hfound := (htrail.entriesAt hd).lookup_link found
      obtain ⟨start', hstarts, hstart⟩ := htrail.linkStart hd starts
      exact (ih hstart (hwithin.linkStart hstarts)).imp fun _ => .follow looks hfound hstarts
  | @file links _ step _ looks _ =>
      exact ⟨trail', links, htrail, hwithin, fun c hc => .file looks hc⟩
  | @absent links _ step looks _ =>
      exact ⟨trail', links, htrail, hwithin, fun c hc => .file looks hc⟩

end Walks

/-! ## Putting an entry -/

section Putting

variable {files : String → Prop} {entries inner : List (String × Entry)} {name : String}
  {e : Entry} {path : List String}

theorem lookup_putName (name : String) (e : Entry) (entries : List (String × Entry)) :
    (putName name e entries).lookup name = some e := by
  induction entries with
  | nil => simp [putName]
  | cons entry rest ih =>
      obtain ⟨other, old⟩ := entry
      rw [putName]
      split
      · simp
      · next hne =>
          rw [List.lookup_cons, beq_false_of_ne (Ne.symm hne)]
          exact ih

/-- Putting what is there changes nothing. -/
theorem putName_eq_self (h : entries.lookup name = some e) : putName name e entries = entries := by
  induction entries with
  | nil => cases h
  | cons entry rest ih =>
      obtain ⟨other, old⟩ := entry
      rw [putName]
      split
      · next heq =>
          subst heq
          simp only [List.lookup_cons, beq_self_eq_true, Option.some.injEq] at h
          rw [h]
      · next hne =>
          rw [List.lookup_cons, beq_false_of_ne (Ne.symm hne)] at h
          rw [ih h]

/-- An entry of a new name joins the others; one that replaces another must have grown from it. -/
theorem grown_putName
    (h : (entries.lookup name = none ∧ Plain files [(name, e)]) ∨
      ∃ old, entries.lookup name = some old ∧ Grown files [(name, old)] [(name, e)]) :
    Grown files entries (putName name e entries) := by
  induction entries with
  | nil =>
      rcases h with ⟨-, hnew⟩ | ⟨old, hold, -⟩
      · exact .fresh hnew
      · cases hold
  | cons entry rest ih =>
      obtain ⟨other, old⟩ := entry
      rw [putName]
      split
      · next heq =>
          subst heq
          rcases h with ⟨hnone, -⟩ | ⟨old', hold, hgrown⟩
          · simp at hnone
          · obtain rfl : old = old' := by simpa using hold
            have hrest : Grown files rest rest := .refl rest
            cases hgrown with
            | kept _ _ _ => exact .kept other _ hrest
            | inside _ within _ => exact .inside other within hrest
            | written allowed old new _ => exact .written allowed old new hrest
      · next hne =>
          rw [List.lookup_cons, beq_false_of_ne (Ne.symm hne)] at h
          exact .kept other old (ih h)

/-- The entries of the directory at a path of names. -/
def entriesUnder? : List String → List (String × Entry) → Option (List (String × Entry))
  | [], entries => some entries
  | name :: rest, entries =>
      match entries.lookup name with
      | some (.directory inner) => entriesUnder? rest inner
      | _ => none

theorem entriesUnder?_cons (name : String) (rest : List String) :
    entriesUnder? (name :: rest) entries = some inner ↔
      ∃ middle, entries.lookup name = some (.directory middle) ∧
        entriesUnder? rest middle = some inner := by
  rw [entriesUnder?]
  split
  · next middle hfound => simp [hfound]
  · next hnot =>
      constructor
      · intro h
        cases h
      · rintro ⟨middle, hfound, -⟩
        exact absurd hfound (hnot middle)

/-- The directory of a name inside the one at a path. -/
theorem entriesUnder?_concat {middle : List (String × Entry)}
    (h : entriesUnder? path entries = some middle)
    (hfound : middle.lookup name = some (.directory inner)) :
    entriesUnder? (path ++ [name]) entries = some inner := by
  induction path generalizing entries with
  | nil =>
      cases h
      exact (entriesUnder?_cons name []).mpr ⟨inner, hfound, rfl⟩
  | cons first rest ih =>
      obtain ⟨next, hfirst, hrest⟩ := (entriesUnder?_cons first rest).mp h
      exact (entriesUnder?_cons first _).mpr ⟨next, hfirst, ih hrest⟩

theorem putPath_cons {middle : List (String × Entry)} (hpath : path ≠ [])
    (hfound : entries.lookup name = some (.directory middle)) :
    putPath e (name :: path) entries =
      putName name (.directory (putPath e path middle)) entries := by
  cases path with
  | nil => exact absurd rfl hpath
  | cons next rest => rw [putPath, hfound]

/-- Behind the directories of its path, an entry is put by its name. -/
theorem entriesUnder?_putPath (h : entriesUnder? path entries = some inner) :
    entriesUnder? path (putPath e (path ++ [name]) entries) = some (putName name e inner) := by
  induction path generalizing entries with
  | nil =>
      cases h
      rfl
  | cons first rest ih =>
      obtain ⟨middle, hfound, hrest⟩ := (entriesUnder?_cons first rest).mp h
      rw [List.cons_append, putPath_cons (by simp) hfound, entriesUnder?_cons]
      exact ⟨_, lookup_putName _ _ _, ih hrest⟩

theorem grown_putPath (h : entriesUnder? path entries = some inner)
    (hinner : Grown files inner (putName name e inner)) :
    Grown files entries (putPath e (path ++ [name]) entries) := by
  induction path generalizing entries with
  | nil =>
      cases h
      exact hinner
  | cons first rest ih =>
      obtain ⟨middle, hfound, hrest⟩ := (entriesUnder?_cons first rest).mp h
      rw [List.cons_append, putPath_cons (by simp) hfound]
      exact grown_putName (Or.inr ⟨_, hfound, .inside first (ih hrest) (.refl [])⟩)

theorem putPath_eq_self (h : entriesUnder? path entries = some inner)
    (hinner : inner.lookup name = some e) : putPath e (path ++ [name]) entries = entries := by
  induction path generalizing entries with
  | nil =>
      cases h
      exact putName_eq_self hinner
  | cons first rest ih =>
      obtain ⟨middle, hfound, hrest⟩ := (entriesUnder?_cons first rest).mp h
      rw [List.cons_append, putPath_cons (by simp) hfound, ih hrest]
      exact putName_eq_self hfound

end Putting

/-! ## Putting an entry on a disk -/

namespace Trail.Within

variable {files : String → Prop} {d : Disk} {trail trail' : Trail} {name : String} {e : Entry}

/-- A trail on the disk leads by its names to its entries. -/
theorem entriesUnder?_path (h : trail.Within d) :
    entriesUnder? trail.path d.entries = some (d.entriesAt trail) := by
  induction h with
  | top => rfl
  | inside _ found ih =>
      rw [Trail.path, List.map_cons, List.reverse_cons]
      exact entriesUnder?_concat ih found

theorem grown_put (h : trail.Within d)
    (hgrown : File.Grown files (d.entriesAt trail) (putName name e (d.entriesAt trail))) :
    File.Grown files d.entries (d.put (trail.path ++ [name]) e).entries :=
  grown_putPath h.entriesUnder?_path hgrown

/-- The entry is found where it was put. -/
theorem lookup_put (h : trail.Within d)
    (h' : trail'.Within (d.put (trail.path ++ [name]) e)) (hpath : trail'.path = trail.path) :
    ((d.put (trail.path ++ [name]) e).entriesAt trail').lookup name = some e := by
  have hput : entriesUnder? trail.path (d.put (trail.path ++ [name]) e).entries =
      some (putName name e (d.entriesAt trail)) := entriesUnder?_putPath h.entriesUnder?_path
  have hunder := h'.entriesUnder?_path
  rw [hpath, hput, Option.some.injEq] at hunder
  rw [← hunder]
  exact lookup_putName _ _ _

theorem put_eq_self (h : trail.Within d) (hfound : (d.entriesAt trail).lookup name = some e) :
    d.put (trail.path ++ [name]) e = d := by
  rw [Disk.put, putPath_eq_self h.entriesUnder?_path hfound]

end Trail.Within

end ScriptTypings.File
