import ScriptTypings.File.Disk
import Mathlib.Data.List.Basic

/-!
# Walks on a disk

A walk takes the steps of a path one by one: it stays, goes up, enters a directory, follows a link,
or ends at a file or at a free name. `Walks` says this by one rule for each kind of step, and
it holds exactly where the walk of the disk succeeds. What a walk meets, it meets on the disk: its
trail consists of directories that stand one in the other.
-/

namespace ScriptTypings.File

/-- The two sorts of links that can be followed. -/
theorem Disk.linkStart?_eq_some_iff {d : Disk} {trail start : Trail} {target : String}
    {path : List String} :
    d.linkStart? trail target = some (start, path) ↔
      (target.toList.head? = some '/' ∧ ∃ inner, d.below target = some inner ∧ [] = start ∧
        stepsWithSlash inner = path) ∨
      (target.toList.head? ≠ some '/' ∧ trail = start ∧ stepsWithSlash target = path) := by
  rw [linkStart?]
  by_cases habsolute : target.toList.head? = some '/'
  · simp [habsolute]
  · simp [habsolute]

/-- A step that is looked up among the entries of the directory in which the walk stands. -/
structure LooksUp (purpose : Purpose) (step : String) (rest : List String) : Prop where
  not_stay : step ≠ "." ∧ step ≠ ""
  not_up : step ≠ ".."
  no_slash : ¬ (purpose = .write ∧ rest = [""])
  short : isTooLong step = false

/-- The walks that end at a place, with the number of links that may be followed, the trail that is
behind and the steps that are ahead. -/
inductive Walks (d : Disk) (purpose : Purpose) : Nat → Trail → List String → Place → Prop
  | done {links : Nat} {trail : Trail} : Walks d purpose links trail [] (.directory trail links)
  | stay {links : Nat} {trail : Trail} {step : String} {rest : List String} {place : Place}
      (here : step = "." ∨ step = "") (tail : Walks d purpose links trail rest place) :
      Walks d purpose links trail (step :: rest) place
  | up {links : Nat} {inner : String × List (String × Entry)} {outer : Trail}
      {rest : List String} {place : Place} (tail : Walks d purpose links outer rest place) :
      Walks d purpose links (inner :: outer) (".." :: rest) place
  | enter {links : Nat} {trail : Trail} {step : String} {rest : List String} {place : Place}
      {entries : List (String × Entry)} (looks : LooksUp purpose step rest)
      (found : (d.entriesAt trail).lookup step = some (.directory entries))
      (tail : Walks d purpose links ((step, entries) :: trail) rest place) :
      Walks d purpose links trail (step :: rest) place
  | follow {links : Nat} {trail : Trail} {step : String} {rest : List String} {place : Place}
      {target : String} {start : Trail} {path : List String} (looks : LooksUp purpose step rest)
      (found : (d.entriesAt trail).lookup step = some (.link target))
      (starts : d.linkStart? trail target = some (start, path))
      (tail : Walks d purpose links start (path ++ rest) place) :
      Walks d purpose (links + 1) trail (step :: rest) place
  | file {links : Nat} {trail : Trail} {step : String} {contents : ByteArray}
      (looks : LooksUp purpose step [])
      (found : (d.entriesAt trail).lookup step = some (.file contents)) :
      Walks d purpose links trail [step] (.file trail step contents links)
  | absent {links : Nat} {trail : Trail} {step : String} (looks : LooksUp purpose step [])
      (found : (d.entriesAt trail).lookup step = none) :
      Walks d purpose links trail [step] (.absent trail step)

section Walks

variable {d : Disk} {purpose : Purpose} {links : Nat} {trail : Trail} {path : List String}
  {place : Place}

theorem walks_of_walk (h : d.walk purpose links trail path = .ok place) :
    Walks d purpose links trail path place := by
  fun_induction d.walk purpose links trail path with
  | case1 =>
      cases h
      exact .done
  | case2 links trail step rest hstay ih => exact .stay (by simpa using hstay) (ih h)
  | case3 => cases h
  | case4 links rest inner outer _ ih => exact .up (ih h)
  | case5 => cases h
  | case6 => cases h
  | case7 links trail step hstay hup hshort hfound hslash =>
      cases h
      exact .absent ⟨by simpa using hstay, hup, hslash, by simpa using hshort⟩ hfound
  | case8 => cases h
  | case9 links trail step rest hstay hup hslash hshort entries hfound ih =>
      exact .enter ⟨by simpa using hstay, hup, hslash, by simpa using hshort⟩ hfound (ih h)
  | case10 links trail step hstay hup hshort contents hfound hslash =>
      cases h
      exact .file ⟨by simpa using hstay, hup, hslash, by simpa using hshort⟩ hfound
  | case11 => cases h
  | case12 => cases h
  | case13 => cases h
  | case14 trail step rest hstay hup hslash hshort target hfound links start path hstarts ih =>
      exact .follow ⟨by simpa using hstay, hup, hslash, by simpa using hshort⟩ hfound hstarts (ih h)

theorem walk_of_walks (h : Walks d purpose links trail path place) :
    d.walk purpose links trail path = .ok place := by
  induction h with
  | done => rw [Disk.walk]
  | stay here _ ih =>
      unfold Disk.walk
      rw [if_pos (by simpa using here), ih]
  | up _ ih =>
      unfold Disk.walk
      rw [if_neg (by simp), if_pos rfl]
      exact ih
  | enter looks found _ ih =>
      unfold Disk.walk
      rw [if_neg (by simpa using looks.not_stay), if_neg looks.not_up, if_neg looks.no_slash,
        if_neg (by simp [looks.short]), found]
      exact ih
  | follow looks found starts _ ih =>
      unfold Disk.walk
      rw [if_neg (by simpa using looks.not_stay), if_neg looks.not_up, if_neg looks.no_slash,
        if_neg (by simp [looks.short]), found]
      simp only [starts, ih]
  | file looks found =>
      unfold Disk.walk
      rw [if_neg (by simpa using looks.not_stay), if_neg looks.not_up, if_neg looks.no_slash,
        if_neg (by simp [looks.short]), found]
      simp
  | absent looks found =>
      unfold Disk.walk
      rw [if_neg (by simpa using looks.not_stay), if_neg looks.not_up, if_neg looks.no_slash,
        if_neg (by simp [looks.short]), found]
      simp

/-- The rules give exactly the walks that succeed. -/
theorem walk_eq_ok_iff :
    d.walk purpose links trail path = .ok place ↔ Walks d purpose links trail path place :=
  ⟨walks_of_walk, walk_of_walks⟩

/-- Looking needs less than writing: it does not matter what is ahead. -/
theorem LooksUp.look {step : String} {rest other : List String} (h : LooksUp purpose step rest) :
    LooksUp .look step other :=
  ⟨h.not_stay, h.not_up, by simp, h.short⟩

theorem Walks.look (h : Walks d purpose links trail path place) :
    Walks d .look links trail path place := by
  induction h with
  | done => exact .done
  | stay here _ ih => exact .stay here ih
  | up _ ih => exact .up ih
  | enter looks found _ ih => exact .enter looks.look found ih
  | follow looks found starts _ ih => exact .follow looks.look found starts ih
  | file looks found => exact .file looks.look found
  | absent looks found => exact .absent looks.look found

end Walks

/-! ## Walks to a directory -/

section Directories

variable {d : Disk} {links last : Nat} {trail found : Trail} {front back : List String}

/-- A walk to a directory can be broken off anywhere, and stands in a directory there. -/
theorem Walks.split (h : Walks d .look links trail (front ++ back) (.directory found last)) :
    ∃ middle left, Walks d .look links trail front (.directory middle left) ∧
      Walks d .look left middle back (.directory found last) := by
  generalize hpath : front ++ back = path at h
  generalize hplace : Place.directory found last = place at h
  induction h generalizing front with
  | done =>
      obtain ⟨rfl, rfl⟩ := List.append_eq_nil_iff.mp hpath
      cases hplace
      exact ⟨_, _, .done, .done⟩
  | stay here tail ih =>
      cases front with
      | nil =>
          subst hpath hplace
          exact ⟨_, _, .done, .stay here tail⟩
      | cons step front =>
          obtain ⟨rfl, rfl⟩ := List.cons.inj hpath
          obtain ⟨middle, left, hfront, hback⟩ := ih rfl hplace
          exact ⟨middle, left, .stay here hfront, hback⟩
  | up tail ih =>
      cases front with
      | nil =>
          subst hpath hplace
          exact ⟨_, _, .done, .up tail⟩
      | cons step front =>
          obtain ⟨rfl, rfl⟩ := List.cons.inj hpath
          obtain ⟨middle, left, hfront, hback⟩ := ih rfl hplace
          exact ⟨middle, left, .up hfront, hback⟩
  | enter looks found tail ih =>
      cases front with
      | nil =>
          subst hpath hplace
          exact ⟨_, _, .done, .enter looks found tail⟩
      | cons step front =>
          obtain ⟨rfl, rfl⟩ := List.cons.inj hpath
          obtain ⟨middle, left, hfront, hback⟩ := ih rfl hplace
          exact ⟨middle, left, .enter looks.look found hfront, hback⟩
  | follow looks found starts tail ih =>
      cases front with
      | nil =>
          subst hpath hplace
          exact ⟨_, _, .done, .follow looks found starts tail⟩
      | cons step front =>
          obtain ⟨rfl, rfl⟩ := List.cons.inj hpath
          obtain ⟨middle, left, hfront, hback⟩ := ih (List.append_assoc _ front back) hplace
          exact ⟨middle, left, .follow looks.look found starts hfront, hback⟩
  | file => cases hplace
  | absent => cases hplace

/-- A walk that has reached a directory goes on from there. -/
theorem Walks.append {place : Place}
    (hfront : Walks d .look links trail front (.directory found last))
    (hback : Walks d .look last found back place) :
    Walks d .look links trail (front ++ back) place := by
  generalize hplace : Place.directory found last = middle at hfront
  induction hfront with
  | done =>
      obtain ⟨rfl, rfl⟩ := Place.directory.inj hplace
      exact hback
  | stay here _ ih => exact .stay here (ih hplace)
  | up _ ih => exact .up (ih hplace)
  | enter looks found _ ih => exact .enter looks.look found (ih hplace)
  | follow looks found starts _ ih =>
      have htail := ih hplace
      rw [List.append_assoc] at htail
      exact .follow looks.look found starts htail
  | file => cases hplace
  | absent => cases hplace

/-- The step `.` makes no difference to a walk to a directory. -/
theorem Walks.filter_dots {path : List String}
    (h : Walks d .look links trail path (.directory found last)) :
    Walks d .look links trail (path.filter (· ≠ ".")) (.directory found last) := by
  induction path generalizing links trail with
  | nil => exact h
  | cons step rest ih =>
      rw [← List.singleton_append] at h
      obtain ⟨middle, left, hstep, hrest⟩ := h.split
      by_cases hdot : step = "."
      · have hstay : d.walk .look links trail [step] = .ok (.directory trail links) :=
          walk_of_walks (.stay (Or.inl hdot) .done)
        rw [walk_of_walks hstep, Except.ok.injEq, Place.directory.injEq] at hstay
        obtain ⟨rfl, rfl⟩ := hstay
        simpa [hdot] using ih hrest
      · simpa [hdot] using hstep.append (ih hrest)

end Directories

namespace Disk

variable {d : Disk} {trail : Trail}

theorem locateDirectory_eq_ok_iff {path : List String} :
    d.locateDirectory path = .ok trail ↔
      ∃ left, Walks d .look linkLimit [] path (.directory trail left) := by
  simp only [← walk_eq_ok_iff, locateDirectory, locate]
  split <;> simp_all

/-- A path is not refused and leads to the directory at the end of a trail. -/
def LeadsTo (d : Disk) (path : String) (trail : Trail) : Prop :=
  ∃ steps left, d.stepsBelow? path = some steps ∧
    Walks d .look linkLimit [] steps (.directory trail left)

theorem directory?_eq_some_iff {path : String} {found : String × List (String × Tree)} :
    d.directory? path = some found ↔
      ∃ trail, d.LeadsTo path trail ∧
        (joinAll d.top trail.path, d.viewAll linkLimit trail (d.entriesAt trail)) = found := by
  rw [directory?]
  constructor
  · intro h
    split at h
    · next trail hlocated =>
        obtain ⟨steps, hsteps, hdirectory⟩ := Option.map_eq_some_iff.mp hlocated
        obtain ⟨left, hwalks⟩ := locateDirectory_eq_ok_iff.mp hdirectory
        exact ⟨trail, ⟨steps, left, hsteps, hwalks⟩, Option.some.inj h⟩
    · cases h
  · rintro ⟨trail, ⟨steps, left, hsteps, hwalks⟩, rfl⟩
    rw [hsteps, Option.map_some, locateDirectory_eq_ok_iff.mpr ⟨left, hwalks⟩]

end Disk

/-! ## Trails on the disk -/

/-- The directories of a trail stand on the disk, each in the one before. -/
inductive Trail.Within (d : Disk) : Trail → Prop
  | top : Trail.Within d []
  | inside {outer : Trail} {name : String} {entries : List (String × Entry)}
      (above : Trail.Within d outer)
      (found : (d.entriesAt outer).lookup name = some (.directory entries)) :
      Trail.Within d ((name, entries) :: outer)

/-- What a place says about the disk is so. -/
def Place.Within (d : Disk) : Place → Prop
  | .directory trail _ => trail.Within d
  | .file trail name contents _ =>
      trail.Within d ∧ (d.entriesAt trail).lookup name = some (.file contents)
  | .absent trail name => trail.Within d ∧ (d.entriesAt trail).lookup name = none

/-- A link is followed from a trail on the disk. -/
theorem Trail.Within.linkStart {d : Disk} {trail start : Trail} {target : String}
    {path : List String} (h : trail.Within d)
    (hstart : d.linkStart? trail target = some (start, path)) : start.Within d := by
  obtain ⟨-, inner, -, rfl, -⟩ | ⟨-, rfl, -⟩ := Disk.linkStart?_eq_some_iff.mp hstart
  · exact .top
  · exact h

theorem Walks.within {d : Disk} {purpose : Purpose} {links : Nat} {trail : Trail}
    {path : List String} {place : Place} (h : Walks d purpose links trail path place)
    (htrail : trail.Within d) : place.Within d := by
  induction h with
  | done => exact htrail
  | stay _ _ ih => exact ih htrail
  | up _ ih =>
      cases htrail with
      | inside above _ => exact ih above
  | enter _ found _ ih => exact ih (.inside htrail found)
  | follow _ _ starts _ ih => exact ih (htrail.linkStart starts)
  | file _ found => exact ⟨htrail, found⟩
  | absent _ found => exact ⟨htrail, found⟩

end ScriptTypings.File
