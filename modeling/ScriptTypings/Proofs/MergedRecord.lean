import ScriptTypings.Extraction
import Mathlib.Data.List.TakeWhile

/-!
# The record of a list of facts

A record is put together from two classes, one for the members before the first `class_name` and
one for those after it. The split leaves no trace: the merged record has the members of all facts
in their order, the name and the base class of the first `class_name`, and the base class of the
file where that one brings none along.
-/

namespace ScriptTypings

namespace Fact

/-- The name of a `class_name` statement with the base class it brings along. -/
def asHead : Fact → Option (String × Option String)
  | className name base => some (name, base)
  | _ => none

/-- Facts that make a record by themselves; an inner class does not. -/
def isRecorded : Fact → Bool
  | innerClass _ => false
  | _ => true

theorem asHead_eq_none_iff (f : Fact) : f.asHead = none ↔ f.isClassName = false := by
  cases f <;> simp [asHead, isClassName]

/-- A `class_name` is neither a member nor a base class of the file. -/
theorem views_of_isClassName {f : Fact} (h : f.isClassName = true) :
    f.asBase = none ∧ f.asExport = none ∧ f.asVariable = none ∧ f.asMethod = none := by
  cases f with
  | className name base => exact ⟨rfl, rfl, rfl, rfl⟩
  | _ => cases h

/-- What is no member is not read as one. -/
theorem views_of_not_isMember {f : Fact} (h : f.isMember = false) :
    f.asExport = none ∧ f.asVariable = none ∧ f.asMethod = none := by
  cases f with
  | field exported binding => cases h
  | method m => cases h
  | _ => exact ⟨rfl, rfl, rfl⟩

end Fact

/-- The record of a list of facts, read off it as a whole. -/
def recordFrom (facts : List Fact) : ClassRecord where
  name := (facts.findSome? Fact.asHead).map Prod.fst
  extendsClass := (facts.findSome? Fact.asHead).bind Prod.snd <|> facts.findSome? Fact.asBase
  exports := facts.filterMap Fact.asExport
  fields := facts.filterMap Fact.asVariable
  methods := facts.filterMap Fact.asMethod

/-- Facts without members make a class without members. -/
theorem ClassRecord.ofMembers_eq_empty {facts : List Fact} (h : facts.any Fact.isMember = false) :
    ClassRecord.ofMembers facts = {} := by
  have hnone : ∀ f ∈ facts, f.asExport = none ∧ f.asVariable = none ∧ f.asMethod = none := by
    intro f hf
    exact Fact.views_of_not_isMember (Bool.eq_false_iff.mpr (List.any_eq_false.mp h f hf))
  simp only [ClassRecord.ofMembers, ClassRecord.mk.injEq, List.filterMap_eq_nil_iff, true_and]
  exact ⟨fun f hf => (hnone f hf).1, fun f hf => (hnone f hf).2.1, fun f hf => (hnone f hf).2.2⟩

/-- Facts are either without a `class_name` or split at their first one. -/
theorem split_at_className (facts : List Fact) :
    (∀ f ∈ facts, f.isClassName = false) ∨
      ∃ before name base rest, facts = before ++ .className name base :: rest ∧
        ∀ f ∈ before, f.isClassName = false := by
  induction facts with
  | nil => simp
  | cons f facts ih =>
      cases hf : f.isClassName with
      | true =>
          obtain ⟨name, base, rfl⟩ : ∃ name base, f = .className name base := by
            cases f <;> simp_all [Fact.isClassName]
          exact Or.inr ⟨[], name, base, facts, rfl, by simp⟩
      | false =>
          rcases ih with ih | ⟨before, name, base, rest, rfl, ih⟩
          · exact Or.inl (by simpa [hf] using ih)
          · exact Or.inr ⟨f :: before, name, base, rest, rfl, by simpa [hf] using ih⟩

/-- Facts without a `class_name` have no head. -/
theorem findSome?_asHead_eq_none {facts : List Fact} (h : ∀ f ∈ facts, f.isClassName = false) :
    facts.findSome? Fact.asHead = none :=
  List.findSome?_eq_none_iff.mpr fun f hf => (Fact.asHead_eq_none_iff f).mpr (h f hf)

/-- Some fact makes a record exactly if there is a `class_name`, a member or a base class. -/
theorem any_isRecorded (facts : List Fact) :
    facts.any Fact.isRecorded =
      (facts.any Fact.isClassName || facts.any Fact.isMember ||
        (facts.findSome? Fact.asBase).isSome) := by
  induction facts with
  | nil => rfl
  | cons f facts ih =>
      cases f <;> simp [ih, List.findSome?_cons, Fact.isRecorded, Fact.isClassName, Fact.isMember,
        Fact.asBase]

theorem ClassRecord.empty_merge (named : ClassRecord) :
    ClassRecord.merge {} named = named := by
  simp [ClassRecord.merge]

/-- Without a `class_name`, a record comes from a member or from the base class of the file. -/
theorem recordOf_of_no_className {facts : List Fact} (h : ∀ f ∈ facts, f.isClassName = false) :
    recordOf facts = if facts.any Fact.isRecorded then some (recordFrom facts) else none := by
  have htake : (facts.takeWhile fun f => !f.isClassName) = facts :=
    List.takeWhile_eq_self_iff.mpr fun f hf => by simp [h f hf]
  have hdrop : (facts.dropWhile fun f => !f.isClassName) = [] :=
    List.dropWhile_eq_nil_iff.mpr fun f hf => by simp [h f hf]
  have hname : facts.any Fact.isClassName = false :=
    List.any_eq_false.mpr fun f hf => by simp [h f hf]
  have hform : recordFrom facts =
      { ClassRecord.ofMembers facts with extendsClass := facts.findSome? Fact.asBase } := by
    simp [recordFrom, ClassRecord.ofMembers, findSome?_asHead_eq_none h]
  rw [any_isRecorded, hname, hform]
  cases hm : facts.any Fact.isMember with
  | true => simp [recordOf, htake, hdrop, anonymousClass, namedClass, hm, ClassRecord.ofMembers]
  | false =>
      rw [ClassRecord.ofMembers_eq_empty hm]
      cases hb : facts.findSome? Fact.asBase <;>
        simp [recordOf, htake, hdrop, anonymousClass, namedClass, hm, hb]

/-- With a `class_name`, the members before it and after it come together again. -/
theorem recordOf_of_className {before rest : List Fact} {name : String} {base : Option String}
    (h : ∀ f ∈ before, f.isClassName = false) :
    recordOf (before ++ .className name base :: rest) =
      some (recordFrom (before ++ .className name base :: rest)) := by
  have htake : ((before ++ .className name base :: rest).takeWhile fun f => !f.isClassName) =
      before := by
    rw [List.takeWhile_append_of_pos fun f hf => by simp [h f hf]]
    simp [Fact.isClassName]
  have hdrop : ((before ++ .className name base :: rest).dropWhile fun f => !f.isClassName) =
      .className name base :: rest := by
    rw [List.dropWhile_append_of_pos fun f hf => by simp [h f hf]]
    simp [Fact.isClassName]
  let named : ClassRecord :=
    { ClassRecord.ofMembers rest with name := some name, extendsClass := base }
  have hform : recordFrom (before ++ .className name base :: rest) =
      { (ClassRecord.ofMembers before).merge named with
        extendsClass := base <|>
          (before ++ .className name base :: rest).findSome? Fact.asBase } := by
    simp [recordFrom, ClassRecord.merge, ClassRecord.ofMembers, named, findSome?_asHead_eq_none h,
      List.findSome?_cons, List.filterMap_cons, Fact.asHead, Fact.asExport, Fact.asVariable,
      Fact.asMethod, -List.map_findSome?]
  rw [hform]
  cases hm : before.any Fact.isMember with
  | true =>
      simp [recordOf, htake, hdrop, anonymousClass, namedClass, hm, named, ClassRecord.merge,
        ClassRecord.ofMembers]
  | false =>
      rw [ClassRecord.ofMembers_eq_empty hm, ClassRecord.empty_merge]
      simp [recordOf, htake, hdrop, anonymousClass, namedClass, hm, named]

/-- The record of a list of facts: there is one as soon as some fact makes one, and it is the
record that the facts as a whole give. -/
theorem recordOf_eq (facts : List Fact) :
    recordOf facts = if facts.any Fact.isRecorded then some (recordFrom facts) else none := by
  rcases split_at_className facts with h | ⟨before, name, base, rest, rfl, h⟩
  · exact recordOf_of_no_className h
  · have hrecorded : (before ++ .className name base :: rest).any Fact.isRecorded = true := by
      simp [Fact.isRecorded]
    rw [recordOf_of_className h, if_pos hrecorded]

/-- Where there is no record, there is nothing to read off the facts either. -/
theorem recordOf_getD (facts : List Fact) : (recordOf facts).getD {} = recordFrom facts := by
  rw [recordOf_eq]
  by_cases h : facts.any Fact.isRecorded = true
  · rw [if_pos h, Option.getD_some]
  · rw [if_neg h, Option.getD_none]
    rw [any_isRecorded, Bool.or_eq_true, Bool.or_eq_true, not_or, not_or] at h
    obtain ⟨⟨hname, hmember⟩, hbase⟩ := h
    have hhead : facts.findSome? Fact.asHead = none :=
      findSome?_asHead_eq_none (by simpa using hname)
    have hbase : facts.findSome? Fact.asBase = none := Option.not_isSome_iff_eq_none.mp hbase
    have hempty := ClassRecord.ofMembers_eq_empty (Bool.eq_false_iff.mpr hmember)
    simp only [ClassRecord.ofMembers, ClassRecord.mk.injEq, true_and] at hempty
    obtain ⟨hexports, hfields, hmethods⟩ := hempty
    rw [recordFrom, hhead, hbase, hexports, hfields, hmethods]
    rfl

/-- Inner classes are not needed to read off anything else. -/
theorem filterMap_filter_isRecorded {β : Type} (view : Fact → Option β)
    (h : ∀ name, view (.innerClass name) = none) (facts : List Fact) :
    (facts.filter Fact.isRecorded).filterMap view = facts.filterMap view := by
  rw [List.filterMap_filter]
  congr 1
  funext f
  cases f with
  | innerClass name => exact (h name).symm
  | _ => rfl

/-- Inner classes change nothing in the record. -/
theorem recordOf_filter_isRecorded (facts : List Fact) :
    recordOf (facts.filter Fact.isRecorded) = recordOf facts := by
  have hfirst : ∀ {β : Type} (view : Fact → Option β), (∀ name, view (.innerClass name) = none) →
      (facts.filter Fact.isRecorded).findSome? view = facts.findSome? view := by
    intro β view h
    rw [← List.head?_filterMap, ← List.head?_filterMap, filterMap_filter_isRecorded view h]
  have hrecord : recordFrom (facts.filter Fact.isRecorded) = recordFrom facts := by
    rw [recordFrom, recordFrom, hfirst Fact.asHead fun _ => rfl, hfirst Fact.asBase fun _ => rfl,
      filterMap_filter_isRecorded Fact.asExport fun _ => rfl,
      filterMap_filter_isRecorded Fact.asVariable fun _ => rfl,
      filterMap_filter_isRecorded Fact.asMethod fun _ => rfl]
  rw [recordOf_eq, recordOf_eq, hrecord, List.any_filter]
  simp

/-- The facts without the `class_name` statements after the first one. -/
def dropLaterNames : List Fact → List Fact
  | [] => []
  | f :: rest =>
      if f.isClassName then f :: rest.filter fun g => !g.isClassName
      else f :: dropLaterNames rest

/-- Later names are not needed to read off anything else. -/
theorem filterMap_dropLaterNames {β : Type} (view : Fact → Option β)
    (h : ∀ f, f.isClassName = true → view f = none) (facts : List Fact) :
    (dropLaterNames facts).filterMap view = facts.filterMap view := by
  induction facts with
  | nil => rfl
  | cons f rest ih =>
      rw [dropLaterNames]
      split
      · have hview : (fun g => if (!g.isClassName) = true then view g else none) = view := by
          funext g
          cases hg : g.isClassName with
          | true => simp [h g hg]
          | false => simp
        rw [List.filterMap_cons, List.filterMap_cons, List.filterMap_filter, hview]
      · rw [List.filterMap_cons, List.filterMap_cons, ih]

theorem findSome?_asHead_dropLaterNames (facts : List Fact) :
    (dropLaterNames facts).findSome? Fact.asHead = facts.findSome? Fact.asHead := by
  induction facts with
  | nil => rfl
  | cons f rest ih =>
      cases f <;>
        simp [dropLaterNames, Fact.isClassName, Fact.asHead, List.findSome?_cons, ih]

theorem any_isRecorded_dropLaterNames (facts : List Fact) :
    (dropLaterNames facts).any Fact.isRecorded = facts.any Fact.isRecorded := by
  induction facts with
  | nil => rfl
  | cons f rest ih =>
      cases f <;> simp [dropLaterNames, Fact.isClassName, Fact.isRecorded, ih]

/-- A `class_name` after the first one changes nothing in the record. -/
theorem recordOf_dropLaterNames (facts : List Fact) :
    recordOf (dropLaterNames facts) = recordOf facts := by
  have hbase : (dropLaterNames facts).findSome? Fact.asBase = facts.findSome? Fact.asBase := by
    rw [← List.head?_filterMap, ← List.head?_filterMap,
      filterMap_dropLaterNames _ fun _ h => (Fact.views_of_isClassName h).1]
  have hrecord : recordFrom (dropLaterNames facts) = recordFrom facts := by
    rw [recordFrom, recordFrom, findSome?_asHead_dropLaterNames, hbase,
      filterMap_dropLaterNames _ fun _ h => (Fact.views_of_isClassName h).2.1,
      filterMap_dropLaterNames _ fun _ h => (Fact.views_of_isClassName h).2.2.1,
      filterMap_dropLaterNames _ fun _ h => (Fact.views_of_isClassName h).2.2.2]
  rw [recordOf_eq, recordOf_eq, any_isRecorded_dropLaterNames, hrecord]

end ScriptTypings
