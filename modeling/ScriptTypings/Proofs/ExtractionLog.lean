import ScriptTypings.Proofs.ClassRecord

/-!
# The log of an extraction

While the facts of a tree are read, the name of the first `class_name` is kept and each later one is
compared with it. The log can be told without this state: place by place in pre-order, an inner
class that is in no other one is reported, and so is a `class_name` that differs from the first.
-/

namespace ScriptTypings

namespace Fact

/-- What is reported of a fact in a script that keeps the given name. -/
def report (kept : String) : Fact → Option Event
  | innerClass name => some (.innerClass name)
  | className name _ => if name = kept then none else some (.classNameIgnored name kept)
  | _ => none

end Fact

/-- The first name among the facts; empty if there is none. -/
def firstName (facts : List Fact) : String :=
  ((facts.findSome? Fact.asHead).map Prod.fst).getD ""

theorem firstName_className (name : String) (base : Option String) (rest : List Fact) :
    firstName (.className name base :: rest) = name := by
  rw [firstName, List.findSome?_cons]
  rfl

theorem firstName_cons_of_not_isClassName {f : Fact} (h : f.isClassName = false)
    (rest : List Fact) : firstName (f :: rest) = firstName rest := by
  rw [firstName, List.findSome?_cons, (Fact.asHead_eq_none_iff f).mpr h]
  rfl

/-- Once a name is kept, what is reported of a fact depends on no other. -/
theorem eventsOf_some (kept : String) (facts : List Fact) :
    eventsOf (some kept) facts = facts.filterMap (Fact.report kept) := by
  induction facts with
  | nil => rfl
  | cons f rest ih =>
      cases f with
      | className name base => by_cases h : name = kept <;> simp [eventsOf, Fact.report, h, ih]
      | _ => simp [eventsOf, Fact.report, List.filterMap_cons, ih]

/-- Nothing is compared before the first name is met, and that one differs from no name, so the log
is the same as if it had been kept from the start. -/
theorem eventsOf_none (facts : List Fact) :
    eventsOf none facts = facts.filterMap (Fact.report (firstName facts)) := by
  induction facts with
  | nil => rfl
  | cons f rest ih =>
      cases f with
      | className name base =>
          rw [firstName_className]
          simp [eventsOf, Fact.report, eventsOf_some]
      | _ =>
          rw [firstName_cons_of_not_isClassName rfl]
          simp [eventsOf, Fact.report, List.filterMap_cons, ih]

namespace Place

/-- A `class_name` whose name is not the kept one. -/
def DeclaresOtherName (kept : String) (p : Place) : Prop :=
  p.DeclaresClassName ∧ p.node.namedChildText .name ≠ kept

instance (kept : String) (p : Place) : Decidable (p.DeclaresOtherName kept) :=
  inferInstanceAs (Decidable (_ ∧ _))

/-- The two sorts of places that are reported. -/
theorem contribution_report (kept : String) (p : Place) :
    p.contribution.bind (Fact.report kept) =
      if p.DeclaresInnerClass then some (.innerClass p.node.innerClassName)
      else if p.DeclaresOtherName kept then
        some (.classNameIgnored (p.node.namedChildText .name) kept)
      else none := by
  ext e
  rw [contribution_bind_eq_some_iff]
  have hkinds : p.DeclaresInnerClass → ¬ p.DeclaresClassName := by
    rintro ⟨-, hinner⟩ ⟨-, hname, -⟩
    rw [hinner] at hname
    cases hname
  by_cases hinner : p.DeclaresInnerClass
  · simp [Fact.report, hinner, hkinds hinner]
  · by_cases hname : p.DeclaresClassName <;>
      by_cases hkept : p.node.namedChildText .name = kept <;>
        simp [Fact.report, DeclaresOtherName, hinner, hname, hkept]

end Place

namespace Node

/-- The name that a script keeps: that of its first `class_name`. It is empty if there is none. -/
def keptName (root : Node) : String :=
  ((root.places.find? fun p => p.DeclaresClassName).map
    fun p => p.node.namedChildText .name).getD ""

theorem firstName_rootFacts (root : Node) : firstName root.rootFacts = root.keptName := by
  rw [firstName, findSome?_rootFacts root Place.contribution_asHead, Option.map_map]
  rfl

/-- The kept name is the one that the record has. -/
theorem name_classRecord_getD (root : Node) :
    (root.classRecord.bind ClassRecord.name).getD "" = root.keptName := by
  rw [classRecord_bind root ClassRecord.name rfl, name_recordFrom]
  rfl

/-- The events of an extraction are those of the places of the tree, in pre-order. -/
theorem extractionLog_eq_filterMap (root : Node) :
    root.extractionLog =
      root.places.filterMap fun p => p.contribution.bind (Fact.report root.keptName) := by
  rw [extractionLog, eventsOf_none, firstName_rootFacts, rootFacts_eq_filterMap,
    List.filterMap_filterMap]

/-- The log of an extraction is exact. Its records are, in pre-order, one for each inner class that
is in no other one and one for each `class_name` outside inner classes whose name differs from that
of the first, which is the name of the record. An inner class is reported by the text of its first
child in the field `name`. No other place is logged: neither a `class_name` that repeats the first
one nor anything inside an inner class. -/
theorem extraction_log_is_exact (root : Node) (elapsed : String) :
    IsPreorder root root.places ∧
    (root.extractionLog.map fun e => (e.level, e.message elapsed)) =
      root.places.filterMap (fun p =>
        if p.DeclaresInnerClass then
          some (.debug, "skipping inner class " ++
            ((p.node.children.find? fun c => c.field = some "name").map text).getD "<unnamed>")
        else if p.DeclaresOtherName root.keptName then
          some (.warn,
            "ignoring class_name " ++ Text.quote (p.node.namedChildText .name) ++
              ": script already declares " ++ Text.quote root.keptName)
        else none) ∧
    (root.classRecord.bind ClassRecord.name).getD "" = root.keptName := by
  refine ⟨root.isPreorder_places, ?_, root.name_classRecord_getD⟩
  rw [extractionLog_eq_filterMap, List.map_filterMap]
  congr 1
  funext p
  rw [Place.contribution_report]
  split
  · rfl
  · split <;> rfl

end Node

end ScriptTypings
