import ScriptTypings.Proofs.Contribution

/-!
# The class record of a tree

The record of a script, read off the places of its tree. Its members are the declarations at class
level in source order, whatever stands between them and wherever the `class_name` is. Its name and
base class come from the first `class_name`, and the base class of the file stands in where that
one has none.
-/

namespace ScriptTypings.Node

/-- The exported fields that a tree declares, in source order. -/
theorem exports_recordFrom (root : Node) :
    (recordFrom root.rootFacts).exports =
      (root.places.filter fun p => p.DeclaresField ∧ p.IsExported).map fun p =>
        p.node.fieldBinding :=
  filterMap_rootFacts root Place.contribution_asExport

/-- The other fields that a tree declares, in source order. -/
theorem fields_recordFrom (root : Node) :
    (recordFrom root.rootFacts).fields =
      (root.places.filter fun p => p.DeclaresField ∧ ¬ p.IsExported).map fun p =>
        Variable.ofBinding p.node.fieldBinding :=
  filterMap_rootFacts root Place.contribution_asVariable

theorem methods_recordFrom (root : Node) :
    (recordFrom root.rootFacts).methods =
      (root.places.filter fun p => p.DeclaresMethod).map fun p => p.node.declaredMethod :=
  filterMap_rootFacts root Place.contribution_asMethod

theorem name_recordFrom (root : Node) :
    (recordFrom root.rootFacts).name =
      (root.places.find? fun p => p.DeclaresClassName).map
        (fun p => p.node.namedChildText .name) := by
  rw [recordFrom, findSome?_rootFacts root Place.contribution_asHead, Option.map_map]
  rfl

theorem extendsClass_recordFrom (root : Node) :
    (recordFrom root.rootFacts).extendsClass =
      ((root.places.find? fun p => p.DeclaresClassName).bind Place.ownBase <|>
        (root.places.find? fun p => p.DeclaresBase).map fun p => p.node.namedChildText .type) := by
  rw [recordFrom, findSome?_rootFacts root Place.contribution_asHead,
    findSome?_rootFacts root Place.contribution_asBase, Option.bind_map]
  rfl

/-- What some places declare makes a record exactly if one of them declares a name, a base class, a
field or a method. -/
theorem any_isRecorded_contribution (listed : List Place) :
    (listed.filterMap Place.contribution).any Fact.isRecorded = true ↔
      ∃ p ∈ listed, p.DeclaresClassName ∨ p.DeclaresField ∨ p.DeclaresMethod ∨ p.DeclaresBase := by
  rw [List.any_eq_true]
  constructor
  · rintro ⟨f, hf, hrecorded⟩
    obtain ⟨p, hp, hf⟩ := List.mem_filterMap.mp hf
    exact ⟨p, hp, (Place.contribution_isRecorded_iff p).mp ⟨f, hf, hrecorded⟩⟩
  · rintro ⟨p, hp, h⟩
    obtain ⟨f, hf, hrecorded⟩ := (Place.contribution_isRecorded_iff p).mpr h
    exact ⟨f, List.mem_filterMap.mpr ⟨p, hp, hf⟩, hrecorded⟩

theorem any_isRecorded_rootFacts (root : Node) :
    root.rootFacts.any Fact.isRecorded = true ↔
      ∃ p ∈ root.places, p.DeclaresClassName ∨ p.DeclaresField ∨ p.DeclaresMethod ∨
        p.DeclaresBase := by
  rw [rootFacts_eq_filterMap, any_isRecorded_contribution]

theorem classRecord_getD (root : Node) :
    root.classRecord.getD {} = recordFrom root.rootFacts :=
  recordOf_getD root.rootFacts

/-- A part that the empty record lacks is absent exactly if it cannot be read off the facts. -/
theorem classRecord_bind {α : Type} (root : Node) (part : ClassRecord → Option α)
    (hpart : part {} = none) : root.classRecord.bind part = part (recordFrom root.rootFacts) := by
  rw [← classRecord_getD]
  cases root.classRecord with
  | none => simp [hpart]
  | some record => rfl

theorem classRecord_isSome (root : Node) :
    root.classRecord.isSome = root.rootFacts.any Fact.isRecorded := by
  rw [classRecord, recordOf_eq]
  cases root.rootFacts.any Fact.isRecorded <;> rfl

/-- Members are exactly the class-level declarations in source order. The fields of a record are
those of the class-level variables with a name, one for each; they are exported exactly if an
annotation in the statement or right above it exports. The methods are those of the functions
outside inner classes that have a name. The listing of the places is in pre-order and complete. -/
theorem members_are_declarations_in_preorder (root : Node) :
    IsPreorder root root.places ∧
    (root.classRecord.getD {}).exports =
      (root.places.filter fun p => p.DeclaresField ∧ p.IsExported).map
        (fun p => p.node.fieldBinding) ∧
    (root.classRecord.getD {}).fields =
      (root.places.filter fun p => p.DeclaresField ∧ ¬ p.IsExported).map
        (fun p => Variable.ofBinding p.node.fieldBinding) ∧
    (root.classRecord.getD {}).methods =
      (root.places.filter fun p => p.DeclaresMethod).map (fun p => p.node.declaredMethod) := by
  rw [classRecord_getD]
  exact ⟨root.isPreorder_places, root.exports_recordFrom, root.fields_recordFrom,
    root.methods_recordFrom⟩

/-- There is at most one record, and there is one exactly if some place declares a name, a field, a
method or a base class. Its name and base class are those of the first `class_name`, with the first
base class of the file where that one brings none along. Later `class_name` statements change
nothing. -/
theorem record_exists_with_first_name_and_base (root : Node) :
    root.classRecord.toList.length ≤ 1 ∧
    (root.classRecord.isSome = true ↔
      (∃ p ∈ root.places, p.DeclaresClassName) ∨ (∃ p ∈ root.places, p.DeclaresField) ∨
        (∃ p ∈ root.places, p.DeclaresMethod) ∨ ∃ p ∈ root.places, p.DeclaresBase) ∧
    root.classRecord.bind ClassRecord.name =
      (root.places.find? fun p => p.DeclaresClassName).map
        (fun p => p.node.namedChildText .name) ∧
    root.classRecord.bind ClassRecord.extendsClass =
      ((root.places.find? fun p => p.DeclaresClassName).bind Place.ownBase <|>
        (root.places.find? fun p => p.DeclaresBase).map fun p => p.node.namedChildText .type) ∧
    root.classRecord = recordOf (dropLaterNames root.rootFacts) := by
  refine ⟨?_, ?_, ?_, ?_, ?_⟩
  · cases root.classRecord <;> simp
  · rw [classRecord_isSome, any_isRecorded_rootFacts]
    simp only [and_or_left, exists_or]
  · rw [classRecord_bind root ClassRecord.name rfl, name_recordFrom]
  · rw [classRecord_bind root ClassRecord.extendsClass rfl, extendsClass_recordFrom]
  · exact (recordOf_dropLaterNames root.rootFacts).symm

end ScriptTypings.Node
