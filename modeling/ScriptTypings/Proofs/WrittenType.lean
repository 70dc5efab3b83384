import ScriptTypings.Proofs.Signature
import ScriptTypings.Proofs.TrimmedText

/-!
# Written types

A type can be written for a variable, for a parameter and for the result of a function, and each of
the three reads its type node in a way of its own. A parameter keeps the text of the node. A
function keeps the first name in the node, or else its text. A variable keeps the first name too,
but without one it falls back on the kind of its initial value and not on the text. Where the first
name is the whole type, parameters and functions record the type alike; a variable agrees with them
exactly if the node has a name or the initial value happens to be of that kind.
-/

namespace ScriptTypings

namespace Node

/-- The node where it fills another field. -/
def inField (field : Option String) : Node → Node
  | .mk label text _ children => .mk label text field children

@[simp] theorem text_inField (field : Option String) (n : Node) :
    (n.inField field).text = n.text := by
  cases n
  rfl

@[simp] theorem childOfKind_inField (field : Option String) (n : Node) (k : Kind) :
    (n.inField field).childOfKind k = n.childOfKind k := by
  cases n
  rfl

/-- A type node without a name among its children, or with one that is its whole text up to blanks
around it. -/
structure IsWrittenType (t : Node) : Prop where
  kind : t.kind = .type
  name : ∀ name, t.childOfKind .identifier = some name → Text.trim name.text = Text.trim t.text

/-- A recorded type that is the text of a type node up to blanks around it. -/
def Writes (t : Node) (recorded : Option String) : Prop :=
  ∃ s, recorded = some s ∧ Text.trim s = Text.trim t.text

/-- The record of a tree has a field of this name, type and initial value. -/
def RecordsField (root : Node) (b : Binding) : Prop :=
  b ∈ (root.classRecord.getD {}).exports ∨
    Variable.ofBinding b ∈ (root.classRecord.getD {}).fields

/-- The children that are type nodes. -/
def typeChildren (n : Node) : List Node :=
  n.children.filter fun c => c.kind = .type

/-- A parameter of one of the two shapes that have a type. -/
def IsTypedParameter (c : Node) : Prop :=
  (c.kind = .typedParameter ∨ c.kind = .typedDefaultParameter) ∧ c.HasNamedChild .identifier

theorem recordsField_of_declaresField {root : Node} {p : Place} (hp : p ∈ root.places)
    (h : p.DeclaresField) : root.RecordsField p.node.fieldBinding := by
  rw [RecordsField, classRecord_getD, exports_recordFrom, fields_recordFrom]
  by_cases hexported : p.IsExported
  · left
    exact List.mem_map.mpr ⟨p, List.mem_filter.mpr ⟨hp, by simp [h, hexported]⟩, rfl⟩
  · right
    exact List.mem_map.mpr ⟨p, List.mem_filter.mpr ⟨hp, by simp [h, hexported]⟩, rfl⟩

theorem mem_methods_of_declaresMethod {root : Node} {p : Place} (hp : p ∈ root.places)
    (h : p.DeclaresMethod) : p.node.declaredMethod ∈ (root.classRecord.getD {}).methods := by
  rw [classRecord_getD, methods_recordFrom]
  exact List.mem_map.mpr ⟨p, List.mem_filter.mpr ⟨hp, by simpa using h⟩, rfl⟩

section Recorded

variable {t : Node}

/-- What a variable with one type node records: the first name in it, or else the kind of the
initial value. -/
theorem variableType_of_typeChildren {n : Node} {field : Option String}
    (h : n.typeChildren = [t.inField field]) :
    n.variableType =
      match t.childOfKind .identifier with
      | some name => some name.text
      | none => (n.childByField "value").map rawKind := by
  have htype : n.childOfKind .type = some (t.inField field) := by
    rw [childOfKind, ← List.head?_filter]
    exact congrArg List.head? h
  rw [variableType, htype, Option.bind_some, childOfKind_inField]
  cases t.childOfKind .identifier with
  | none => rfl
  | some name => simp

/-- A variable records the written type exactly if the type node has a name, or the initial value is
of a kind that is called like the type. -/
theorem writes_variableType_iff (ht : t.IsWrittenType) {n : Node} {field : Option String}
    (h : n.typeChildren = [t.inField field]) :
    t.Writes n.variableType ↔
      (t.childOfKind .identifier).isSome = true ∨
        ∃ value, n.childByField "value" = some value ∧
          Text.trim value.rawKind = Text.trim t.text := by
  rw [variableType_of_typeChildren h, Writes]
  cases hname : t.childOfKind .identifier with
  | some name => simp [ht.name name hname]
  | none => simp

theorem parameter_of_field {c : Node} {field : Option String} (hc : c.IsTypedParameter)
    (h : c.childByField "type" = some (t.inField field)) :
    ∃ b, c.parameter = some b ∧ b.type = some t.text := by
  obtain ⟨hkind, hname⟩ := hc
  rw [parameter, namedChildOfKind_map_text, if_pos hname]
  rcases hkind with hkind | hkind <;> simp [hkind, h]

theorem returnType_of_field {n : Node} {field : Option String} (ht : t.IsWrittenType)
    (h : n.childByField "return_type" = some (t.inField field)) : t.Writes n.returnType := by
  rw [returnType, h, Option.map_some, childOfKind_inField, text_inField]
  cases hname : t.childOfKind .identifier with
  | some name => exact ⟨name.text, rfl, ht.name name hname⟩
  | none => exact ⟨Text.trim t.text, rfl, Text.trim_trim t.text⟩

end Recorded

/-- Where a written type is recorded as such. Parameters and results always record it, up to blanks
around it. A field records it exactly if there is a name in the type node, and then whatever the
initial value is, or if the initial value is of a kind called like the type; without a name the
initial value alone decides. -/
theorem written_type_recorded_iff_named {t : Node} (ht : t.IsWrittenType) :
    (∀ (root : Node) (p : Place) (field : Option String), p ∈ root.places → p.DeclaresField →
      p.node.typeChildren = [t.inField field] →
        root.RecordsField p.node.fieldBinding ∧
        (t.Writes p.node.fieldBinding.type ↔
          (t.childOfKind .identifier).isSome = true ∨
            ∃ value, p.node.childByField "value" = some value ∧
              Text.trim value.rawKind = Text.trim t.text) ∧
        p.node.fieldBinding.type =
          match t.childOfKind .identifier with
          | some name => some name.text
          | none => (p.node.childByField "value").map rawKind) ∧
    (∀ (root : Node) (p : Place) (c : Node), p ∈ root.places → p.DeclaresMethod →
      c ∈ p.node.parameterChildren → c.IsTypedParameter →
      c.childByField "type" = some (t.inField (some "type")) →
        ∃ m ∈ (root.classRecord.getD {}).methods, m = p.node.declaredMethod ∧
          ∃ b ∈ m.parameters, c.parameter = some b ∧ t.Writes b.type) ∧
    ∀ (root : Node) (p : Place), p ∈ root.places → p.DeclaresMethod →
      p.node.childByField "return_type" = some (t.inField (some "return_type")) →
        ∃ m ∈ (root.classRecord.getD {}).methods, m = p.node.declaredMethod ∧
          t.Writes m.returnType := by
  refine ⟨?_, ?_, ?_⟩
  · intro root p field hp hfield honly
    exact ⟨recordsField_of_declaresField hp hfield, writes_variableType_iff ht honly,
      variableType_of_typeChildren honly⟩
  · intro root p c hp hmethod hc htyped htype
    obtain ⟨b, hb, hbtype⟩ := parameter_of_field htyped htype
    refine ⟨_, mem_methods_of_declaresMethod hp hmethod, rfl, b, ?_, hb, t.text, hbtype, rfl⟩
    rw [declaredMethod, parameterList_eq]
    exact List.mem_filterMap.mpr ⟨c, hc, hb⟩
  · intro root p hp hmethod hreturn
    exact ⟨_, mem_methods_of_declaresMethod hp hmethod, rfl, returnType_of_field ht hreturn⟩

end Node

/-- The type `Array[int]`, in which no name stands by itself. -/
def arrayOfInt : Node :=
  .mk (.named "type") "Array[int]" none [
    .mk (.named "subscript") "Array[int]" none [.mk (.named "identifier") "Array" none []]]

theorem arrayOfInt_isWrittenType : arrayOfInt.IsWrittenType where
  kind := rfl
  name := by
    intro name h
    cases h

/-- The statement `var cells: Array[int] = []`. -/
def cellsStatement : Node :=
  .mk (.named "variable_statement") "var cells: Array[int] = []" none [
    .mk .token "var" none [], .mk (.named "name") "cells" (some "name") [], .mk .token ":" none [],
    arrayOfInt.inField (some "type"), .mk .token "=" none [],
    .mk (.named "array") "[]" (some "value") []]

def rowParameter : Node :=
  .mk (.named "typed_parameter") "row: Array[int]" none [
    .mk (.named "identifier") "row" none [], .mk .token ":" none [],
    arrayOfInt.inField (some "type")]

/-- The function `func fill(row: Array[int]) -> Array[int]: pass`. -/
def fillFunction : Node :=
  .mk (.named "function_definition") "func fill(row: Array[int]) -> Array[int]: pass" none [
    .mk .token "func" none [], .mk (.named "name") "fill" (some "name") [],
    .mk (.named "parameters") "(row: Array[int])" (some "parameters") [
      .mk .token "(" none [], rowParameter, .mk .token ")" none []],
    .mk .token "->" none [], arrayOfInt.inField (some "return_type"), .mk .token ":" none [],
    .mk (.named "body") "pass" (some "body") []]

/-- A script that writes one type for a field, for a parameter and for a result. -/
def boardScript : Node :=
  .mk (.named "source") "" none [cellsStatement, fillFunction]

/-- In `boardScript` the parameter and the result record the type that is written for all three, and
the field does not. -/
theorem written_type_of_boardScript :
    boardScript.RecordsField cellsStatement.fieldBinding ∧
    ¬ arrayOfInt.Writes cellsStatement.fieldBinding.type ∧
    ∃ m ∈ (boardScript.classRecord.getD {}).methods,
      (∃ b ∈ m.parameters, arrayOfInt.Writes b.type) ∧ arrayOfInt.Writes m.returnType := by
  obtain ⟨hfield, hparameter, hresult⟩ :=
    Node.written_type_recorded_iff_named arrayOfInt_isWrittenType
  have hcells : boardScript.rootPlace.child [] cellsStatement ∈ boardScript.places :=
    (Place.mem_listing_iff_reaches _ _).mpr (.child .refl rfl)
  have hfill : boardScript.rootPlace.child [cellsStatement] fillFunction ∈ boardScript.places :=
    (Place.mem_listing_iff_reaches _ _).mpr (.child .refl rfl)
  obtain ⟨hrecorded, hwrites, -⟩ := hfield _ _ (some "type") hcells (by decide) rfl
  obtain ⟨m, hm, rfl, b, hb, -, hbtype⟩ :=
    hparameter _ _ rowParameter hfill (by decide) (.tail _ (.head _)) ⟨Or.inl rfl, by decide⟩ rfl
  obtain ⟨-, -, rfl, hreturn⟩ := hresult _ _ hfill (by decide) rfl
  refine ⟨hrecorded, ?_, _, hm, ⟨b, hb, hbtype⟩, hreturn⟩
  intro hcellsType
  rcases hwrites.mp hcellsType with hname | ⟨value, hvalue, htrim⟩
  · exact absurd hname (by decide)
  · cases hvalue
    exact absurd htrim (by decide)

/-- The type of a field is lost where it is written without a name of its own: the kind of the
initial value stands in its place, while the parameter and the result have the type as written. -/
theorem array_type_of_field_lost :
    arrayOfInt.IsWrittenType ∧
    (boardScript.classRecord.getD {}).fields.map (fun v => v.type) = [some "array"] ∧
    (boardScript.classRecord.getD {}).methods.map
        (fun m => (m.parameters.map Binding.type, m.returnType)) =
      [([some "Array[int]"], some "Array[int]")] :=
  ⟨arrayOfInt_isWrittenType, by decide, by decide⟩

end ScriptTypings
