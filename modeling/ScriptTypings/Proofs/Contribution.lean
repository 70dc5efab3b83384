import ScriptTypings.Proofs.ExportMark
import ScriptTypings.Proofs.MergedRecord

/-!
# What a place declares

Each place of a tree declares at most one thing: the name of the class, its base class, a field, a
method or an inner class. Here the conditions are stated in terms of the place alone, and the
facts of a tree are listed by them. Reading one sort of declaration off the facts is then selecting
the places that declare it.
-/

namespace ScriptTypings

/-- Reading a value off some elements of a list only is selecting these first. -/
theorem filterMap_ite_some {α β : Type} (P : α → Prop) [DecidablePred P] (value : α → β)
    (l : List α) :
    (l.filterMap fun a => if P a then some (value a) else none) =
      (l.filter fun a => P a).map value := by
  rw [← List.filterMap_eq_map, List.filterMap_filter]
  simp

namespace Node

/-- Some named child is of the kind. -/
def HasNamedChild (n : Node) (k : Kind) : Prop :=
  ∃ c ∈ n.children, c.isNamed = true ∧ c.kind = k

instance (n : Node) (k : Kind) : Decidable (n.HasNamedChild k) :=
  inferInstanceAs (Decidable (∃ c ∈ n.children, c.isNamed = true ∧ c.kind = k))

/-- The text of the first named child of the kind; empty if there is none. -/
def namedChildText (n : Node) (k : Kind) : String :=
  ((n.namedChildOfKind k).map text).getD ""

theorem namedChildOfKind_isSome_iff (n : Node) (k : Kind) :
    (n.namedChildOfKind k).isSome = true ↔ n.HasNamedChild k := by
  simp [namedChildOfKind, namedChildren, HasNamedChild]

theorem namedChildOfKind_map_text (n : Node) (k : Kind) :
    (n.namedChildOfKind k).map text =
      if n.HasNamedChild k then some (n.namedChildText k) else none := by
  have hiff := namedChildOfKind_isSome_iff n k
  cases h : n.namedChildOfKind k with
  | none => rw [if_neg (by rw [← hiff, h]; simp)]; rfl
  | some c => rw [if_pos (by rw [← hiff, h]; rfl)]; simp [namedChildText, h]

/-- The field that a variable statement declares. -/
def fieldBinding (n : Node) : Binding where
  name := n.namedChildText .name
  type := n.variableType
  defaultValue := (n.childByField "value").map text

/-- The name of a function. A constructor is called `_init`, whatever stands in it. Another function
has the text of its first child in the field `name`, or without one of its first child of the kind
of names; the name is empty if it has neither. -/
def functionName (n : Node) : String :=
  if n.kind = .constructorDefinition then "_init"
  else
    match n.children.find? fun c => c.field = some "name" with
    | some c => c.text
    | none =>
        match n.children.find? fun c => c.kind = .name with
        | some c => c.text
        | none => ""

/-- The name of a method is that of its function, if there is one. -/
theorem methodName_getD (n : Node) : n.methodName.getD "" = n.functionName := by
  by_cases hk : n.kind = .constructorDefinition
  · rw [methodName, functionName, hk, if_pos rfl]
    rfl
  · have hname : n.methodName = (n.childByField "name" <|> n.childOfKind .name).map text := by
      cases h : n.kind <;> simp_all [methodName]
    rw [hname, functionName, if_neg hk, childByField, childOfKind]
    cases n.children.find? fun c => c.field = some "name" with
    | some c => rfl
    | none => cases n.children.find? fun c => c.kind = .name <;> rfl

/-- A constructor, or a function with a name. -/
def HasMethodName (n : Node) : Prop :=
  n.functionName ≠ ""

instance (n : Node) : Decidable n.HasMethodName :=
  inferInstanceAs (Decidable (_ ≠ _))

/-- The method that a function or a constructor declares. -/
def declaredMethod (n : Node) : Method where
  name := n.functionName
  returnType := n.returnType
  parameters := n.parameterList

theorem method_eq (n : Node) :
    n.method = if n.HasMethodName then some n.declaredMethod else none := by
  have hname := n.methodName_getD
  cases hmethod : n.methodName with
  | none =>
      have hnone : ¬ n.HasMethodName := by
        rw [HasMethodName, ← hname, hmethod]
        exact not_not.mpr rfl
      rw [if_neg hnone, method, hmethod]
      rfl
  | some name =>
      rw [hmethod, Option.getD_some] at hname
      by_cases hempty : name = "" <;>
        simp [method, hmethod, HasMethodName, declaredMethod, ← hname, hempty, Option.filter]

end Node

namespace Place

/-- A `class_name` with a name, also one inside a function. -/
def DeclaresClassName (p : Place) : Prop :=
  p.Live ∧ p.node.kind = .classNameStatement ∧ p.node.HasNamedChild .name

instance (p : Place) : Decidable p.DeclaresClassName :=
  inferInstanceAs (Decidable (_ ∧ _))

/-- An `extends` that names its class, at class level. -/
def DeclaresBase (p : Place) : Prop :=
  p.ClassLevel ∧ p.node.kind = .extendsStatement ∧ p.node.HasNamedChild .type

instance (p : Place) : Decidable p.DeclaresBase :=
  inferInstanceAs (Decidable (_ ∧ _))

/-- A variable with a name, at class level. -/
def DeclaresField (p : Place) : Prop :=
  p.ClassLevel ∧ p.node.kind = .variableStatement ∧ p.node.HasNamedChild .name

instance (p : Place) : Decidable p.DeclaresField :=
  inferInstanceAs (Decidable (_ ∧ _))

/-- A function with a name or a constructor, also one inside another function. -/
def DeclaresMethod (p : Place) : Prop :=
  p.Live ∧ (p.node.kind = .functionDefinition ∨ p.node.kind = .constructorDefinition) ∧
    p.node.HasMethodName

instance (p : Place) : Decidable p.DeclaresMethod :=
  inferInstanceAs (Decidable (_ ∧ _))

/-- An inner class that is in no other one. -/
def DeclaresInnerClass (p : Place) : Prop :=
  p.Outside ∧ p.node.kind = .classDefinition

instance (p : Place) : Decidable p.DeclaresInnerClass :=
  inferInstanceAs (Decidable (_ ∧ _))

/-- The base class that a `class_name` brings along: that of the `extends` right above it, counting
named siblings only, or else that of one in its own statement. -/
def ownBase (p : Place) : Option String :=
  match (p.earlier.filter Node.isNamed).getLast? with
  | some s =>
      if s.kind = .extendsStatement then s.extendsTarget
      else (p.node.childOfKind .extendsStatement).bind Node.extendsTarget
  | none => (p.node.childOfKind .extendsStatement).bind Node.extendsTarget

theorem ownExtends_bind_target (p : Place) :
    (p.node.ownExtends p.earlierNamed).bind Node.extendsTarget = p.ownBase := by
  rw [Node.ownExtends, earlierNamed, List.head?_reverse, ownBase]
  cases (p.earlier.filter Node.isNamed).getLast? with
  | none => simp
  | some s => by_cases hs : s.kind = .extendsStatement <;> simp [hs, Option.filter]

/-- The fact that a place declares, if any. -/
def contribution (p : Place) : Option Fact :=
  if p.DeclaresClassName then some (.className (p.node.namedChildText .name) p.ownBase)
  else if p.DeclaresBase then some (.extendsClass (p.node.namedChildText .type))
  else if p.DeclaresField then some (.field (decide p.IsExported) p.node.fieldBinding)
  else if p.DeclaresMethod then some (.method p.node.declaredMethod)
  else if p.DeclaresInnerClass then some (.innerClass p.node.innerClassName)
  else none

theorem classNameFact_eq (p : Place) :
    p.node.classNameFact p.earlierNamed =
      if p.node.HasNamedChild .name then
        some (.className (p.node.namedChildText .name) p.ownBase)
      else none := by
  calc
    p.node.classNameFact p.earlierNamed =
        ((p.node.namedChildOfKind .name).map Node.text).map (.className · p.ownBase) := by
      simp [Node.classNameFact, ownExtends_bind_target, Function.comp_def]
    _ = _ := by
      rw [Node.namedChildOfKind_map_text]
      split <;> rfl

theorem variableFact_eq (p : Place) :
    p.node.variableFact p.earlierNamed =
      if p.node.HasNamedChild .name then
        some (.field (decide p.IsExported) p.node.fieldBinding)
      else none := by
  calc
    p.node.variableFact p.earlierNamed =
        ((p.node.namedChildOfKind .name).map Node.text).map fun name =>
          .field (decide p.IsExported) { p.node.fieldBinding with name := name } := by
      simp [Node.variableFact, Node.fieldBinding, isExported_eq_decide, Function.comp_def]
    _ = _ := by
      rw [Node.namedChildOfKind_map_text]
      split <;> rfl

theorem extendsFact_eq (p : Place) :
    p.node.extendsTarget.map Fact.extendsClass =
      if p.node.HasNamedChild .type then some (.extendsClass (p.node.namedChildText .type))
      else none := by
  rw [Node.extendsTarget, Node.namedChildOfKind_map_text]
  split <;> rfl

/-- Nothing inside an inner class is declared. -/
theorem contribution_of_inside {p : Place} (h : ¬ p.Outside) : p.contribution = none := by
  simp [contribution, DeclaresClassName, DeclaresBase, DeclaresField, DeclaresMethod,
    DeclaresInnerClass, ClassLevel, Live, h]

/-- A place contributes exactly what it declares. -/
theorem facts_eq_contribution (p : Place) : p.facts = p.contribution.toList := by
  by_cases hout : p.Outside
  · have hfacts : p.facts = p.node.ownFacts p.scope p.earlierNamed := by simp [facts, hout]
    rw [hfacts, Node.ownFacts]
    -- Each declaration needs a kind of its own, so the kind of the node decides which one is left.
    simp only [contribution, DeclaresClassName, DeclaresBase, DeclaresField, DeclaresMethod,
      DeclaresInnerClass, ClassLevel, Live, hout, scope_eq_classBody_iff, classNameFact_eq,
      variableFact_eq, extendsFact_eq, Node.method_eq]
    cases hk : p.node.kind <;> by_cases hb : p.OutsideBodies <;> simp [hb]
  · have hfacts : p.facts = [] := by simp [facts, hout]
    rw [hfacts, contribution_of_inside hout]
    rfl

/-- What a place can declare. The sorts exclude each other, since each needs its own kind of
node. -/
theorem contribution_eq_some_iff (p : Place) (f : Fact) :
    p.contribution = some f ↔
      p.DeclaresClassName ∧ .className (p.node.namedChildText .name) p.ownBase = f ∨
      p.DeclaresBase ∧ .extendsClass (p.node.namedChildText .type) = f ∨
      p.DeclaresField ∧ .field (decide p.IsExported) p.node.fieldBinding = f ∨
      p.DeclaresMethod ∧ .method p.node.declaredMethod = f ∨
      p.DeclaresInnerClass ∧ .innerClass p.node.innerClassName = f := by
  cases hk : p.node.kind <;>
    simp [contribution, DeclaresClassName, DeclaresBase, DeclaresField, DeclaresMethod,
      DeclaresInnerClass, hk]

/-- What can be read off the declaration of a place, sort by sort. -/
theorem contribution_bind_eq_some_iff {β : Type} (view : Fact → Option β) (p : Place) (v : β) :
    p.contribution.bind view = some v ↔
      p.DeclaresClassName ∧ view (.className (p.node.namedChildText .name) p.ownBase) = some v ∨
      p.DeclaresBase ∧ view (.extendsClass (p.node.namedChildText .type)) = some v ∨
      p.DeclaresField ∧ view (.field (decide p.IsExported) p.node.fieldBinding) = some v ∨
      p.DeclaresMethod ∧ view (.method p.node.declaredMethod) = some v ∨
      p.DeclaresInnerClass ∧ view (.innerClass p.node.innerClassName) = some v := by
  simp only [Option.bind_eq_some_iff, contribution_eq_some_iff, or_and_right, and_assoc, exists_or,
    exists_and_left, exists_eq_left']

/-- A place makes a record by any declaration but that of an inner class. -/
theorem contribution_isRecorded_iff (p : Place) :
    (∃ f, p.contribution = some f ∧ f.isRecorded = true) ↔
      p.DeclaresClassName ∨ p.DeclaresField ∨ p.DeclaresMethod ∨ p.DeclaresBase := by
  constructor
  · rintro ⟨f, hf, hrecorded⟩
    rcases (contribution_eq_some_iff p f).mp hf with
      ⟨h, -⟩ | ⟨h, -⟩ | ⟨h, -⟩ | ⟨h, -⟩ | ⟨-, rfl⟩
    · exact Or.inl h
    · exact Or.inr (Or.inr (Or.inr h))
    · exact Or.inr (Or.inl h)
    · exact Or.inr (Or.inr (Or.inl h))
    · cases hrecorded
  · intro h
    rcases h with h | h | h | h
    · exact ⟨_, (contribution_eq_some_iff p _).mpr (Or.inl ⟨h, rfl⟩), rfl⟩
    · exact ⟨_, (contribution_eq_some_iff p _).mpr (Or.inr (Or.inr (Or.inl ⟨h, rfl⟩))), rfl⟩
    · exact ⟨_, (contribution_eq_some_iff p _).mpr
        (Or.inr (Or.inr (Or.inr (Or.inl ⟨h, rfl⟩)))), rfl⟩
    · exact ⟨_, (contribution_eq_some_iff p _).mpr (Or.inr (Or.inl ⟨h, rfl⟩)), rfl⟩

theorem contribution_asHead (p : Place) :
    p.contribution.bind Fact.asHead =
      if p.DeclaresClassName then some (p.node.namedChildText .name, p.ownBase) else none := by
  ext v
  rw [contribution_bind_eq_some_iff]
  simp [Fact.asHead]

theorem contribution_asBase (p : Place) :
    p.contribution.bind Fact.asBase =
      if p.DeclaresBase then some (p.node.namedChildText .type) else none := by
  ext v
  rw [contribution_bind_eq_some_iff]
  simp [Fact.asBase]

theorem contribution_asExport (p : Place) :
    p.contribution.bind Fact.asExport =
      if p.DeclaresField ∧ p.IsExported then some p.node.fieldBinding else none := by
  ext v
  rw [contribution_bind_eq_some_iff]
  by_cases h : p.IsExported <;> simp [Fact.asExport, h]

theorem contribution_asVariable (p : Place) :
    p.contribution.bind Fact.asVariable =
      if p.DeclaresField ∧ ¬ p.IsExported then some (Variable.ofBinding p.node.fieldBinding)
      else none := by
  ext v
  rw [contribution_bind_eq_some_iff]
  by_cases h : p.IsExported <;> simp [Fact.asVariable, h]

theorem contribution_asMethod (p : Place) :
    p.contribution.bind Fact.asMethod =
      if p.DeclaresMethod then some p.node.declaredMethod else none := by
  ext v
  rw [contribution_bind_eq_some_iff]
  simp [Fact.asMethod]

end Place

namespace Node

/-- The facts of a tree are what its places declare, in pre-order. -/
theorem rootFacts_eq_filterMap (root : Node) :
    root.rootFacts = root.places.filterMap Place.contribution := by
  rw [rootFacts_eq, List.filterMap_eq_flatMap_toList]
  exact List.flatMap_congr fun p _ => Place.facts_eq_contribution p

section View

variable {β : Type} {view : Fact → Option β} {P : Place → Prop} [DecidablePred P]
  {value : Place → β}

/-- Reading one sort of declaration off what some places declare gives one value for each place that
declares it. -/
theorem filterMap_contribution (listed : List Place)
    (h : ∀ p : Place, p.contribution.bind view = if P p then some (value p) else none) :
    (listed.filterMap Place.contribution).filterMap view =
      (listed.filter fun p => P p).map value := by
  calc
    (listed.filterMap Place.contribution).filterMap view =
        listed.filterMap fun p => if P p then some (value p) else none := by
      rw [List.filterMap_filterMap]
      exact congrArg (List.filterMap · listed) (funext h)
    _ = (listed.filter fun p => P p).map value := filterMap_ite_some P value _

/-- The first declaration of a sort is that of the first place that declares it. -/
theorem findSome?_contribution (listed : List Place)
    (h : ∀ p : Place, p.contribution.bind view = if P p then some (value p) else none) :
    (listed.filterMap Place.contribution).findSome? view =
      (listed.find? fun p => P p).map value := by
  rw [← List.head?_filterMap, filterMap_contribution listed h, List.head?_map, List.head?_filter]

/-- Reading one sort of declaration off the facts of a tree gives one value for each place that
declares it, in pre-order. -/
theorem filterMap_rootFacts (root : Node)
    (h : ∀ p : Place, p.contribution.bind view = if P p then some (value p) else none) :
    root.rootFacts.filterMap view = (root.places.filter fun p => P p).map value := by
  rw [rootFacts_eq_filterMap, filterMap_contribution root.places h]

theorem findSome?_rootFacts (root : Node)
    (h : ∀ p : Place, p.contribution.bind view = if P p then some (value p) else none) :
    root.rootFacts.findSome? view = (root.places.find? fun p => P p).map value := by
  rw [rootFacts_eq_filterMap, findSome?_contribution root.places h]

end View

end Node

end ScriptTypings
