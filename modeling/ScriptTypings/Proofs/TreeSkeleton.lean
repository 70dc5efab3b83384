import ScriptTypings.Proofs.Contribution

/-!
# What is looked up in a tree

All that a class record takes from a node is looked up among its children, by a kind or by a field.
A child without a field is never found this way if it is an inner class or of no listed kind,
whatever stands below it. Such nodes are hidden. The skeleton of a node has the hidden nodes below
it left out, at every depth, and what the node declares can be read off the skeleton. So two trees
with one skeleton declare the same, however they differ in what is hidden.
-/

namespace ScriptTypings.Node

/-- No lookup finds the node among the children of its parent. -/
def isHidden (n : Node) : Bool :=
  n.field = none ∧ (n.kind = .other ∨ n.kind = .classDefinition)

mutual

/-- A node without the hidden nodes below it. -/
def skeleton : Node → Node
  | .mk label text field children => .mk label text field (eachSkeleton children)

def eachSkeleton : List Node → List Node
  | [] => []
  | c :: rest => if c.isHidden then eachSkeleton rest else c.skeleton :: eachSkeleton rest

end

section Kept

variable (n : Node)

@[simp] theorem label_skeleton : n.skeleton.label = n.label := by
  cases n
  simp only [skeleton, label]

@[simp] theorem text_skeleton : n.skeleton.text = n.text := by
  cases n
  simp only [skeleton, text]

@[simp] theorem field_skeleton : n.skeleton.field = n.field := by
  cases n
  simp only [skeleton, field]

@[simp] theorem kind_skeleton : n.skeleton.kind = n.kind := by
  rw [kind, kind, label_skeleton]

@[simp] theorem rawKind_skeleton : n.skeleton.rawKind = n.rawKind := by
  rw [rawKind, rawKind, label_skeleton, text_skeleton]

@[simp] theorem isNamed_skeleton : n.skeleton.isNamed = n.isNamed := by
  rw [isNamed, isNamed, label_skeleton]

theorem eachSkeleton_eq (nodes : List Node) :
    eachSkeleton nodes = (nodes.filter fun c => !c.isHidden).map skeleton := by
  induction nodes with
  | nil => rfl
  | cons c rest ih =>
      rw [eachSkeleton, ih]
      cases h : c.isHidden <;> simp [h]

theorem children_skeleton :
    n.skeleton.children = (n.children.filter fun c => !c.isHidden).map skeleton := by
  rw [← eachSkeleton_eq]
  cases n
  simp only [skeleton, children]

end Kept

/-! ## Lookups among the children -/

section Lookup

variable {β : Type} (n : Node)

theorem find?_children_skeleton {P : Node → Bool} (hhidden : ∀ c, c.isHidden = true → P c = false)
    (hP : ∀ c, P c.skeleton = P c) :
    n.skeleton.children.find? P = (n.children.find? P).map skeleton := by
  rw [children_skeleton, List.find?_map, List.find?_filter]
  congr 2
  funext c
  cases h : c.isHidden with
  | true => simp [hhidden c h]
  | false => simp [hP c]

theorem filterMap_children_skeleton {f : Node → Option β}
    (hhidden : ∀ c, c.isHidden = true → f c = none) (hf : ∀ c, f c.skeleton = f c) :
    n.skeleton.children.filterMap f = n.children.filterMap f := by
  rw [children_skeleton, List.filterMap_map, List.filterMap_filter]
  congr 1
  funext c
  cases h : c.isHidden with
  | true => simp [hhidden c h]
  | false => simp [hf c]

theorem any_children_skeleton {P : Node → Bool} (hhidden : ∀ c, c.isHidden = true → P c = false)
    (hP : ∀ c ∈ n.children, P c.skeleton = P c) :
    n.skeleton.children.any P = n.children.any P := by
  rw [Bool.eq_iff_iff, children_skeleton, List.any_map, List.any_filter, List.any_eq_true,
    List.any_eq_true]
  refine exists_congr fun c => and_congr_right fun hc => ?_
  cases h : c.isHidden with
  | true => simp [hhidden c h]
  | false => simp [hP c hc]

theorem kind_of_isHidden {c : Node} (h : c.isHidden = true) :
    c.kind = .other ∨ c.kind = .classDefinition := by
  simp only [isHidden, decide_eq_true_eq] at h
  exact h.2

theorem field_of_isHidden {c : Node} (h : c.isHidden = true) : c.field = none := by
  simp only [isHidden, decide_eq_true_eq] at h
  exact h.1

theorem childOfKind_skeleton {k : Kind} (hk : ¬ (k = .other ∨ k = .classDefinition)) :
    n.skeleton.childOfKind k = (n.childOfKind k).map skeleton := by
  refine find?_children_skeleton n (fun c hc => ?_) (by simp)
  rw [decide_eq_false_iff_not]
  rintro rfl
  exact hk (kind_of_isHidden hc)

theorem namedChildOfKind_skeleton {k : Kind} (hk : ¬ (k = .other ∨ k = .classDefinition)) :
    n.skeleton.namedChildOfKind k = (n.namedChildOfKind k).map skeleton := by
  rw [namedChildOfKind, namedChildOfKind, namedChildren, namedChildren, List.find?_filter,
    List.find?_filter]
  refine find?_children_skeleton n (fun c hc => ?_) (by simp)
  rw [decide_eq_false_iff_not]
  rintro ⟨-, hkind⟩
  rw [decide_eq_true_eq] at hkind
  exact hk (hkind ▸ kind_of_isHidden hc)

theorem childByField_skeleton (name : String) :
    n.skeleton.childByField name = (n.childByField name).map skeleton := by
  refine find?_children_skeleton n (fun c hc => ?_) (by simp)
  simp [field_of_isHidden hc]

end Lookup

/-! ## What a node declares -/

section Declared

variable (n : Node)

@[simp] theorem extendsTarget_skeleton : n.skeleton.extendsTarget = n.extendsTarget := by
  simp [extendsTarget, namedChildOfKind_skeleton, Function.comp_def]

theorem hasNamedChild_skeleton {k : Kind} (hk : ¬ (k = .other ∨ k = .classDefinition)) :
    n.skeleton.HasNamedChild k ↔ n.HasNamedChild k := by
  rw [← namedChildOfKind_isSome_iff, ← namedChildOfKind_isSome_iff, namedChildOfKind_skeleton n hk,
    Option.isSome_map]

theorem namedChildText_skeleton {k : Kind} (hk : ¬ (k = .other ∨ k = .classDefinition)) :
    n.skeleton.namedChildText k = n.namedChildText k := by
  simp [namedChildText, namedChildOfKind_skeleton n hk, Function.comp_def]

theorem variableType_skeleton : n.skeleton.variableType = n.variableType := by
  simp [variableType, childOfKind_skeleton, childByField_skeleton, Option.bind_map,
    Function.comp_def]

theorem fieldBinding_skeleton : n.skeleton.fieldBinding = n.fieldBinding := by
  simp [fieldBinding, namedChildText_skeleton, variableType_skeleton, childByField_skeleton,
    Function.comp_def]

/-- A child by its field, or else by its kind. -/
theorem map_childByField_orElse {β : Type} {g : Node → β} (name : String) {k : Kind}
    (hk : ¬ (k = .other ∨ k = .classDefinition)) (hg : ∀ c, g c.skeleton = g c) :
    (n.skeleton.childByField name <|> n.skeleton.childOfKind k).map g =
      (n.childByField name <|> n.childOfKind k).map g := by
  simp only [Option.orElse_eq_orElse, Option.orElse_eq_or, Option.map_or, childByField_skeleton,
    childOfKind_skeleton n hk, Option.map_map, Function.comp_def, hg]

@[simp] theorem parameter_skeleton : n.skeleton.parameter = n.parameter := by
  have hname : (n.skeleton.namedChildOfKind .identifier).map text =
      (n.namedChildOfKind .identifier).map text := by
    simp [namedChildOfKind_skeleton, Function.comp_def]
  have hvalue : (n.skeleton.childByField "value").map text = (n.childByField "value").map text := by
    simp [childByField_skeleton, Function.comp_def]
  have htype := n.map_childByField_orElse "type" (k := .type) (by decide) text_skeleton
  simp only [parameter, kind_skeleton, text_skeleton, hname, htype, hvalue]

theorem parameter_of_isHidden {c : Node} (h : c.isHidden = true) : c.parameter = none := by
  rcases kind_of_isHidden h with hk | hk <;> simp [parameter, hk]

theorem parameterList_skeleton : n.skeleton.parameterList = n.parameterList := by
  rw [parameterList, parameterList, childOfKind_skeleton n (by decide)]
  cases n.childOfKind .parameters with
  | none => rfl
  | some list =>
      exact filterMap_children_skeleton list (fun c => parameter_of_isHidden) parameter_skeleton

theorem returnType_skeleton : n.skeleton.returnType = n.returnType := by
  rw [returnType, returnType, childByField_skeleton]
  cases n.childByField "return_type" with
  | none => rfl
  | some t =>
      rw [Option.map_some, Option.map_some, Option.map_some, childOfKind_skeleton t (by decide)]
      cases t.childOfKind .identifier <;> simp

theorem methodName_skeleton : n.skeleton.methodName = n.methodName := by
  rw [methodName, methodName, kind_skeleton,
    n.map_childByField_orElse "name" (by decide) text_skeleton]

theorem functionName_skeleton : n.skeleton.functionName = n.functionName := by
  rw [← methodName_getD, methodName_skeleton, methodName_getD]

theorem hasMethodName_skeleton : n.skeleton.HasMethodName ↔ n.HasMethodName := by
  rw [HasMethodName, HasMethodName, functionName_skeleton]

theorem declaredMethod_skeleton : n.skeleton.declaredMethod = n.declaredMethod := by
  rw [declaredMethod, declaredMethod, functionName_skeleton, returnType_skeleton,
    parameterList_skeleton]

theorem isExporting_of_isHidden {c : Node} (h : c.isHidden = true) : c.isExporting = false := by
  rcases kind_of_isHidden h with hk | hk <;> simp [isExporting_eq, hk]

@[simp] theorem isExporting_skeleton (n : Node) : n.skeleton.isExporting = n.isExporting := by
  induction n using Node.induction with
  | step n ih =>
      rw [isExporting_eq, isExporting_eq, kind_skeleton]
      split
      · refine any_children_skeleton n (fun c hc => ?_) (by simp)
        rcases kind_of_isHidden hc with hk | hk <;> simp [hk]
      · exact any_children_skeleton n (fun c => isExporting_of_isHidden) ih
      · rfl

theorem any_isExporting_skeleton :
    n.skeleton.children.any isExporting = n.children.any isExporting :=
  any_children_skeleton n (fun _ => isExporting_of_isHidden) fun c _ => isExporting_skeleton c

end Declared

end ScriptTypings.Node
