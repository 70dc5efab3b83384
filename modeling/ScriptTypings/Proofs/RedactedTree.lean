import ScriptTypings.Proofs.TreeSkeleton

/-!
# Punctuation and inner classes

Brackets, separators and key words are tokens without a field and without children. Leaving all of
them out moves the other nodes to new positions, and what an inner class holds can be anything. A
tree that is redacted in this way keeps its class record: no lookup finds what is left out or
exchanged, the siblings before a node look the same from there, and what is below an inner class is
not read.
-/

namespace ScriptTypings.Node

/-- A token that fills no field and has nothing below it. -/
def isPunctuation (n : Node) : Bool :=
  n.isNamed = false ∧ n.field = none ∧ n.children.isEmpty

/-- An inner class that fills no field. -/
def isInnerClass (n : Node) : Bool :=
  n.kind = .classDefinition ∧ n.field = none

/-- The nodes that are put below the inner classes of a tree, by the addresses of the classes. -/
abbrev Bodies := List Nat → List Node

mutual

/-- The node at an address without the punctuation below it, and with other bodies for the inner
classes. -/
def redactedFrom (bodies : Bodies) (address : List Nat) : Node → Node
  | .mk label text field children =>
      .mk label text field
        (if (Node.mk label text field children).isInnerClass then bodies address
         else eachRedacted bodies address 0 children)

def eachRedacted (bodies : Bodies) (address : List Nat) (i : Nat) : List Node → List Node
  | [] => []
  | c :: rest =>
      if c.isPunctuation then eachRedacted bodies address (i + 1) rest
      else redactedFrom bodies (address ++ [i]) c :: eachRedacted bodies address (i + 1) rest

end

def redacted (bodies : Bodies) (root : Node) : Node :=
  root.redactedFrom bodies []

/-! ## What is seen of earlier siblings -/

/-- What a later sibling sees of a node: what stands below a hidden one does not show. -/
def outline (n : Node) : Node :=
  if n.isHidden then .mk n.label n.text n.field [] else n.skeleton

section Outline

variable (n : Node) (earlier : List Node)

@[simp] theorem kind_outline : n.outline.kind = n.kind := by
  rw [outline]
  split
  · rfl
  · exact n.kind_skeleton

@[simp] theorem isExporting_outline : n.outline.isExporting = n.isExporting := by
  rw [outline]
  split
  · next h =>
      rw [isExporting_of_isHidden h]
      exact isExporting_of_isHidden h
  · exact n.isExporting_skeleton

theorem outline_of_extends {n : Node} (h : n.kind = .extendsStatement) :
    n.outline = n.skeleton := by
  simp [outline, isHidden, h]

theorem isExported_outline :
    n.skeleton.isExported (earlier.map outline) = n.isExported earlier := by
  have hannotated : isAnnotated ∘ outline = isAnnotated := by
    funext s
    simp [isAnnotated]
  rw [isExported, isExported, any_isExporting_skeleton, List.takeWhile_map, List.any_map,
    hannotated]
  simp [Function.comp_def]

theorem ownBase_outline :
    (n.skeleton.ownExtends (earlier.map outline)).bind extendsTarget =
      (n.ownExtends earlier).bind extendsTarget := by
  have hchild : (n.skeleton.childOfKind .extendsStatement).bind extendsTarget =
      (n.childOfKind .extendsStatement).bind extendsTarget := by
    simp only [childOfKind_skeleton n (k := .extendsStatement) (by decide), Option.bind_map,
      Function.comp_def, extendsTarget_skeleton]
  cases earlier with
  | nil => simpa [ownExtends] using hchild
  | cons s rest =>
      by_cases hs : s.kind = .extendsStatement
      · simp [ownExtends, Option.filter, hs, outline_of_extends hs]
      · simpa [ownExtends, Option.filter, hs] using hchild

/-- What a node declares shows in its skeleton and in what is seen of its earlier siblings. -/
theorem ownFacts_outline (scope : Scope) :
    n.skeleton.ownFacts scope (earlier.map outline) = n.ownFacts scope earlier := by
  have hname : n.skeleton.classNameFact (earlier.map outline) = n.classNameFact earlier := by
    simp [classNameFact, namedChildOfKind_skeleton, ownBase_outline, Function.comp_def]
  have hfield : n.skeleton.variableFact (earlier.map outline) = n.variableFact earlier := by
    simp [variableFact, namedChildOfKind_skeleton, childByField_skeleton, isExported_outline,
      variableType_skeleton, Function.comp_def]
  have hmethod : n.skeleton.method = n.method := by
    rw [method, method, methodName_skeleton, returnType_skeleton, parameterList_skeleton]
  have hinner : n.skeleton.innerClassName = n.innerClassName := by
    simp [innerClassName, childByField_skeleton, Function.comp_def]
  rw [ownFacts, ownFacts, kind_skeleton, hname, hfield, hmethod, hinner, extendsTarget_skeleton]

end Outline

/-! ## Redacted nodes -/

section Redacted

variable (bodies : Bodies) (address : List Nat) (n : Node)

@[simp] theorem label_redactedFrom : (n.redactedFrom bodies address).label = n.label := by
  cases n
  simp only [redactedFrom, label]

@[simp] theorem text_redactedFrom : (n.redactedFrom bodies address).text = n.text := by
  cases n
  simp only [redactedFrom, text]

@[simp] theorem field_redactedFrom : (n.redactedFrom bodies address).field = n.field := by
  cases n
  simp only [redactedFrom, field]

@[simp] theorem kind_redactedFrom : (n.redactedFrom bodies address).kind = n.kind := by
  rw [kind, kind, label_redactedFrom]

@[simp] theorem isNamed_redactedFrom : (n.redactedFrom bodies address).isNamed = n.isNamed := by
  rw [isNamed, isNamed, label_redactedFrom]

@[simp] theorem isHidden_redactedFrom :
    (n.redactedFrom bodies address).isHidden = n.isHidden := by
  rw [isHidden, isHidden, field_redactedFrom, kind_redactedFrom]

theorem children_redactedFrom :
    (n.redactedFrom bodies address).children =
      if n.isInnerClass then bodies address else eachRedacted bodies address 0 n.children := by
  cases n
  simp only [redactedFrom, children]

end Redacted

/-- A token is of no listed kind. -/
theorem kind_of_not_isNamed {n : Node} (h : n.isNamed = false) : n.kind = .other := by
  rw [isNamed] at h
  rw [kind]
  cases hlabel : n.label with
  | named grammarName => simp [hlabel] at h
  | token => rfl

theorem isPunctuation_iff (n : Node) :
    n.isPunctuation = true ↔ n.isNamed = false ∧ n.field = none ∧ n.children = [] := by
  simp [isPunctuation]

theorem isHidden_of_isPunctuation {n : Node} (h : n.isPunctuation = true) : n.isHidden = true := by
  obtain ⟨hnamed, hfield, -⟩ := (isPunctuation_iff n).mp h
  simp [isHidden, hfield, kind_of_not_isNamed hnamed]

theorem isInnerClass_of_not_isHidden {n : Node} (h : n.isHidden = false) :
    n.isInnerClass = false := by
  simp only [isHidden, isInnerClass, decide_eq_false_iff_not] at h ⊢
  exact fun hinner => h ⟨hinner.2, Or.inr hinner.1⟩

section Skeleton

variable {bodies : Bodies} {address : List Nat}

theorem eachSkeleton_eachRedacted {i : Nat} {nodes : List Node}
    (h : ∀ c ∈ nodes, c.isHidden = false → ∀ a, (c.redactedFrom bodies a).skeleton = c.skeleton) :
    eachSkeleton (eachRedacted bodies address i nodes) = eachSkeleton nodes := by
  induction nodes generalizing i with
  | nil => rfl
  | cons c rest ih =>
      have hrest : eachSkeleton (eachRedacted bodies address (i + 1) rest) = eachSkeleton rest :=
        ih fun d hd => h d (by simp [hd])
      rw [eachRedacted, eachSkeleton]
      cases hp : c.isPunctuation with
      | true => rw [if_pos rfl, hrest, if_pos (isHidden_of_isPunctuation hp)]
      | false =>
          rw [if_neg (by simp), eachSkeleton, isHidden_redactedFrom, hrest]
          cases hc : c.isHidden with
          | true => rfl
          | false => rw [h c (by simp) hc]

/-- Redaction keeps the skeleton of a node that is no inner class itself. -/
theorem skeleton_redactedFrom {n : Node} (h : n.isInnerClass = false) (address : List Nat) :
    (n.redactedFrom bodies address).skeleton = n.skeleton := by
  induction n using Node.induction generalizing address with
  | step n ih =>
      obtain ⟨label, text, field, children⟩ := n
      have heach : eachSkeleton (eachRedacted bodies address 0 children) =
          eachSkeleton children := by
        apply eachSkeleton_eachRedacted
        intro c hc hshown a
        exact ih c hc (isInnerClass_of_not_isHidden hshown) a
      rw [redactedFrom, h, if_neg (by simp), skeleton, skeleton, heach]

/-- Redaction does not show from beside a node. -/
theorem outline_redactedFrom (n : Node) (address : List Nat) :
    (n.redactedFrom bodies address).outline = n.outline := by
  rw [outline, outline, isHidden_redactedFrom, label_redactedFrom, text_redactedFrom,
    field_redactedFrom]
  cases hn : n.isHidden with
  | true => rfl
  | false => rw [skeleton_redactedFrom (isInnerClass_of_not_isHidden hn)]

end Skeleton

/-! ## Facts of a redacted tree -/

section Facts

variable {bodies : Bodies} {address : List Nat}

/-- The run over the children of a node, if each child has the facts that it has without redaction.
Inner classes are left out on both sides, since their names can differ. -/
theorem childFacts_eachRedacted {scope : Scope} {i : Nat} {nodes earlier earlier' : List Node}
    (h : ∀ c ∈ nodes, ∀ a, ∀ before before' : List Node, before'.map outline = before.map outline →
      ((c.redactedFrom bodies a).facts scope before').filter Fact.isRecorded =
        (c.facts scope before).filter Fact.isRecorded)
    (hearlier : earlier'.map outline = earlier.map outline) :
    (childFacts scope earlier' (eachRedacted bodies address i nodes)).filter Fact.isRecorded =
      (childFacts scope earlier nodes).filter Fact.isRecorded := by
  induction nodes generalizing i earlier earlier' with
  | nil => simp [eachRedacted, childFacts]
  | cons c rest ih =>
      have hrest := fun d hd => h d (List.mem_cons_of_mem c hd)
      rw [eachRedacted, childFacts]
      cases hp : c.isPunctuation with
      | true =>
          obtain ⟨hnamed, -, hchildren⟩ := (isPunctuation_iff c).mp hp
          rw [if_pos rfl, facts_of_leaf (kind_of_not_isNamed hnamed) hchildren, hnamed,
            if_neg (by simp), List.nil_append]
          exact ih hrest hearlier
      | false =>
          have hnext : (if c.isNamed then redactedFrom bodies (address ++ [i]) c :: earlier'
                else earlier').map outline =
              (if c.isNamed then c :: earlier else earlier).map outline := by
            cases c.isNamed <;> simp [hearlier, outline_redactedFrom]
          rw [if_neg (by simp), childFacts, isNamed_redactedFrom, List.filter_append,
            List.filter_append, h c (by simp) _ _ _ hearlier, ih hrest hnext]

/-- Redaction leaves all facts of a node and of what is below it but the names of inner classes. -/
theorem facts_redactedFrom (n : Node) (scope : Scope) (address : List Nat)
    (earlier earlier' : List Node) (h : earlier'.map outline = earlier.map outline) :
    ((n.redactedFrom bodies address).facts scope earlier').filter Fact.isRecorded =
      (n.facts scope earlier).filter Fact.isRecorded := by
  induction n using Node.induction generalizing scope address earlier earlier' with
  | step n ih =>
      rw [facts_eq, facts_eq, kind_redactedFrom, children_redactedFrom]
      by_cases hk : n.kind = .classDefinition
      · simp [ownFacts, hk, Fact.isRecorded]
      · have hinner : n.isInnerClass = false := by simp [isInnerClass, hk]
        have hown : (n.redactedFrom bodies address).ownFacts scope earlier' =
            n.ownFacts scope earlier := by
          rw [← ownFacts_outline, ← ownFacts_outline n, skeleton_redactedFrom hinner, h]
        rw [if_neg hk, if_neg hk, hinner, if_neg (by simp), List.filter_append, List.filter_append,
          hown]
        congr 1
        exact childFacts_eachRedacted (fun c hc a before before' => ih c hc _ a before before') rfl

end Facts

/-- Punctuation and inner classes are invisible. A tree keeps its class record, or has none as
before, when all punctuation is left out of it and any nodes are put below its inner classes. -/
theorem classRecord_of_redacted (bodies : Bodies) (root : Node) :
    (root.redacted bodies).classRecord = root.classRecord := by
  calc
    (root.redacted bodies).classRecord =
        recordOf ((root.redacted bodies).rootFacts.filter Fact.isRecorded) :=
      (recordOf_filter_isRecorded _).symm
    _ = recordOf (root.rootFacts.filter Fact.isRecorded) :=
      congrArg recordOf (facts_redactedFrom root .classBody [] [] [] rfl)
    _ = root.classRecord := recordOf_filter_isRecorded _

end ScriptTypings.Node
