import ScriptTypings.Proofs.TreeSkeleton

/-!
# Trees with comments

A comment is a named node without children, and it can stand anywhere among the children of a node.
Adding comments to a tree keeps its other nodes in their order, each with its kind, its text and its
field. Comments are hidden, so a tree has the same skeleton with them and without. What is looked up
among the children of a node is then found as before, and so are its parameters and its annotations.
-/

namespace ScriptTypings

/-- A comment as it stands in a tree. -/
def Node.comment (text : String) : Node :=
  .mk (.named "comment") text none []

/-- The texts of the comments that are added right before each node of a list, which starts with the
number `i`, and behind its end. -/
def interleave (gaps : Nat → List String) (i : Nat) : List Node → List Node
  | [] => (gaps i).map Node.comment
  | n :: rest => (gaps i).map Node.comment ++ n :: interleave gaps (i + 1) rest

/-- The comments to be added to a tree: below the node at an address, right before the child of a
number, or behind all children for their number. -/
abbrev Comments := List Nat → Nat → List String

namespace Node

mutual

/-- The node at an address with the comments that are added at and below it. -/
def withCommentsFrom (added : Comments) (address : List Nat) : Node → Node
  | .mk label text field children =>
      .mk label text field
        (interleave (added address) 0 (eachWithComments added address 0 children))

def eachWithComments (added : Comments) (address : List Nat) (i : Nat) : List Node → List Node
  | [] => []
  | c :: rest =>
      withCommentsFrom added (address ++ [i]) c :: eachWithComments added address (i + 1) rest

end

def withComments (added : Comments) (root : Node) : Node :=
  root.withCommentsFrom added []

end Node

/-! ## Lists with comments -/

section Interleave

variable {gaps : Nat → List String} {i : Nat}

theorem interleave_concat (front : List Node) (s : Node) :
    interleave gaps i (front ++ [s]) =
      interleave gaps i front ++ s :: (gaps (i + front.length + 1)).map Node.comment := by
  induction front generalizing i with
  | nil => simp [interleave]
  | cons n front ih =>
      rw [List.cons_append, interleave, interleave, ih, List.append_assoc, List.cons_append,
        List.length_cons, Nat.add_right_comm i 1, ← Nat.add_assoc i]

/-- What comments do not pass is selected as if they were not there. -/
theorem filter_interleave {P : Node → Bool} (hP : ∀ text, P (.comment text) = false)
    (nodes : List Node) : (interleave gaps i nodes).filter P = nodes.filter P := by
  have hgap : ∀ texts : List String, (texts.map Node.comment).filter P = [] := by
    intro texts
    simp [hP]
  induction nodes generalizing i with
  | nil => exact hgap (gaps i)
  | cons n rest ih =>
      rw [interleave, List.filter_append, hgap, List.nil_append, List.filter_cons, List.filter_cons,
        ih]

end Interleave

namespace Node

/-! ## Nodes with comments -/

@[simp] theorem kind_comment (text : String) : (comment text).kind = .other := rfl

@[simp] theorem isNamed_comment (text : String) : (comment text).isNamed = true := rfl

@[simp] theorem isHidden_comment (text : String) : (comment text).isHidden = true := by
  rw [isHidden, kind_comment]
  simp [comment, field]

section Kept

variable (added : Comments) (address : List Nat) (n : Node)

@[simp] theorem label_withCommentsFrom : (n.withCommentsFrom added address).label = n.label := by
  cases n
  simp only [withCommentsFrom, label]

@[simp] theorem field_withCommentsFrom : (n.withCommentsFrom added address).field = n.field := by
  cases n
  simp only [withCommentsFrom, field]

@[simp] theorem kind_withCommentsFrom : (n.withCommentsFrom added address).kind = n.kind := by
  rw [kind, kind, label_withCommentsFrom]

@[simp] theorem isNamed_withCommentsFrom :
    (n.withCommentsFrom added address).isNamed = n.isNamed := by
  rw [isNamed, isNamed, label_withCommentsFrom]

theorem isHidden_withCommentsFrom :
    (n.withCommentsFrom added address).isHidden = n.isHidden := by
  rw [isHidden, isHidden, field_withCommentsFrom, kind_withCommentsFrom]

theorem children_withCommentsFrom :
    (n.withCommentsFrom added address).children =
      interleave (added address) 0 (eachWithComments added address 0 n.children) := by
  cases n
  simp only [withCommentsFrom, children]

end Kept

section Each

variable {added : Comments} {address : List Nat} {i : Nat}

@[simp] theorem length_eachWithComments (nodes : List Node) :
    (eachWithComments added address i nodes).length = nodes.length := by
  induction nodes generalizing i with
  | nil => rfl
  | cons n rest ih => simp [eachWithComments, ih]

theorem eachWithComments_concat (front : List Node) (s : Node) :
    eachWithComments added address i (front ++ [s]) =
      eachWithComments added address i front ++
        [s.withCommentsFrom added (address ++ [i + front.length])] := by
  induction front generalizing i with
  | nil => simp [eachWithComments]
  | cons n front ih =>
      rw [List.cons_append, eachWithComments, eachWithComments, ih, List.cons_append,
        List.length_cons, Nat.add_right_comm i 1, ← Nat.add_assoc i]

theorem eachSkeleton_eachWithComments {nodes : List Node}
    (h : ∀ n ∈ nodes, ∀ a, (n.withCommentsFrom added a).skeleton = n.skeleton) :
    eachSkeleton (eachWithComments added address i nodes) = eachSkeleton nodes := by
  induction nodes generalizing i with
  | nil => rfl
  | cons n rest ih =>
      rw [eachWithComments, eachSkeleton, eachSkeleton, isHidden_withCommentsFrom, h n (by simp),
        ih fun c hc => h c (by simp [hc])]

end Each

/-! ## What is looked up in a node -/

section Lookup

variable {added : Comments} {address : List Nat} {β : Type}

/-- Comments are no part of the skeleton. -/
theorem skeleton_withCommentsFrom (n : Node) (address : List Nat) :
    (n.withCommentsFrom added address).skeleton = n.skeleton := by
  induction n using Node.induction generalizing address with
  | step n ih =>
      obtain ⟨label, text, field, children⟩ := n
      have heach : eachSkeleton (eachWithComments added address 0 children) =
          eachSkeleton children := eachSkeleton_eachWithComments ih
      rw [withCommentsFrom, skeleton, skeleton, eachSkeleton_eq,
        filter_interleave fun text => by simp, ← eachSkeleton_eq, heach]

theorem bind_childOfKind (n : Node) {k : Kind} (hk : ¬ (k = .other ∨ k = .classDefinition))
    {g : Node → Option β} (hg : ∀ c, g c.skeleton = g c) :
    ((n.withCommentsFrom added address).childOfKind k).bind g = (n.childOfKind k).bind g := by
  have hshown : ∀ m : Node, (m.childOfKind k).bind g = (m.skeleton.childOfKind k).bind g := by
    intro m
    simp only [childOfKind_skeleton m hk, Option.bind_map, Function.comp_def, hg]
  rw [hshown, skeleton_withCommentsFrom, ← hshown]

@[simp] theorem extendsTarget_withCommentsFrom (n : Node) :
    (n.withCommentsFrom added address).extendsTarget = n.extendsTarget := by
  rw [← extendsTarget_skeleton, skeleton_withCommentsFrom, extendsTarget_skeleton]

theorem namedChildText_withCommentsFrom (n : Node) {k : Kind}
    (hk : ¬ (k = .other ∨ k = .classDefinition)) :
    (n.withCommentsFrom added address).namedChildText k = n.namedChildText k := by
  rw [← namedChildText_skeleton _ hk, skeleton_withCommentsFrom, namedChildText_skeleton _ hk]

theorem hasNamedChild_withCommentsFrom (n : Node) {k : Kind}
    (hk : ¬ (k = .other ∨ k = .classDefinition)) :
    (n.withCommentsFrom added address).HasNamedChild k ↔ n.HasNamedChild k := by
  rw [← hasNamedChild_skeleton _ hk, skeleton_withCommentsFrom, hasNamedChild_skeleton _ hk]

@[simp] theorem fieldBinding_withCommentsFrom (n : Node) :
    (n.withCommentsFrom added address).fieldBinding = n.fieldBinding := by
  rw [← fieldBinding_skeleton, skeleton_withCommentsFrom, fieldBinding_skeleton]

@[simp] theorem declaredMethod_withCommentsFrom (n : Node) :
    (n.withCommentsFrom added address).declaredMethod = n.declaredMethod := by
  rw [← declaredMethod_skeleton, skeleton_withCommentsFrom, declaredMethod_skeleton]

@[simp] theorem hasMethodName_withCommentsFrom (n : Node) :
    (n.withCommentsFrom added address).HasMethodName ↔ n.HasMethodName := by
  rw [← hasMethodName_skeleton, skeleton_withCommentsFrom, hasMethodName_skeleton]

/-- An annotation exports what it exports without comments in it. -/
theorem exporting_withCommentsFrom (n : Node) :
    (n.withCommentsFrom added address).Exporting ↔ n.Exporting := by
  rw [← isExporting_iff, ← isExporting_iff, ← isExporting_skeleton, skeleton_withCommentsFrom,
    isExporting_skeleton]

theorem any_isExporting_children (n : Node) :
    (n.withCommentsFrom added address).children.any isExporting = n.children.any isExporting := by
  rw [← any_isExporting_skeleton, skeleton_withCommentsFrom, any_isExporting_skeleton]

end Lookup

end Node

end ScriptTypings
