import ScriptTypings.Extraction
import ScriptTypings.Proofs.Place

/-!
# Facts by place

The traversal that collects the facts of a tree carries a scope and the named siblings passed so
far, and it turns back at inner classes. None of this state is needed to say what it collects: the
facts of a tree are, place by place in pre-order, what each node contributes where it stands. The
scope is read off the ancestors, the siblings off the child list above, and a place below an inner
class contributes nothing.
-/

namespace ScriptTypings

/-- Nodes whose declarations below are locals. -/
def Kind.opensBody : Kind → Bool
  | .functionDefinition | .constructorDefinition | .lambda | .setBody | .getBody => true
  | _ => false

theorem Scope.below_eq (scope : Scope) (k : Kind) :
    scope.below k = if k.opensBody then .functionBody else scope := by
  cases k <;> rfl

namespace Place

/-- No ancestor is an inner class. -/
def Outside (p : Place) : Prop :=
  ∀ a ∈ p.ancestors, a.kind ≠ .classDefinition

instance (p : Place) : Decidable p.Outside :=
  inferInstanceAs (Decidable (∀ a ∈ p.ancestors, a.kind ≠ .classDefinition))

/-- Neither the node nor an ancestor of it is an inner class. -/
def Live (p : Place) : Prop :=
  p.node.kind ≠ .classDefinition ∧ p.Outside

instance (p : Place) : Decidable p.Live :=
  inferInstanceAs (Decidable (_ ∧ _))

/-- No ancestor is a function, a constructor, a lambda or the body of a property accessor. -/
def OutsideBodies (p : Place) : Prop :=
  ∀ a ∈ p.ancestors, a.kind.opensBody = false

instance (p : Place) : Decidable p.OutsideBodies :=
  inferInstanceAs (Decidable (∀ a ∈ p.ancestors, a.kind.opensBody = false))

/-- Where a declaration is one of the class itself. -/
def ClassLevel (p : Place) : Prop :=
  p.Live ∧ p.OutsideBodies

instance (p : Place) : Decidable p.ClassLevel :=
  inferInstanceAs (Decidable (_ ∧ _))

/-- The scope that the ancestors of a place leave it in. -/
def scope (p : Place) : Scope :=
  if p.OutsideBodies then .classBody else .functionBody

theorem scope_eq_classBody_iff (p : Place) : p.scope = .classBody ↔ p.OutsideBodies := by
  by_cases h : p.OutsideBodies <;> simp [scope, h]

/-- The earlier named siblings, nearest first. -/
def earlierNamed (p : Place) : List Node :=
  (p.earlier.filter Node.isNamed).reverse

/-- What the node of a place contributes by itself. -/
def facts (p : Place) : List Fact :=
  if p.Outside then p.node.ownFacts p.scope p.earlierNamed else []

theorem outsideBodies_child (p : Place) (before : List Node) (c : Node) :
    (p.child before c).OutsideBodies ↔ p.node.kind.opensBody = false ∧ p.OutsideBodies := by
  simp [OutsideBodies, child]

theorem scope_child (p : Place) (before : List Node) (c : Node) :
    (p.child before c).scope = p.scope.below p.node.kind := by
  rw [Scope.below_eq]
  cases h : p.node.kind.opensBody <;> simp [scope, outsideBodies_child, h]

theorem outside_child (p : Place) (before : List Node) (c : Node) :
    (p.child before c).Outside ↔ p.Live := by
  simp [Live, Outside, child]

/-- Whatever is above a place is above all places below it. -/
theorem Reaches.ancestors_subset {p q : Place} (h : p.Reaches q) : p.ancestors ⊆ q.ancestors := by
  induction h with
  | refl => exact List.Subset.refl _
  | child _ _ ih => exact fun a ha => List.mem_cons_of_mem _ (ih ha)

theorem not_outside_below_innerClass {p q : Place} {before rest : List Node}
    (hp : p.node.kind = .classDefinition) (hq : q ∈ p.listingAfter before rest) : ¬ q.Outside := by
  obtain ⟨middle, c, after, -, hq⟩ := (mem_listingAfter p q before rest).mp hq
  have habove : p.node ∈ q.ancestors :=
    ((mem_listing_iff_reaches _ q).mp hq).ancestors_subset List.mem_cons_self
  exact fun h => h p.node habove hp

/-- Nothing below an inner class contributes. -/
theorem facts_below_innerClass {p q : Place} {before rest : List Node}
    (hp : p.node.kind = .classDefinition) (hq : q ∈ p.listingAfter before rest) : q.facts = [] := by
  simp [facts, not_outside_below_innerClass hp hq]

end Place

namespace Node

theorem facts_eq (scope : Scope) (earlier : List Node) (n : Node) :
    n.facts scope earlier = n.ownFacts scope earlier ++
      if n.kind = .classDefinition then [] else childFacts (scope.below n.kind) [] n.children := by
  cases n
  simp only [facts, children]

/-- A node of no listed kind with nothing below it has no facts. -/
theorem facts_of_leaf {n : Node} (hk : n.kind = .other) (hc : n.children = []) (scope : Scope)
    (earlier : List Node) : n.facts scope earlier = [] := by
  simp [facts_eq, ownFacts, hk, hc, childFacts]

/-- One step among siblings: a named sibling joins those that the next one looks back on. -/
theorem named_reverse_concat (before : List Node) (n : Node) :
    ((before ++ [n]).filter isNamed).reverse =
      if n.isNamed then n :: (before.filter isNamed).reverse
      else (before.filter isNamed).reverse := by
  by_cases h : n.isNamed = true <;> simp [h]

/-- The run over the children of a node, if the facts of each child are those of its places. -/
theorem childFacts_eq (p : Place) (before rest : List Node)
    (h : ∀ front, ∀ c ∈ rest,
      c.facts (p.child front c).scope (p.child front c).earlierNamed =
        (p.child front c).listing.flatMap Place.facts) :
    childFacts (p.scope.below p.node.kind) (before.filter isNamed).reverse rest =
      (p.listingAfter before rest).flatMap Place.facts := by
  induction rest generalizing before with
  | nil => simp [childFacts]
  | cons c rest ih =>
      have hc := h before c (by simp)
      rw [Place.scope_child] at hc
      rw [childFacts, Place.listingAfter_cons, List.flatMap_append, ← hc, ← named_reverse_concat,
        ih (before ++ [c]) fun front d hd => h front d (by simp [hd])]
      rfl

/-- Outside inner classes, the facts of a node are what the places at and below it contribute. -/
theorem facts_eq_flatMap (p : Place) (h : p.Outside) :
    p.node.facts p.scope p.earlierNamed = p.listing.flatMap Place.facts := by
  induction hn : p.node using Node.induction generalizing p with
  | step n ih =>
      subst hn
      have hown : p.facts = p.node.ownFacts p.scope p.earlierNamed := by simp [Place.facts, h]
      rw [facts_eq, Place.listing_eq, List.flatMap_cons, hown]
      congr 1
      by_cases hk : p.node.kind = .classDefinition
      · rw [if_pos hk, eq_comm, List.flatMap_eq_nil_iff]
        exact fun q hq => Place.facts_below_innerClass hk hq
      · rw [if_neg hk]
        have hlive : p.Live := ⟨hk, h⟩
        exact childFacts_eq p [] _ fun front c hc =>
          ih c hc (p.child front c) ((Place.outside_child p front c).mpr hlive) rfl

/-- The facts of a tree are what its places contribute, in pre-order. -/
theorem rootFacts_eq (root : Node) : root.rootFacts = root.places.flatMap Place.facts :=
  facts_eq_flatMap root.rootPlace (by simp [Place.Outside, rootPlace])

end Node

end ScriptTypings
