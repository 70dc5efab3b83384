import ScriptTypings.Node.Basic
import Mathlib.Data.List.Basic

/-!
# Places of a syntax tree

Equal nodes can stand at several places of one tree, and what a node means depends on where it
stands. A place is a node together with the nodes above it and the siblings before it. `Reaches`
says which places a tree has, one step down at a time; `places` lists them by a traversal. The
listing has every place once, and its order is the lexicographic order of the addresses, in which
a node comes before all below it and these before its later siblings.
-/

namespace ScriptTypings

/-- What holds of a node whenever it holds of its children holds of every tree. -/
theorem Node.induction {P : Node → Prop}
    (step : ∀ n : Node, (∀ c ∈ n.children, P c) → P n) (n : Node) : P n := by
  match n with
  | .mk label text field children =>
      apply step
      intro c hc
      have hc : c ∈ children := hc
      exact Node.induction step c

/-- A node within a tree. The address is the way down to it by the positions of children. The
ancestors are listed nearest first, the earlier siblings in source order. -/
structure Place where
  address : List Nat
  ancestors : List Node
  earlier : List Node
  node : Node

namespace Place

/-- The place of a child, which follows the siblings `before`. -/
def child (p : Place) (before : List Node) (c : Node) : Place where
  address := p.address ++ [before.length]
  ancestors := p.node :: p.ancestors
  earlier := before
  node := c

/-- The places at and below a place. -/
inductive Reaches (start : Place) : Place → Prop
  | refl : Reaches start start
  | child {p : Place} {before after : List Node} {c : Node} (reached : Reaches start p)
      (split : p.node.children = before ++ c :: after) : Reaches start (p.child before c)

end Place

namespace Node

mutual

/-- A node at the given place, followed by the places below it. -/
def placesFrom (address : List Nat) (ancestors earlier : List Node) : Node → List Place
  | .mk label text field children =>
      let node := Node.mk label text field children
      ⟨address, ancestors, earlier, node⟩ ::
        childPlaces address (node :: ancestors) [] children

def childPlaces (address : List Nat) (ancestors earlier : List Node) : List Node → List Place
  | [] => []
  | n :: rest =>
      placesFrom (address ++ [earlier.length]) ancestors earlier n ++
        childPlaces address ancestors (earlier ++ [n]) rest

end

/-- The place of a whole tree: nothing above it and nothing before it. -/
def rootPlace (root : Node) : Place :=
  ⟨[], [], [], root⟩

end Node

namespace Place

/-- The places at and below a place, in pre-order. -/
def listing (p : Place) : List Place :=
  p.node.placesFrom p.address p.ancestors p.earlier

/-- The places below the children `rest` of a place, where the children `before` come first. -/
def listingAfter (p : Place) (before rest : List Node) : List Place :=
  Node.childPlaces p.address (p.node :: p.ancestors) before rest

theorem listing_eq (p : Place) : p.listing = p :: p.listingAfter [] p.node.children := by
  obtain ⟨address, ancestors, earlier, node⟩ := p
  cases node
  rfl

@[simp] theorem listingAfter_nil (p : Place) (before : List Node) :
    p.listingAfter before [] = [] := by
  simp [listingAfter, Node.childPlaces]

theorem listingAfter_cons (p : Place) (before : List Node) (c : Node) (rest : List Node) :
    p.listingAfter before (c :: rest) =
      (p.child before c).listing ++ p.listingAfter (before ++ [c]) rest := by
  simp [listingAfter, listing, child, Node.childPlaces]

/-- A place is listed below some children exactly if it is listed for one of them. -/
theorem mem_listingAfter (p q : Place) (before rest : List Node) :
    q ∈ p.listingAfter before rest ↔
      ∃ middle c after, rest = middle ++ c :: after ∧
        q ∈ (p.child (before ++ middle) c).listing := by
  induction rest generalizing before with
  | nil => simp
  | cons n rest ih =>
      rw [listingAfter_cons, List.mem_append, ih]
      constructor
      · rintro (h | ⟨middle, c, after, hrest, h⟩)
        · exact ⟨[], n, rest, rfl, by simpa using h⟩
        · exact ⟨n :: middle, c, after, by simp [hrest], by simpa using h⟩
      · rintro ⟨middle, c, after, hrest, h⟩
        cases middle with
        | nil =>
            obtain ⟨rfl, rfl⟩ : n = c ∧ rest = after := by simpa using hrest
            exact Or.inl (by simpa using h)
        | cons m middle =>
            obtain ⟨rfl, htail⟩ : n = m ∧ rest = middle ++ c :: after := by simpa using hrest
            exact Or.inr ⟨middle, c, after, htail, by simpa using h⟩

/-- A place is listed at or below another exactly if it is that place itself or is listed for one
of its children. -/
theorem mem_listing (p q : Place) :
    q ∈ p.listing ↔
      q = p ∨ ∃ before c after, p.node.children = before ++ c :: after ∧
        q ∈ (p.child before c).listing := by
  rw [listing_eq, List.mem_cons, mem_listingAfter]
  simp

theorem self_mem_listing (p : Place) : p ∈ p.listing :=
  (mem_listing p p).mpr (Or.inl rfl)

/-- The child of a split child list is a child. -/
theorem mem_children_of_split {n c : Node} {before after : List Node}
    (split : n.children = before ++ c :: after) : c ∈ n.children := by
  simp [split]

theorem reaches_of_mem_listing {start p q : Place} (hp : start.Reaches p) (hq : q ∈ p.listing) :
    start.Reaches q := by
  induction hn : p.node using Node.induction generalizing p with
  | step n ih =>
      subst hn
      rcases (mem_listing p q).mp hq with rfl | ⟨before, c, after, split, hq⟩
      · exact hp
      · exact ih c (mem_children_of_split split) (hp.child split) hq rfl

/-- The listing is closed under going down to a child. -/
theorem child_mem_listing {p q : Place} (hq : q ∈ p.listing) {before after : List Node} {c : Node}
    (split : q.node.children = before ++ c :: after) : q.child before c ∈ p.listing := by
  induction hn : p.node using Node.induction generalizing p with
  | step n ih =>
      subst hn
      apply (mem_listing p _).mpr
      right
      rcases (mem_listing p q).mp hq with rfl | ⟨before', c', after', split', hq⟩
      · exact ⟨before, c, after, split, self_mem_listing _⟩
      · exact ⟨before', c', after', split',
          ih c' (mem_children_of_split split') hq rfl⟩

/-- The listing has exactly the places that are reached step by step. -/
theorem mem_listing_iff_reaches (p q : Place) : q ∈ p.listing ↔ p.Reaches q := by
  constructor
  · exact reaches_of_mem_listing .refl
  · intro h
    induction h with
    | refl => exact self_mem_listing p
    | child _ split ih => exact child_mem_listing ih split

/-- The address of a place starts with the addresses of all places above it. -/
theorem Reaches.address_extends {p q : Place} (h : p.Reaches q) : p.address <+: q.address := by
  induction h with
  | refl => exact List.prefix_refl _
  | child _ _ ih => exact ih.trans (List.prefix_append _ _)

/-- Going down to a child and further makes the address larger. -/
theorem address_lt_of_mem_listing_child {p q : Place} {before : List Node} {c : Node}
    (hq : q ∈ (p.child before c).listing) : p.address < q.address := by
  obtain ⟨rest, hrest⟩ := ((mem_listing_iff_reaches _ q).mp hq).address_extends
  calc
    p.address = p.address ++ [] := (List.append_nil _).symm
    _ < p.address ++ before.length :: rest := List.append_left_lt (List.nil_lt_cons _ _)
    _ = q.address := by rw [← hrest, child, List.append_assoc, List.singleton_append]

/-- What stands at and below a child comes before what stands at and below a later one. -/
theorem address_lt_of_later_child {p q r : Place} {before before' : List Node} {c c' : Node}
    (hlen : before.length < before'.length) (hq : q ∈ (p.child before c).listing)
    (hr : r ∈ (p.child before' c').listing) : q.address < r.address := by
  obtain ⟨s, hs⟩ := ((mem_listing_iff_reaches _ q).mp hq).address_extends
  obtain ⟨t, ht⟩ := ((mem_listing_iff_reaches _ r).mp hr).address_extends
  rw [← hs, ← ht, child, child, List.append_assoc, List.append_assoc]
  apply List.append_left_lt
  exact List.cons_lt_cons_iff.mpr (Or.inl hlen)

theorem listingAfter_ordered (p : Place) (before rest : List Node)
    (h : ∀ front, ∀ c ∈ rest,
      (p.child front c).listing.Pairwise fun q r => q.address < r.address) :
    (p.listingAfter before rest).Pairwise fun q r => q.address < r.address := by
  induction rest generalizing before with
  | nil => simp
  | cons c rest ih =>
      rw [listingAfter_cons, List.pairwise_append]
      refine ⟨h before c (by simp), ih _ fun front d hd => h front d (by simp [hd]), ?_⟩
      intro q hq r hr
      obtain ⟨middle, d, after, -, hr⟩ := (mem_listingAfter p r _ rest).mp hr
      exact address_lt_of_later_child (by simp) hq hr

/-- The listing is in the order of the addresses, so no place is listed twice. -/
theorem listing_ordered (p : Place) :
    p.listing.Pairwise fun q r => q.address < r.address := by
  induction hn : p.node using Node.induction generalizing p with
  | step n ih =>
      subst hn
      rw [listing_eq, List.pairwise_cons]
      constructor
      · intro q hq
        obtain ⟨middle, c, after, -, hq⟩ := (mem_listingAfter p q _ _).mp hq
        exact address_lt_of_mem_listing_child hq
      · exact listingAfter_ordered p [] _ fun front c hc => ih c hc (p.child front c) rfl

end Place

/-- A list of all the places of a tree, each once, in source order: by increasing address. -/
structure IsPreorder (root : Node) (listed : List Place) : Prop where
  mem_iff : ∀ p, p ∈ listed ↔ root.rootPlace.Reaches p
  ordered : listed.Pairwise fun p q => p.address < q.address

/-- All places of a tree in pre-order. -/
def Node.places (root : Node) : List Place :=
  root.rootPlace.listing

theorem Node.isPreorder_places (root : Node) : IsPreorder root root.places where
  mem_iff := Place.mem_listing_iff_reaches root.rootPlace
  ordered := Place.listing_ordered root.rootPlace

end ScriptTypings
