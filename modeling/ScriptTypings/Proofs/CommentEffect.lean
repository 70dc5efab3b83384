import ScriptTypings.Proofs.ClassRecord
import ScriptTypings.Proofs.CommentedTree

/-!
# What comments change

Two lookups go back over the named siblings before a node, and a comment is one of these. An export
mark above a variable counts only if no comment separates the two, and the `extends` above a
`class_name` belongs to it only if no comment stands between them. Nothing else is lost: a tree has
the same record with comments and without exactly if they cut off no such mark and no base class.
-/

namespace ScriptTypings

/-! ## Places with comments -/

namespace Place

/-- The comments that are added among the siblings of a place. A whole tree has no siblings. -/
def gaps (added : Comments) (p : Place) : Nat → List String :=
  if p.address = [] then fun _ => [] else added p.address.dropLast

/-- What is seen from a place once the comments are added: its node, and the siblings before it. -/
def withComments (added : Comments) (p : Place) : Place :=
  { p with
    earlier := interleave (p.gaps added) 0
      (Node.eachWithComments added p.address.dropLast 0 p.earlier)
    node := p.node.withCommentsFrom added p.address }

theorem gaps_child (added : Comments) (p : Place) (before : List Node) (c : Node) :
    (p.child before c).gaps added = added p.address := by
  simp [gaps, child]

theorem earlier_withComments_child (added : Comments) (p : Place) (before : List Node) (c : Node) :
    ((p.child before c).withComments added).earlier =
      interleave (added p.address) 0 (Node.eachWithComments added p.address 0 before) := by
  change interleave ((p.child before c).gaps added) 0 _ = _
  rw [gaps_child]
  simp [child]

end Place

namespace Node

variable {added : Comments}

theorem facts_comment (scope : Scope) (earlier : List Node) (text : String) :
    (comment text).facts scope earlier = [] :=
  facts_of_leaf (kind_comment text) rfl scope earlier

/-- Comments have no facts of their own; they only come before what follows. -/
theorem childFacts_comments (scope : Scope) (earlier : List Node) (texts : List String)
    (rest : List Node) :
    childFacts scope earlier (texts.map comment ++ rest) =
      childFacts scope ((texts.map comment).reverse ++ earlier) rest := by
  induction texts generalizing earlier with
  | nil => rfl
  | cons text texts ih =>
      rw [List.map_cons, List.cons_append, childFacts, facts_comment, List.nil_append,
        isNamed_comment, if_pos rfl, ih, List.reverse_cons, List.append_assoc,
        List.singleton_append]

theorem filter_isNamed_comments (texts : List String) :
    (texts.map comment).filter isNamed = texts.map comment := by
  simp

/-- One step among siblings with comments. -/
theorem named_reverse_interleave_concat (gaps : Nat → List String) (front : List Node) (s : Node) :
    ((interleave gaps 0 (front ++ [s])).filter isNamed).reverse =
      ((gaps (front.length + 1)).map comment).reverse ++
        if s.isNamed then s :: ((interleave gaps 0 front).filter isNamed).reverse
        else ((interleave gaps 0 front).filter isNamed).reverse := by
  rw [interleave_concat, Nat.zero_add, ← List.singleton_append, ← List.append_assoc,
    List.filter_append, List.reverse_append, filter_isNamed_comments, named_reverse_concat]

/-- The run over the children of a node with comments, if the facts of each child are those of its
places. `earlier` is what has been passed when the comments before the next child are met. -/
theorem childFacts_withComments (p : Place) (before rest earlier : List Node)
    (h : ∀ front, ∀ c ∈ rest,
      (c.withCommentsFrom added (p.child front c).address).facts (p.child front c).scope
          ((p.child front c).withComments added).earlierNamed =
        (p.child front c).listing.flatMap fun q => (q.withComments added).facts)
    (hearlier : ((added p.address before.length).map comment).reverse ++ earlier =
      ((interleave (added p.address) 0
        (eachWithComments added p.address 0 before)).filter isNamed).reverse) :
    childFacts (p.scope.below p.node.kind) earlier
        (interleave (added p.address) before.length
          (eachWithComments added p.address before.length rest)) =
      (p.listingAfter before rest).flatMap fun q => (q.withComments added).facts := by
  induction rest generalizing before earlier with
  | nil =>
      have hend := childFacts_comments (p.scope.below p.node.kind) earlier
        (added p.address before.length) []
      rw [List.append_nil] at hend
      rw [eachWithComments, interleave, hend, Place.listingAfter_nil, childFacts, List.flatMap_nil]
  | cons c rest ih =>
      have hc := h before c (by simp)
      rw [Place.scope_child, Place.earlierNamed, Place.earlier_withComments_child] at hc
      rw [eachWithComments, interleave, childFacts_comments, hearlier, childFacts,
        Place.listingAfter_cons, List.flatMap_append, ← hc]
      refine congrArg₂ (· ++ ·) rfl ?_
      have hlength : before.length + 1 = (before ++ [c]).length := by simp
      rw [hlength]
      apply ih
      · exact fun front d hd => h front d (by simp [hd])
      · rw [← hlength, eachWithComments_concat, named_reverse_interleave_concat,
          length_eachWithComments, Nat.zero_add]

/-- Outside inner classes, the facts of a node with comments are what its places and those below it
contribute with comments. -/
theorem facts_withComments (p : Place) (h : p.Outside) :
    (p.node.withCommentsFrom added p.address).facts p.scope (p.withComments added).earlierNamed =
      p.listing.flatMap fun q => (q.withComments added).facts := by
  induction hn : p.node using Node.induction generalizing p with
  | step n ih =>
      subst hn
      have hown : (p.withComments added).facts =
          (p.node.withCommentsFrom added p.address).ownFacts p.scope
            (p.withComments added).earlierNamed := if_pos h
      rw [facts_eq, Place.listing_eq, List.flatMap_cons, hown, kind_withCommentsFrom]
      congr 1
      by_cases hk : p.node.kind = .classDefinition
      · rw [if_pos hk, eq_comm, List.flatMap_eq_nil_iff]
        exact fun q hq => if_neg (Place.not_outside_below_innerClass hk hq)
      · rw [if_neg hk, children_withCommentsFrom]
        have hlive : p.Live := ⟨hk, h⟩
        refine childFacts_withComments p [] _ [] (fun front c hc => ?_) ?_
        · exact ih c hc (p.child front c) ((Place.outside_child p front c).mpr hlive) rfl
        · rw [eachWithComments, interleave, filter_isNamed_comments, List.append_nil]
          rfl

/-- The facts of a tree with comments, by the places of the tree without. -/
theorem rootFacts_withComments (added : Comments) (root : Node) :
    (root.withComments added).rootFacts =
      (root.places.map (Place.withComments added)).filterMap Place.contribution := by
  have hroot : (root.withComments added).rootFacts =
      root.places.flatMap fun p => (p.withComments added).facts :=
    facts_withComments root.rootPlace (by simp [Place.Outside, rootPlace])
  rw [hroot, List.filterMap_map, List.filterMap_eq_flatMap_toList]
  exact List.flatMap_congr fun p _ => Place.facts_eq_contribution (p.withComments added)

end Node

/-! ## Marks and base classes above -/

/-- No comment is added behind the sibling of number `i`, up to the one of number `j`. -/
def Uncommented (gaps : Nat → List String) (i j : Nat) : Prop :=
  ∀ k, i < k → k ≤ j → gaps k = []

theorem uncommented_succ {gaps : Nat → List String} {i j : Nat} (h : i ≤ j) :
    Uncommented gaps i (j + 1) ↔ Uncommented gaps i j ∧ gaps (j + 1) = [] := by
  constructor
  · intro hgaps
    exact ⟨fun k hi hj => hgaps k hi (by omega), hgaps (j + 1) (by omega) (by omega)⟩
  · rintro ⟨hgaps, hlast⟩ k hi hj
    by_cases hk : k = j + 1
    · rw [hk, hlast]
    · exact hgaps k hi (by omega)

/-- One element of a list is its last one or stands before that. -/
theorem concat_eq_split_iff {α : Type} {front first back : List α} {s a : α} :
    front ++ [s] = first ++ a :: back ↔
      (front = first ∧ s = a ∧ back = []) ∨
        ∃ back', back = back' ++ [s] ∧ front = first ++ a :: back' := by
  cases back using List.reverseRecOn with
  | nil => simp
  | append_singleton back last =>
      have hassoc : first ++ a :: (back ++ [last]) = (first ++ a :: back) ++ [last] := by simp
      rw [hassoc, List.append_singleton_inj]
      constructor
      · rintro ⟨rfl, rfl⟩
        exact Or.inr ⟨back, rfl, rfl⟩
      · rintro (⟨-, -, hnil⟩ | ⟨back', hback, hfront⟩)
        · simp at hnil
        · obtain ⟨rfl, rfl⟩ := List.append_singleton_inj.mp hback
          exact ⟨hfront, rfl⟩

namespace Node

variable {added : Comments} {address : List Nat} {gaps : Nat → List String}

/-- A sibling above that is found, going back over siblings that are passed over, with no comment
added behind it. -/
def FoundAbove (gaps : Nat → List String) (found passed : Node → Prop) (earlier : List Node)
    (s : Node) : Prop :=
  ∃ front back, earlier = front ++ s :: back ∧ found s ∧ (∀ b ∈ back, passed b) ∧
    Uncommented gaps front.length earlier.length

theorem not_foundAbove_nil {found passed : Node → Prop} (s : Node) :
    ¬ FoundAbove gaps found passed [] s := by
  rintro ⟨front, back, hsplit, -⟩
  simp at hsplit

/-- The nearest sibling is found or passed over. -/
theorem foundAbove_concat {found passed : Node → Prop} (front : List Node) (s t : Node) :
    FoundAbove gaps found passed (front ++ [s]) t ↔
      gaps (front.length + 1) = [] ∧
        (s = t ∧ found s ∨ passed s ∧ FoundAbove gaps found passed front t) := by
  have hlength : (front ++ [s]).length = front.length + 1 := by simp
  rw [FoundAbove, hlength]
  constructor
  · rintro ⟨first, back, hsplit, hfound, hback, hgaps⟩
    obtain ⟨rfl, rfl, rfl⟩ | ⟨back, rfl, rfl⟩ := concat_eq_split_iff.mp hsplit
    · exact ⟨hgaps _ (by omega) (by omega), Or.inl ⟨rfl, hfound⟩⟩
    · obtain ⟨hfront, hlast⟩ := (uncommented_succ (by simp)).mp hgaps
      refine ⟨hlast, Or.inr ⟨hback s (by simp), first, back, rfl, hfound, ?_, hfront⟩⟩
      exact fun b hb => hback b (by simp [hb])
  · rintro ⟨hlast, ⟨rfl, hfound⟩ | ⟨hs, first, back, rfl, hfound, hback, hgaps⟩⟩
    · refine ⟨front, [], rfl, hfound, by simp, ?_⟩
      exact (uncommented_succ (by simp)).mpr ⟨fun k hi hj => by omega, hlast⟩
    · refine ⟨first, back ++ [s], by simp, hfound, ?_, ?_⟩
      · intro b hb
        rcases List.mem_append.mp hb with hb | hb
        · exact hback b hb
        · rwa [List.mem_singleton.mp hb]
      · exact (uncommented_succ (by simp)).mpr ⟨hgaps, hlast⟩

/-- An annotation that exports, with only annotations and no comment behind it. Tokens do not
count. -/
def MarkKept (gaps : Nat → List String) (earlier : List Node) : Prop :=
  ∃ a, FoundAbove gaps Exporting (fun s => s.isNamed → s.isAnnotated) earlier a

theorem MarkKept.exportAbove {earlier : List Node} (h : MarkKept gaps earlier) :
    ExportAbove earlier := by
  obtain ⟨a, front, back, hsplit, hex, hback, -⟩ := h
  refine ⟨front, a, back, hsplit, hex, List.forall_mem_cons.mpr ⟨fun _ => hex.isAnnotated, hback⟩⟩

theorem markKept_concat (front : List Node) (s : Node) :
    MarkKept gaps (front ++ [s]) ↔
      gaps (front.length + 1) = [] ∧ (s.isNamed → s.isAnnotated) ∧
        (s.Exporting ∨ MarkKept gaps front) := by
  simp only [MarkKept, foundAbove_concat, exists_and_left, exists_or, exists_eq_left']
  refine and_congr_right fun _ => ?_
  constructor
  · rintro (hex | ⟨hs, hfront⟩)
    · exact ⟨fun _ => hex.isAnnotated, Or.inl hex⟩
    · exact ⟨hs, Or.inr hfront⟩
  · rintro ⟨hs, hex | hfront⟩
    · exact Or.inl hex
    · exact Or.inr ⟨hs, hfront⟩

theorem exportAbove_append_comments (nodes : List Node) (texts : List String) :
    ExportAbove (nodes ++ texts.map comment) ↔ texts = [] ∧ ExportAbove nodes := by
  cases texts using List.reverseRecOn with
  | nil => simp
  | append_singleton texts text =>
      rw [List.map_append, List.map_singleton, ← List.append_assoc, exportAbove_concat]
      simp [isAnnotated]

/-- With comments among the siblings, a mark above is found exactly if none of them cuts it off. -/
theorem exportAbove_interleave (earlier : List Node) :
    ExportAbove (interleave gaps 0 (eachWithComments added address 0 earlier)) ↔
      MarkKept gaps earlier := by
  induction earlier using List.reverseRecOn with
  | nil =>
      rw [eachWithComments, interleave, ← List.nil_append (List.map comment _),
        exportAbove_append_comments]
      simp [not_exportAbove_nil, MarkKept, not_foundAbove_nil]
  | append_singleton front s ih =>
      rw [eachWithComments_concat, interleave_concat, ← List.singleton_append, ← List.append_assoc,
        exportAbove_append_comments, exportAbove_concat, ih, markKept_concat, Nat.zero_add,
        length_eachWithComments, isNamed_withCommentsFrom, exporting_withCommentsFrom]
      simp [isAnnotated]

/-- The named sibling right above, with no comment added behind it. -/
def NearestKept (gaps : Nat → List String) (earlier : List Node) (s : Node) : Prop :=
  FoundAbove gaps (fun s => s.isNamed = true) (fun s => s.isNamed = false) earlier s

theorem NearestKept.head? {earlier : List Node} {s : Node} (h : NearestKept gaps earlier s) :
    (earlier.filter isNamed).reverse.head? = some s := by
  obtain ⟨front, back, rfl, hs, hback, -⟩ := h
  have hnone : back.filter isNamed = [] := by simpa using hback
  simp [hs, hnone]

/-- With comments among the siblings, the nearest named one is found if no comment comes behind it,
and else a comment or nothing. -/
theorem nearest_cases (added : Comments) (address : List Nat) (gaps : Nat → List String)
    (earlier : List Node) :
    (∃ s a, NearestKept gaps earlier s ∧
      ((interleave gaps 0 (eachWithComments added address 0 earlier)).filter
        isNamed).reverse.head? = some (s.withCommentsFrom added a)) ∨
    ((∀ s, ¬ NearestKept gaps earlier s) ∧
      ∀ s, ((interleave gaps 0 (eachWithComments added address 0 earlier)).filter
        isNamed).reverse.head? = some s → s.kind = .other) := by
  have hcomment : ∀ (texts : List String) (s : Node),
      (texts.map comment).reverse.head? = some s → s.kind = .other := by
    intro texts s hs
    have hmem := List.mem_of_mem_head? hs
    simp only [List.mem_reverse, List.mem_map] at hmem
    obtain ⟨text, -, rfl⟩ := hmem
    simp
  induction earlier using List.reverseRecOn with
  | nil =>
      right
      refine ⟨not_foundAbove_nil, fun s hs => ?_⟩
      rw [eachWithComments, interleave, filter_isNamed_comments] at hs
      exact hcomment _ s hs
  | append_singleton front s ih =>
      rw [eachWithComments_concat, named_reverse_interleave_concat, length_eachWithComments,
        isNamed_withCommentsFrom]
      simp only [NearestKept, foundAbove_concat] at ih ⊢
      cases hgap : gaps (front.length + 1) with
      | cons text texts =>
          right
          refine ⟨by simp, fun t ht => hcomment (text :: texts) t ?_⟩
          rwa [List.head?_append_of_ne_nil _ (by simp)] at ht
      | nil =>
          cases hs : s.isNamed with
          | true =>
              exact Or.inl ⟨s, address ++ [front.length], ⟨rfl, Or.inl ⟨rfl, rfl⟩⟩, by simp⟩
          | false => simpa using ih

end Node

namespace Place

variable {added : Comments}

/-- An exported variable keeps a mark in its statement, or one above that no comment cuts off. -/
def KeepsMark (added : Comments) (p : Place) : Prop :=
  (∃ c ∈ p.node.children, c.Exporting) ∨ Node.MarkKept (p.gaps added) p.earlier

/-- No comment comes between a place and the named sibling right above it. -/
def KeepsAbove (added : Comments) (p : Place) : Prop :=
  ∃ s, Node.NearestKept (p.gaps added) p.earlier s

/-- The base class in the statement of a `class_name` itself. -/
def statementBase (p : Place) : Option String :=
  (p.node.childOfKind .extendsStatement).bind Node.extendsTarget

theorem KeepsMark.isExported {p : Place} (h : p.KeepsMark added) : p.IsExported :=
  h.imp id Node.MarkKept.exportAbove

theorem isExported_withComments (p : Place) :
    (p.withComments added).IsExported ↔ p.KeepsMark added := by
  refine or_congr ?_ (Node.exportAbove_interleave p.earlier)
  have hany : (∃ c ∈ (p.withComments added).node.children, c.isExporting = true) ↔
      ∃ c ∈ p.node.children, c.isExporting = true := by
    rw [← List.any_eq_true, ← List.any_eq_true]
    exact (Node.any_isExporting_children p.node).congr_left
  simpa only [Node.isExporting_iff] using hany

theorem statementBase_withComments (p : Place) :
    (p.withComments added).statementBase = p.statementBase :=
  Node.bind_childOfKind p.node (by decide) Node.extendsTarget_skeleton

theorem ownBase_of_head? {p : Place} {s : Node} (h : p.earlierNamed.head? = some s) :
    p.ownBase = if s.kind = .extendsStatement then s.extendsTarget else p.statementBase := by
  rw [earlierNamed, List.head?_reverse] at h
  rw [ownBase, h]
  rfl

theorem ownBase_of_no_extends {p : Place}
    (h : ∀ s, p.earlierNamed.head? = some s → s.kind ≠ .extendsStatement) :
    p.ownBase = p.statementBase := by
  cases hs : p.earlierNamed.head? with
  | none =>
      rw [earlierNamed, List.head?_reverse] at hs
      rw [ownBase, hs]
      rfl
  | some s => rw [ownBase_of_head? hs, if_neg (h s hs)]

theorem ownBase_of_keepsAbove {p : Place} (h : p.KeepsAbove added) :
    (p.withComments added).ownBase = p.ownBase := by
  obtain ⟨s, a, hkept, hs⟩ | ⟨hnone, -⟩ :=
    Node.nearest_cases added p.address.dropLast (p.gaps added) p.earlier
  · have hhead : (p.withComments added).earlierNamed.head? = some (s.withCommentsFrom added a) := hs
    rw [ownBase_of_head? hhead, ownBase_of_head? hkept.head?, statementBase_withComments]
    simp
  · obtain ⟨s, hkept⟩ := h
    exact absurd hkept (hnone s)

theorem ownBase_of_not_keepsAbove {p : Place} (h : ¬ p.KeepsAbove added) :
    (p.withComments added).ownBase = p.statementBase := by
  obtain ⟨s, a, hkept, -⟩ | ⟨-, hother⟩ :=
    Node.nearest_cases added p.address.dropLast (p.gaps added) p.earlier
  · exact absurd ⟨s, hkept⟩ h
  · rw [ownBase_of_no_extends, statementBase_withComments]
    intro s hs
    have hkind := hother s hs
    simp [hkind]

instance (p : Place) : Decidable (p.KeepsMark added) :=
  decidable_of_iff _ (isExported_withComments p)

section Declares

variable (added : Comments) (p : Place)

theorem live_withComments : (p.withComments added).Live ↔ p.Live := by
  simp [Live, Outside, withComments]

theorem classLevel_withComments : (p.withComments added).ClassLevel ↔ p.ClassLevel := by
  rw [ClassLevel, ClassLevel, live_withComments]
  rfl

theorem declaresClassName_withComments :
    (p.withComments added).DeclaresClassName ↔ p.DeclaresClassName := by
  rw [DeclaresClassName, DeclaresClassName, live_withComments, withComments,
    Node.kind_withCommentsFrom, Node.hasNamedChild_withCommentsFrom _ (by decide)]

theorem declaresBase_withComments : (p.withComments added).DeclaresBase ↔ p.DeclaresBase := by
  rw [DeclaresBase, DeclaresBase, classLevel_withComments, withComments,
    Node.kind_withCommentsFrom, Node.hasNamedChild_withCommentsFrom _ (by decide)]

theorem declaresField_withComments : (p.withComments added).DeclaresField ↔ p.DeclaresField := by
  rw [DeclaresField, DeclaresField, classLevel_withComments, withComments,
    Node.kind_withCommentsFrom, Node.hasNamedChild_withCommentsFrom _ (by decide)]

theorem declaresMethod_withComments :
    (p.withComments added).DeclaresMethod ↔ p.DeclaresMethod := by
  rw [DeclaresMethod, DeclaresMethod, live_withComments, withComments,
    Node.kind_withCommentsFrom, Node.hasMethodName_withCommentsFrom]

end Declares

end Place

/-! ## The record -/

/-- Selecting less gives the same values only if nothing is left out. -/
theorem map_filter_eq_iff {α β : Type} {P Q : α → Prop} [DecidablePred P] [DecidablePred Q]
    (f : α → β) (l : List α) (hPQ : ∀ a, P a → Q a) :
    ((l.filter fun a => P a).map f = (l.filter fun a => Q a).map f) ↔ ∀ a ∈ l, Q a → P a := by
  constructor
  · intro h a ha hQ
    have hsub : (l.filter fun a => P a).Sublist (l.filter fun a => Q a) :=
      List.monotone_filter_right l fun a hP => by simpa using hPQ a (by simpa using hP)
    have hlength : (l.filter fun a => P a).length = (l.filter fun a => Q a).length := by
      simpa using congrArg List.length h
    have hmem : a ∈ l.filter fun a => P a := by
      rw [hsub.eq_of_length hlength]
      simp [ha, hQ]
    simpa using (List.mem_filter.mp hmem).2
  · intro h
    refine congrArg (List.map f) (List.filter_congr fun a ha => ?_)
    simpa using ⟨hPQ a, h a ha⟩

namespace Node

variable (added : Comments) (root : Node)

/-- The first base class that the file names. -/
def fileBase (root : Node) : Option String :=
  (root.places.find? fun p => p.DeclaresBase).map fun p => p.node.namedChildText .type

/-- A record is the same as soon as its parts are. -/
theorem classRecord_eq_iff {root other : Node}
    (h : other.rootFacts.any Fact.isRecorded = root.rootFacts.any Fact.isRecorded) :
    other.classRecord = root.classRecord ↔
      recordFrom other.rootFacts = recordFrom root.rootFacts := by
  constructor
  · intro heq
    rw [← classRecord_getD, ← classRecord_getD, heq]
  · intro heq
    rw [classRecord, classRecord, recordOf_eq, recordOf_eq, h, heq]

section View

variable {β : Type} {view : Fact → Option β} {P P' : Place → Prop} [DecidablePred P]
  [DecidablePred P'] {value value' : Place → β}

/-- Reading one sort of declaration off a tree with comments, by the places of the tree without. -/
theorem filterMap_withComments
    (h : ∀ p : Place, p.contribution.bind view = if P p then some (value p) else none)
    (hP : ∀ p : Place, P (p.withComments added) ↔ P' p)
    (hvalue : ∀ p : Place, value (p.withComments added) = value' p) :
    (root.withComments added).rootFacts.filterMap view =
      (root.places.filter fun p => P' p).map value' := by
  rw [rootFacts_withComments, filterMap_contribution _ h, List.filter_map, List.map_map]
  simp only [Function.comp_def, hP, hvalue]

theorem findSome?_withComments
    (h : ∀ p : Place, p.contribution.bind view = if P p then some (value p) else none)
    (hP : ∀ p : Place, P (p.withComments added) ↔ P' p)
    (hvalue : ∀ p : Place, value (p.withComments added) = value' p) :
    (root.withComments added).rootFacts.findSome? view =
      (root.places.find? fun p => P' p).map value' := by
  rw [← List.head?_filterMap, filterMap_withComments added root h hP hvalue, List.head?_map,
    List.head?_filter]

end View

theorem exports_withComments :
    (recordFrom (root.withComments added).rootFacts).exports =
      (root.places.filter fun p => p.DeclaresField ∧ p.KeepsMark added).map
        fun p => p.node.fieldBinding :=
  filterMap_withComments added root Place.contribution_asExport
    (fun p => and_congr (p.declaresField_withComments added) p.isExported_withComments)
    fun p => p.node.fieldBinding_withCommentsFrom

theorem fields_withComments :
    (recordFrom (root.withComments added).rootFacts).fields =
      (root.places.filter fun p => p.DeclaresField ∧ ¬ p.KeepsMark added).map
        fun p => Variable.ofBinding p.node.fieldBinding :=
  filterMap_withComments added root Place.contribution_asVariable
    (fun p => and_congr (p.declaresField_withComments added) (not_congr p.isExported_withComments))
    fun p => congrArg Variable.ofBinding p.node.fieldBinding_withCommentsFrom

theorem methods_withComments :
    (recordFrom (root.withComments added).rootFacts).methods =
      (recordFrom root.rootFacts).methods := by
  rw [methods_recordFrom root]
  exact filterMap_withComments added root Place.contribution_asMethod
    (fun p => p.declaresMethod_withComments added)
    fun p => p.node.declaredMethod_withCommentsFrom

theorem head_withComments :
    (root.withComments added).rootFacts.findSome? Fact.asHead =
      (root.places.find? fun p => p.DeclaresClassName).map
        fun p => (p.node.namedChildText .name, (p.withComments added).ownBase) :=
  findSome?_withComments added root Place.contribution_asHead
    (fun p => p.declaresClassName_withComments added)
    fun p => Prod.ext (p.node.namedChildText_withCommentsFrom (by decide)) rfl

theorem fileBase_withComments :
    (root.withComments added).rootFacts.findSome? Fact.asBase = root.fileBase :=
  findSome?_withComments added root Place.contribution_asBase
    (fun p => p.declaresBase_withComments added)
    fun p => p.node.namedChildText_withCommentsFrom (by decide)

theorem any_isRecorded_withComments :
    (root.withComments added).rootFacts.any Fact.isRecorded =
      root.rootFacts.any Fact.isRecorded := by
  rw [Bool.eq_iff_iff, rootFacts_withComments, any_isRecorded_contribution,
    any_isRecorded_rootFacts]
  simp only [List.mem_map, exists_exists_and_eq_and, Place.declaresClassName_withComments,
    Place.declaresField_withComments, Place.declaresMethod_withComments,
    Place.declaresBase_withComments]

theorem exports_withComments_eq_iff :
    (recordFrom (root.withComments added).rootFacts).exports = (recordFrom root.rootFacts).exports ↔
      ∀ p ∈ root.places, p.DeclaresField → p.IsExported → p.KeepsMark added := by
  have hselect := map_filter_eq_iff (fun p : Place => p.node.fieldBinding) root.places
    fun p (h : p.DeclaresField ∧ p.KeepsMark added) => And.intro h.1 h.2.isExported
  rw [exports_withComments, exports_recordFrom, hselect]
  constructor
  · exact fun h p hp hfield hexported => (h p hp ⟨hfield, hexported⟩).2
  · exact fun h p hp hboth => ⟨hboth.1, h p hp hboth.1 hboth.2⟩

/-- Fields that keep their marks are told from the others as before. -/
theorem fields_withComments_eq
    (h : ∀ p ∈ root.places, p.DeclaresField → p.IsExported → p.KeepsMark added) :
    (recordFrom (root.withComments added).rootFacts).fields =
      (recordFrom root.rootFacts).fields := by
  rw [fields_withComments, fields_recordFrom]
  refine congrArg (List.map _) (List.filter_congr fun p hp => ?_)
  simp only [decide_eq_decide]
  refine and_congr_right fun hfield => not_congr ⟨Place.KeepsMark.isExported, h p hp hfield⟩

theorem name_withComments :
    (recordFrom (root.withComments added).rootFacts).name = (recordFrom root.rootFacts).name := by
  rw [name_recordFrom root, recordFrom, head_withComments, Option.map_map]
  rfl

theorem extendsClass_withComments :
    (recordFrom (root.withComments added).rootFacts).extendsClass =
      ((root.places.find? fun p => p.DeclaresClassName).bind
        (fun p => (p.withComments added).ownBase) <|> root.fileBase) := by
  rw [recordFrom, head_withComments, fileBase_withComments, Option.bind_map]
  rfl

/-- The base class stays exactly if no comment hides the one above the first `class_name`, or the
same one is named elsewhere. -/
theorem extendsClass_withComments_eq_iff :
    (recordFrom (root.withComments added).rootFacts).extendsClass =
        (recordFrom root.rootFacts).extendsClass ↔
      ∀ p, (root.places.find? fun p => p.DeclaresClassName) = some p →
        p.KeepsAbove added ∨
          (p.statementBase <|> root.fileBase) = (p.ownBase <|> root.fileBase) := by
  rw [extendsClass_withComments, extendsClass_recordFrom]
  cases root.places.find? fun p => p.DeclaresClassName with
  | none => simp [fileBase]
  | some p =>
      simp only [Option.bind_some, Option.some.injEq, forall_eq']
      by_cases hkept : p.KeepsAbove added
      · simp [hkept, Place.ownBase_of_keepsAbove hkept, fileBase]
      · simp only [hkept, Place.ownBase_of_not_keepsAbove hkept, false_or]
        rfl

/-- Comments leave the record of a tree as it is exactly if they stand neither between an exported
field and all its marks nor between the first `class_name` and the `extends` above it whose base
class is not named elsewhere too. -/
theorem comments_change_only_cut_off_marks_and_bases :
    (root.withComments added).classRecord = root.classRecord ↔
      (∀ p ∈ root.places, p.DeclaresField → p.IsExported → p.KeepsMark added) ∧
      ∀ p, (root.places.find? fun p => p.DeclaresClassName) = some p →
        p.KeepsAbove added ∨
          (p.statementBase <|> root.fileBase) = (p.ownBase <|> root.fileBase) := by
  rw [classRecord_eq_iff (any_isRecorded_withComments added root),
    ← exports_withComments_eq_iff, ← extendsClass_withComments_eq_iff]
  constructor
  · intro h
    rw [h]
    exact ⟨rfl, rfl⟩
  · rintro ⟨hexports, hbase⟩
    have hmarks := (exports_withComments_eq_iff added root).mp hexports
    rw [recordFrom, recordFrom, ClassRecord.mk.injEq]
    exact ⟨name_withComments added root, hbase, hexports, fields_withComments_eq added root hmarks,
      methods_withComments added root⟩

end Node

/-- A script with one field, marked on the line above. -/
def markedSpeed : Node :=
  .mk (.named "source") "@export\nvar speed" none [
    .mk (.named "annotation") "@export" none [
      .mk .token "@" none [], .mk (.named "identifier") "export" none []],
    .mk (.named "variable_statement") "var speed" none [
      .mk .token "var" none [], .mk (.named "name") "speed" (some "name") []]]

/-- A comment behind the mark of `markedSpeed`. -/
def noteBehindMark : Comments := fun address i =>
  if address = [] ∧ i = 1 then ["# in tiles"] else []

/-- The field is exported, and with the comment behind its mark it is not. -/
theorem note_cuts_off_mark :
    (markedSpeed.classRecord.getD {}).exports = [{ name := "speed" }] ∧
    ((markedSpeed.withComments noteBehindMark).classRecord.getD {}).exports = [] := by
  decide

end ScriptTypings
