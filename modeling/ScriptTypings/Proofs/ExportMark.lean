import ScriptTypings.Proofs.FactListing
import Mathlib.Data.List.Induction

/-!
# Export marks

Which annotations export, said by rules, and where a variable finds such an annotation: among its
own children, or above it with nothing but annotations between the two. Tokens between them do
not count, since only named siblings are looked at.
-/

namespace ScriptTypings

/-- `export` itself or a name of the `export_` family that does not merely group properties. -/
def ExportName (name : String) : Prop :=
  name = "export" ∨
    (∃ rest, name = "export_" ++ rest) ∧
      name ∉ ["export_group", "export_subgroup", "export_category"]

theorem isPrefixOf_toList_iff (start name : String) :
    start.toList.isPrefixOf name.toList = true ↔ ∃ rest, name = start ++ rest := by
  rw [List.isPrefixOf_iff_prefix]
  constructor
  · rintro ⟨rest, h⟩
    refine ⟨String.ofList rest, ?_⟩
    apply String.ext
    simp [← h]
  · rintro ⟨rest, rfl⟩
    exact ⟨rest.toList, by simp⟩

theorem isExportName_iff (name : String) : isExportName name = true ↔ ExportName name := by
  simp only [isExportName, decide_eq_true_eq, ExportName, isPrefixOf_toList_iff]

namespace Node

/-- An annotation exports by one of its identifiers, a group by one of its members. -/
inductive Exporting : Node → Prop
  | single {n c : Node} (kind : n.kind = .annotationNode) (child : c ∈ n.children)
      (identifier : c.kind = .identifier) (name : ExportName c.text) : Exporting n
  | group {n c : Node} (kind : n.kind = .annotationGroup) (child : c ∈ n.children)
      (exporting : Exporting c) : Exporting n

theorem anyExporting_eq (nodes : List Node) : anyExporting nodes = nodes.any isExporting := by
  induction nodes with
  | nil => simp [anyExporting]
  | cons n rest ih => simp [anyExporting, ih]

theorem isExporting_eq (n : Node) :
    n.isExporting =
      match n.kind with
      | .annotationNode =>
          n.children.any fun c => c.kind = .identifier ∧ isExportName c.text
      | .annotationGroup => n.children.any isExporting
      | _ => false := by
  cases n
  rw [isExporting, ← anyExporting_eq]
  rfl

theorem isExporting_iff (n : Node) : n.isExporting = true ↔ n.Exporting := by
  induction n using Node.induction with
  | step n ih =>
      rw [isExporting_eq]
      constructor
      · intro h
        split at h
        · next hk =>
            obtain ⟨c, hc, hid, hname⟩ : ∃ c ∈ n.children,
                c.kind = .identifier ∧ isExportName c.text = true := by simpa using h
            exact .single hk hc hid ((isExportName_iff _).mp hname)
        · next hk =>
            obtain ⟨c, hc, hex⟩ := List.any_eq_true.mp h
            exact .group hk hc ((ih c hc).mp hex)
        · exact absurd h (by simp)
      · intro h
        cases h with
        | single hk hc hid hname =>
            simpa [hk] using ⟨_, hc, hid, (isExportName_iff _).mpr hname⟩
        | group hk hc hex => simpa [hk] using ⟨_, hc, (ih _ hc).mpr hex⟩

instance (n : Node) : Decidable n.Exporting :=
  decidable_of_iff _ (isExporting_iff n)

/-- Only annotations and groups of annotations export. -/
theorem Exporting.isAnnotated {n : Node} (h : n.Exporting) : n.isAnnotated = true := by
  cases h with
  | single hk _ _ _ => simp [Node.isAnnotated, hk]
  | group hk _ _ => simp [Node.isAnnotated, hk]

/-- Among the siblings above there is an annotation that exports, and from it on all named ones are
annotations. -/
def ExportAbove (earlier : List Node) : Prop :=
  ∃ front a back, earlier = front ++ a :: back ∧ a.Exporting ∧
    ∀ s ∈ a :: back, s.isNamed → s.isAnnotated

theorem not_exportAbove_nil : ¬ ExportAbove [] := by
  rintro ⟨front, a, back, h, -⟩
  simp at h

/-- The nearest sibling is the mark or lets a mark further up through. -/
theorem exportAbove_concat (front : List Node) (s : Node) :
    ExportAbove (front ++ [s]) ↔
      (s.isNamed → s.isAnnotated) ∧ (s.Exporting ∨ ExportAbove front) := by
  constructor
  · rintro ⟨first, a, back, h, hex, hall⟩
    cases back using List.reverseRecOn with
    | nil =>
        obtain ⟨-, rfl⟩ : front = first ∧ s = a := by simpa using List.append_inj' h rfl
        exact ⟨hall s (by simp), Or.inl hex⟩
    | append_singleton back last =>
        obtain ⟨hfront, rfl⟩ : front = first ++ a :: back ∧ s = last := by
          have h : front ++ [s] = (first ++ a :: back) ++ [last] := by simpa using h
          simpa using List.append_inj' h rfl
        refine ⟨hall s (by simp), Or.inr ⟨first, a, back, hfront, hex, ?_⟩⟩
        intro t ht
        exact hall t (by simpa [← or_assoc] using Or.inl (List.mem_cons.mp ht))
  · rintro ⟨hs, hex | ⟨first, a, back, rfl, hex, hall⟩⟩
    · exact ⟨front, s, [], rfl, hex, by simpa using hs⟩
    · refine ⟨first, a, back ++ [s], by simp, hex, ?_⟩
      intro t ht
      rcases (by simpa [← or_assoc] using ht : (t = a ∨ t ∈ back) ∨ t = s) with ht | rfl
      · exact hall t (List.mem_cons.mpr ht)
      · exact hs

/-- Looking back over the named siblings while they are annotations finds exactly the marks. -/
theorem exportAbove_iff (earlier : List Node) :
    (((earlier.filter isNamed).reverse.takeWhile isAnnotated).any isExporting) = true ↔
      ExportAbove earlier := by
  induction earlier using List.reverseRecOn with
  | nil => simpa using not_exportAbove_nil
  | append_singleton front s ih =>
      rw [exportAbove_concat, ← ih, named_reverse_concat, ← isExporting_iff]
      cases hn : s.isNamed with
      | true => cases ha : s.isAnnotated <;> simp [ha]
      | false =>
          have hex : ¬ s.isExporting = true := by
            intro h
            have hkind := ((isExporting_iff s).mp h).isAnnotated
            unfold isNamed at hn
            split at hn <;> simp_all [isAnnotated, kind]
          simp [hex]

end Node

namespace Place

/-- A variable is exported by an annotation in its statement or by one above it. -/
def IsExported (p : Place) : Prop :=
  (∃ c ∈ p.node.children, c.Exporting) ∨ Node.ExportAbove p.earlier

theorem isExported_iff (p : Place) :
    p.node.isExported p.earlierNamed = true ↔ p.IsExported := by
  rw [Node.isExported, Bool.or_eq_true, earlierNamed, Node.exportAbove_iff]
  simp [IsExported, Node.isExporting_iff]

instance (p : Place) : Decidable p.IsExported :=
  decidable_of_iff _ (isExported_iff p)

theorem isExported_eq_decide (p : Place) :
    p.node.isExported p.earlierNamed = decide p.IsExported := by
  rw [Bool.eq_iff_iff, isExported_iff, decide_eq_true_eq]

end Place

end ScriptTypings
