import ScriptTypings.Proofs.InterfaceName

/-!
# An added script

A script that joins others brings its own interfaces and look-up entries along and leaves those of
the others as they are. Both lists are sorted stably, so not even a script that shares its names
with others can move one of them past another. The generated file prints each interface and each
entry in lines of its own, and what holds of the two lists therefore holds of its lines.
-/

namespace ScriptTypings

/-- `Interleaves kept added whole` says that `whole` has the elements of the two lists, each in
their order. So deleting those of `added` from `whole` leaves `kept`. -/
inductive Interleaves {α : Type} : List α → List α → List α → Prop
  | nil : Interleaves [] [] []
  | keep {kept added whole : List α} (a : α) (rest : Interleaves kept added whole) :
      Interleaves (a :: kept) added (a :: whole)
  | add {kept added whole : List α} (a : α) (rest : Interleaves kept added whole) :
      Interleaves kept (a :: added) (a :: whole)

namespace Interleaves

variable {α β : Type} {kept added whole kept' added' whole' : List α}

theorem all_kept (l : List α) : Interleaves l [] l := by
  induction l with
  | nil => exact .nil
  | cons a l ih => exact .keep a ih

theorem all_added (l : List α) : Interleaves [] l l := by
  induction l with
  | nil => exact .nil
  | cons a l ih => exact .add a ih

theorem append (h : Interleaves kept added whole) (h' : Interleaves kept' added' whole') :
    Interleaves (kept ++ kept') (added ++ added') (whole ++ whole') := by
  induction h with
  | nil => exact h'
  | keep a _ ih => exact .keep a ih
  | add a _ ih => exact .add a ih

theorem flatMap (f : α → List β) (h : Interleaves kept added whole) :
    Interleaves (kept.flatMap f) (added.flatMap f) (whole.flatMap f) := by
  induction h with
  | nil => exact .nil
  | keep a _ ih =>
      rw [List.flatMap_cons, List.flatMap_cons]
      exact (all_kept (f a)).append ih
  | add a _ ih =>
      rw [List.flatMap_cons, List.flatMap_cons]
      exact (all_added (f a)).append ih

/-- A list is interleaved from the elements that a test rejects and those that it accepts. -/
theorem of_test (test : α → Bool) (f : α → β) (l : List α) :
    Interleaves ((l.filter fun a => !test a).map f) ((l.filter test).map f) (l.map f) := by
  induction l with
  | nil => exact .nil
  | cons a l ih =>
      cases h : test a with
      | true =>
          simp only [List.filter_cons, h, Bool.not_true, Bool.false_eq_true, if_false, if_true,
            List.map_cons]
          exact .add (f a) ih
      | false =>
          simp only [List.filter_cons, h, Bool.not_false, Bool.false_eq_true, if_false, if_true,
            List.map_cons]
          exact .keep (f a) ih

/-- New elements anywhere in a list leave the others where a stable sort puts them without the new
ones. -/
theorem mergeSort {κ : Type} [LE κ] [DecidableLE κ] [DecidableEq κ] [Std.IsLinearOrder κ]
    (key : α → κ) (front new back : List α) :
    Interleaves ((front ++ back).mergeSort fun a b => decide (key a ≤ key b))
      (new.mergeSort fun a b => decide (key a ≤ key b))
      ((front ++ new ++ back).mergeSort fun a b => decide (key a ≤ key b)) := by
  -- Each element carries a mark that tells whether it is new. The key does not see the marks, so
  -- they ride along, and they pick out the new elements after sorting as well as before.
  let marked : List (α × Bool) :=
    front.map (·, false) ++ new.map (·, true) ++ back.map (·, false)
  have hwhole : marked.map Prod.fst = front ++ new ++ back := by
    simp [marked, Function.comp_def]
  have hkept : (marked.filter fun m => !m.2).map Prod.fst = front ++ back := by
    simp [marked, List.filter_map, Function.comp_def]
  have hnew : (marked.filter Prod.snd).map Prod.fst = new := by
    simp [marked, List.filter_map, Function.comp_def]
  rw [← hwhole, ← hkept, ← hnew, KeyedSort.mergeSort_map, KeyedSort.mergeSort_map,
    KeyedSort.mergeSort_map, ← KeyedSort.filter_mergeSort_comm fun m : α × Bool => key m.1,
    ← KeyedSort.filter_mergeSort_comm fun m : α × Bool => key m.1]
  exact of_test Prod.snd Prod.fst _

end Interleaves

/-! ## Lines -/

namespace Text

/-- A text whose last line is finished. -/
def EndsLine (s : String) : Prop :=
  ∃ t, s = t ++ "\n"

/-- The lines of a text whose last line is finished. -/
def lines (s : String) : List String :=
  (piecesOf '\n' s).dropLast

theorem piecesOf_break (s t : String) :
    piecesOf '\n' (s ++ "\n" ++ t) = piecesOf '\n' s ++ piecesOf '\n' t :=
  piecesOf_append_separator '\n' s t

theorem EndsLine.append (s : String) {t : String} (h : EndsLine t) : EndsLine (s ++ t) := by
  obtain ⟨u, rfl⟩ := h
  exact ⟨s ++ u, (String.append_assoc).symm⟩

/-- The lines of a text start with those of a part in front whose last line is finished. -/
theorem piecesOf_append {s : String} (h : EndsLine s) (t : String) :
    piecesOf '\n' (s ++ t) = lines s ++ piecesOf '\n' t := by
  obtain ⟨u, rfl⟩ := h
  have hlines : lines (u ++ "\n") = piecesOf '\n' u := by
    have hbreak := piecesOf_break u ""
    rw [String.append_empty] at hbreak
    rw [lines, hbreak]
    exact List.dropLast_concat
  rw [hlines, piecesOf_break]

/-- Items that are printed in whole lines are read back line by line. -/
theorem piecesOf_join {α : Type} {print : α → String} (h : ∀ a, EndsLine (print a))
    (items : List α) (t : String) :
    piecesOf '\n' (String.join (items.map print) ++ t) =
      items.flatMap (fun a => lines (print a)) ++ piecesOf '\n' t := by
  induction items with
  | nil => simp
  | cons a items ih =>
      rw [List.map_cons, String.join_cons, String.append_assoc, piecesOf_append (h a), ih,
        List.flatMap_cons, List.append_assoc]

end Text

open Text

theorem Interface.endsLine_print (i : Interface) : EndsLine i.print :=
  .append _ ⟨"\x7d", rfl⟩

theorem LookupEntry.endsLine_print (e : LookupEntry) : EndsLine e.print :=
  .append _ ⟨";", rfl⟩

/-- The lines above the interfaces. -/
def topLines : List String :=
  lines (fileHeader ++ "\n" ++ importLine)

/-- The line between the interfaces and the entries. -/
def lookupLines : List String :=
  lines ("type " ++ lookupName ++ " = \x7b\n")

/-- The lines below the entries. -/
def bottomLines : List String :=
  piecesOf '\n' ("\x7d;\n" ++ accessor.print)

/-- The lines of the generated file: those of the interfaces and those of the entries, with lines
around them that are the same in every file. -/
theorem piecesOf_generate (scripts : List ScriptClasses) :
    piecesOf '\n' (generate scripts) =
      topLines ++ ((sortedInterfaces scripts).flatMap (fun i => lines i.print) ++
        (lookupLines ++ ((sortedEntries scripts).flatMap (fun e => lines e.print) ++
          bottomLines))) := by
  have htext : generate scripts =
      (fileHeader ++ "\n" ++ importLine) ++
        (String.join ((sortedInterfaces scripts).map Interface.print) ++
          (("type " ++ lookupName ++ " = \x7b\n") ++
            (String.join ((sortedEntries scripts).map LookupEntry.print) ++
              ("\x7d;\n" ++ accessor.print)))) := by
    simp [generate, printFile, printDeclarations, declarationsOf, Declaration.print, Lookup.print,
      String.append_assoc, Function.comp_def]
  have htop : EndsLine (fileHeader ++ "\n" ++ importLine) := .append _ (.append _ ⟨";", rfl⟩)
  have hopening : EndsLine ("type " ++ lookupName ++ " = \x7b\n") := .append _ ⟨" = \x7b", rfl⟩
  rw [htext, piecesOf_append htop, piecesOf_join Interface.endsLine_print,
    piecesOf_append hopening, piecesOf_join LookupEntry.endsLine_print]
  rfl

theorem interfacesOf_append (xs ys : List ScriptClasses) :
    interfacesOf (xs ++ ys) = interfacesOf xs ++ interfacesOf ys :=
  List.flatMap_append

theorem entriesOf_append (xs ys : List ScriptClasses) :
    entriesOf (xs ++ ys) = entriesOf xs ++ entriesOf ys :=
  List.flatMap_append

section Added

variable (xs ys : List ScriptClasses) (s : ScriptClasses)

theorem sortedInterfaces_interleaves :
    Interleaves (sortedInterfaces (xs ++ ys)) (sortedInterfaces [s])
      (sortedInterfaces (xs ++ [s] ++ ys)) := by
  have h := Interleaves.mergeSort Interface.name (interfacesOf xs) (interfacesOf [s])
    (interfacesOf ys)
  rwa [← interfacesOf_append, ← interfacesOf_append, ← interfacesOf_append] at h

theorem sortedEntries_interleaves :
    Interleaves (sortedEntries (xs ++ ys)) (sortedEntries [s])
      (sortedEntries (xs ++ [s] ++ ys)) := by
  have h := Interleaves.mergeSort LookupEntry.key (entriesOf xs) (entriesOf [s]) (entriesOf ys)
  rwa [← entriesOf_append, ← entriesOf_append, ← entriesOf_append] at h

/-- The lines of the file without the script are the lines with it, less those of its interfaces and
entries. -/
theorem piecesOf_generate_interleaves :
    Interleaves (piecesOf '\n' (generate (xs ++ ys)))
      ((sortedInterfaces [s]).flatMap (fun i => lines i.print) ++
        (sortedEntries [s]).flatMap (fun e => lines e.print))
      (piecesOf '\n' (generate (xs ++ [s] ++ ys))) := by
  have hinterfaces := (sortedInterfaces_interleaves xs ys s).flatMap fun i => lines i.print
  have hentries := (sortedEntries_interleaves xs ys s).flatMap fun e => lines e.print
  have hbelow := (Interleaves.all_kept lookupLines).append
    (hentries.append (.all_kept bottomLines))
  have h := (Interleaves.all_kept topLines).append (hinterfaces.append hbelow)
  rw [piecesOf_generate, piecesOf_generate]
  simpa using h

/-- Adding a script is a local change. The interfaces with it are those without it and its own, each
in their order, and so are the look-up entries and the lines of the generated file. -/
theorem adding_a_script_is_local :
    Interleaves (interfacesIn (declarationsOf (xs ++ ys))) (interfacesIn (declarationsOf [s]))
      (interfacesIn (declarationsOf (xs ++ [s] ++ ys))) ∧
    (interfacesIn (declarationsOf [s])).Perm (s.classes.map (Interface.ofClass s.path)) ∧
    Interleaves (lookupEntries (declarationsOf (xs ++ ys))) (lookupEntries (declarationsOf [s]))
      (lookupEntries (declarationsOf (xs ++ [s] ++ ys))) ∧
    (lookupEntries (declarationsOf [s])).Perm (s.classes.map (LookupEntry.ofClass s.path)) ∧
    Interleaves (piecesOf '\n' (generate (xs ++ ys)))
      ((interfacesIn (declarationsOf [s])).flatMap (fun i => lines i.print) ++
        (lookupEntries (declarationsOf [s])).flatMap (fun e => lines e.print))
      (piecesOf '\n' (generate (xs ++ [s] ++ ys))) := by
  simp only [interfacesIn_declarationsOf, lookupEntries_declarationsOf]
  refine ⟨sortedInterfaces_interleaves xs ys s, ?_, sortedEntries_interleaves xs ys s, ?_,
    piecesOf_generate_interleaves xs ys s⟩
  · have h := sortedInterfaces_perm [s]
    simpa [recordsOf, Function.comp_def] using h
  · have h := sortedEntries_perm [s]
    simpa [recordsOf, Function.comp_def] using h

end Added

end ScriptTypings
