import ScriptTypings.Cli.Run
import ScriptTypings.Proofs.InterfaceName

/-!
# The debug view

The debug view picks the class records of a name in the order of the scripts, the generated file
shows all interfaces in the order of their names. Sorting keeps the order of the interfaces that
share a name, so the interfaces of a name are, one by one, those of the records that the view shows.
-/

namespace ScriptTypings.Cli

/-- The class records whose interface has the given name, in the order of the scripts. -/
def recordsNamed (name : String) (scripts : List ScriptClasses) :
    List (ResourcePath × ClassRecord) :=
  (recordsOf scripts).filter fun r => (Interface.ofClass r.1 r.2).name = name

theorem matchingClasses_eq (name : String) (scripts : List ScriptClasses) :
    matchingClasses name scripts = recordsNamed name scripts := by
  rw [recordsNamed, recordsOf, List.filter_flatMap]
  apply List.flatMap_congr
  intro s _
  rw [List.filter_map]
  rfl

/-- The interfaces of a name in the file are those of the records of that name. -/
theorem filter_sortedInterfaces (name : String) (scripts : List ScriptClasses) :
    ((sortedInterfaces scripts).filter fun i => i.name = name) =
      (recordsNamed name scripts).map fun r => Interface.ofClass r.1 r.2 := by
  rw [sortedInterfaces, KeyedSort.filter_mergeSort, interfacesOf_eq_map, List.filter_map]
  rfl

theorem recordsNamed_eq_nil_iff (name : String) (scripts : List ScriptClasses) :
    recordsNamed name scripts = [] ↔ ¬ ∃ i ∈ sortedInterfaces scripts, i.name = name := by
  rw [← List.map_eq_nil_iff, ← filter_sortedInterfaces, List.filter_eq_nil_iff]
  simp

namespace Notice

def asText : Notice → Option String
  | text lines => some lines
  | event _ => none

def asEvent : Notice → Option Event
  | event e => some e
  | text _ => none

end Notice

/-- What the debug view prints of a record: the path of its script and the record as a document. -/
def recordText (record : ResourcePath × ClassRecord) : String :=
  record.1.toString ++ ":\n" ++ record.2.toDocument.print 0 ++ "\n"

/-- The view is a warning alone, or the records of the name and nothing else. -/
theorem debugNotices_eq (name : String) (scripts : List ScriptClasses) :
    debugNotices name scripts =
      if recordsNamed name scripts = [] then [.event (.noClass name)]
      else (recordsNamed name scripts).map fun r => .text (recordText r) := by
  rw [debugNotices, matchingClasses_eq]
  split
  · next h => rw [if_pos h]
  · next h =>
      rw [if_neg h]
      rfl

theorem debugNotices_texts (name : String) (scripts : List ScriptClasses) :
    (debugNotices name scripts).filterMap Notice.asText =
      (recordsNamed name scripts).map recordText := by
  rw [debugNotices_eq]
  split
  · next h =>
      rw [h]
      rfl
  · simp [Notice.asText, List.filterMap_map, Function.comp_def]

/-- The view warns exactly if the file has no interface of the name. -/
theorem debugNotices_events (name : String) (scripts : List ScriptClasses) :
    (debugNotices name scripts).filterMap Notice.asEvent =
      if ∃ i ∈ sortedInterfaces scripts, i.name = name then [] else [.noClass name] := by
  have hnone := recordsNamed_eq_nil_iff name scripts
  rw [debugNotices_eq]
  split
  · next h =>
      rw [if_neg (hnone.mp h)]
      rfl
  · next h =>
      rw [if_pos (not_not.mp (mt hnone.mpr h))]
      simp [Notice.asEvent, List.filterMap_map, Function.comp_def]

/-- The debug view of a name shows what is generated under that name. It prints the class records
whose interface has the name, in the order of the scripts. The interfaces of the name in the file
are those of the printed records, in the order in which they are printed. A warning is logged
exactly if the file has no such interface, and nothing else is logged. -/
theorem debug_view_shows_what_is_generated (report : ScanReport) (name elapsed : String) :
    (debugNotices name report.scriptClasses).filterMap Notice.asText =
      (recordsNamed name report.scriptClasses).map recordText ∧
    ((interfacesIn (declarationsOf report.scriptClasses)).filter fun i => i.name = name) =
      (recordsNamed name report.scriptClasses).map (fun r => Interface.ofClass r.1 r.2) ∧
    (((debugNotices name report.scriptClasses).filterMap Notice.asEvent).map
        fun e => (e.level, e.message elapsed)) =
      if ∃ i ∈ interfacesIn (declarationsOf report.scriptClasses), i.name = name then []
      else [(.warn, "no class found for '" ++ name ++ "'")] := by
  rw [interfacesIn_declarationsOf]
  refine ⟨debugNotices_texts name _, filter_sortedInterfaces name _, ?_⟩
  rw [debugNotices_events]
  split <;> rfl

end ScriptTypings.Cli
