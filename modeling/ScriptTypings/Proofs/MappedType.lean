import ScriptTypings.Proofs.TrimmedText
import ScriptTypings.TypeRef

/-!
# Mapped types

A written type is mapped by its base name: what is left of it without blanks around it and without
anything from the first bracket on. Types that differ only in these are mapped alike. The table of
built-in types then leaves to the engine exactly the names that are none of its own, and of these
only such as are base names of themselves.
-/

namespace ScriptTypings.TypeRef

open Text

/-- The names that the table has a type for. -/
def builtInNames : List String :=
  ["int", "float", "integer", "String", "StringName", "string", "bool", "true", "false", "void",
   "Array", "array"]

/-- A name that is neither empty nor in the table, with no bracket in it and no blanks around it. -/
structure IsEngineName (name : String) : Prop where
  not_empty : name ≠ ""
  no_bracket : '[' ∉ name.toList
  start : ∀ c, name.toList.head? = some c → isBlank c = false
  finish : ∀ c, name.toList.getLast? = some c → isBlank c = false
  not_builtIn : name ∉ builtInNames

/-! ## Base names -/

theorem toList_baseName (written : String) :
    (baseName written).toList = trimEnd ((trimStart written.toList).takeWhile (· ≠ '[')) := by
  have hblank : ∀ c, isBlank c = true → decide (c ≠ '[') = true := by
    rintro c hc
    rw [decide_eq_true_eq]
    rintro rfl
    exact absurd hc (by decide)
  rw [baseName, String.toList_ofList, trim, String.toList_ofList,
    trimEnd_takeWhile_trimEnd hblank]

/-- The base name stands at the start of what is written, behind the blanks. -/
theorem baseName_prefix (written : String) :
    (baseName written).toList <+: (trimStart written.toList).takeWhile (· ≠ '[') := by
  rw [toList_baseName]
  exact List.rdropWhile_prefix isBlank _

/-- From a bracket on, it does not matter what is written. -/
theorem baseName_append_bracket (s t : String) : baseName (s ++ "[" ++ t) = baseName s := by
  have hlist : (s ++ "[" ++ t).toList = s.toList ++ '[' :: t.toList := by simp
  rw [← String.toList_inj, toList_baseName, toList_baseName, hlist,
    trimStart_append_cons _ (by decide), List.takeWhile_append]
  split
  · next hall =>
      rw [List.takeWhile_cons_of_neg (by simp), List.append_nil,
        List.IsPrefix.eq_of_length (List.takeWhile_prefix _) hall]
  · rfl

/-- A text without brackets and without blanks around it is its own base name. -/
theorem baseName_eq_self {name : String} (h : IsEngineName name) : baseName name = name := by
  have hcut : name.toList.takeWhile (· ≠ '[') = name.toList := by
    apply List.takeWhile_eq_self_iff.mpr
    intro c hc
    rw [decide_eq_true_eq]
    rintro rfl
    exact h.no_bracket hc
  rw [← String.toList_inj, toList_baseName, trimStart_eq_self h.start, hcut,
    trimEnd_eq_self h.finish]

/-! ## The table -/

/-- The empty name and the names of the table have types that are not left to the engine. -/
theorem ofBaseName_ne_engine (name : String) :
    ∀ base ∈ "" :: builtInNames, ofBaseName base ≠ .engine name := by
  simp [builtInNames, ofBaseName]

theorem ofBaseName_of_not_mem {base : String} (h : base ∉ "" :: builtInNames) :
    ofBaseName base = .engine base := by
  simp only [builtInNames, List.mem_cons, List.not_mem_nil, or_false, not_or] at h
  unfold ofBaseName
  split <;> simp_all

theorem ofBaseName_eq_engine_iff (base name : String) :
    ofBaseName base = .engine name ↔ base = name ∧ name ∉ "" :: builtInNames := by
  constructor
  · intro h
    have hbase : base ∉ "" :: builtInNames := fun hmem => ofBaseName_ne_engine name base hmem h
    rw [ofBaseName_of_not_mem hbase] at h
    cases h
    exact ⟨rfl, hbase⟩
  · rintro ⟨rfl, hname⟩
    exact ofBaseName_of_not_mem hname

/-- A reference to the engine is made by the base name of what is written. -/
theorem isEngineName_of_ofWritten {written name : String} (h : ofWritten written = .engine name) :
    IsEngineName name := by
  obtain ⟨rfl, hname⟩ := (ofBaseName_eq_engine_iff _ _).mp h
  obtain ⟨hempty, hbuiltIn⟩ := not_or.mp (mt List.mem_cons.mpr hname)
  have hfront := baseName_prefix written
  refine ⟨hempty, ?_, ?_, ?_, hbuiltIn⟩
  · intro hmem
    simpa using List.mem_takeWhile_imp (hfront.subset hmem)
  · intro c hc
    exact not_isBlank_of_head (hfront.trans (List.takeWhile_prefix _)) hc
  · intro c hc
    rw [toList_baseName] at hc
    exact not_isBlank_of_getLast hc

theorem ofWritten_of_isEngineName {name : String} (h : IsEngineName name) :
    ofWritten name = .engine name := by
  rw [ofWritten, baseName_eq_self h, ofBaseName_eq_engine_iff]
  exact ⟨rfl, fun hmem => (List.mem_cons.mp hmem).elim h.not_empty h.not_builtIn⟩

/-- How written types are mapped. Neither what follows a bracket nor blanks around a type make a
difference. A type that is written is mapped alike for a parameter and for a result. The engine is
referred to by names that are not empty, have no bracket in them and no blanks around them, and are
none of the table; every such name, written as a type, refers to the engine by itself. -/
theorem mapping_ignores_suffixes_and_blanks :
    (∀ s t : String, ofParameter (some (s ++ "[" ++ t)) = ofParameter (some s)) ∧
    (∀ s before after : String, (∀ c ∈ before.toList, isBlank c = true) →
      (∀ c ∈ after.toList, isBlank c = true) →
      ofParameter (some (before ++ s ++ after)) = ofParameter (some s)) ∧
    (∀ s : String, ofReturn (some s) = ofParameter (some s)) ∧
    (∀ (written : Option String) (name : String),
      ofParameter written = .engine name ∨ ofReturn written = .engine name → IsEngineName name) ∧
    ∀ name : String, IsEngineName name → ofParameter (some name) = .engine name := by
  refine ⟨?_, ?_, fun _ => rfl, ?_, fun _ => ofWritten_of_isEngineName⟩
  · intro s t
    rw [ofParameter, ofParameter, ofWritten, ofWritten, baseName_append_bracket]
  · intro s before after hbefore hafter
    rw [ofParameter, ofParameter, ofWritten, ofWritten, baseName, baseName,
      trim_append_append s hbefore hafter]
  · intro written name h
    cases written with
    | none => rcases h with h | h <;> cases h
    | some written => exact isEngineName_of_ofWritten (h.elim id id)

/-- The type `Dictionary [String, int]` with an ideographic space in front and a line feed behind is
mapped like `Dictionary`, by which the engine is referred to. -/
theorem mapping_of_padded_dictionary :
    ofParameter (some ("\u3000" ++ "Dictionary [String, int]" ++ "\n")) =
      ofParameter (some "Dictionary [String, int]") ∧
    ofParameter (some ("Dictionary " ++ "[" ++ "String, int]")) =
      ofParameter (some "Dictionary ") ∧
    IsEngineName "Dictionary" ∧
    ofParameter (some "Dictionary") = .engine "Dictionary" := by
  obtain ⟨hbracket, hblanks, -, hname, hself⟩ := mapping_ignores_suffixes_and_blanks
  have hmapped : ofParameter (some "Dictionary") = .engine "Dictionary" := by decide
  have hengine : IsEngineName "Dictionary" := hname _ _ (Or.inl hmapped)
  have hspace : "\u3000".toList.all isBlank = true := by decide
  have hbreak : "\n".toList.all isBlank = true := by decide
  exact ⟨hblanks _ _ _ (List.all_eq_true.mp hspace) (List.all_eq_true.mp hbreak), hbracket _ _,
    hengine, hself _ hengine⟩

end ScriptTypings.TypeRef
