import ScriptTypings.Declaration.Mapping
import ScriptTypings.Proofs.SanitizedName
import Mathlib.Data.List.Nodup

/-!
# Names of parameters

A reserved name gets an underscore at its end, and any other name is sanitized. What comes out is an
identifier that is not reserved, and a name that was one is kept. No parameter is then named like
the first one, which selects the method. Two parameters with different names can come together in
two ways: both are sanitized and read alike, or one is reserved and the other reads as that word
with an underscore behind it. Otherwise they stay apart.
-/

namespace ScriptTypings

namespace Identifier

theorem isPlain_of_reserved : ∀ word ∈ reservedParameterNames, IsPlain word := by
  decide

/-- A reserved word, and a text that reads as that word with an underscore behind it. -/
def ReadsSuffixed (word name : String) : Prop :=
  word ∈ reservedParameterNames ∧ ∃ c, ReadsUnderscore c ∧ name.toList = word.toList ++ [c]

/-- Two texts that are no reserved words and read alike, or one that is a reserved word and one that
reads as that word with an underscore behind it. -/
def Confused (a b : String) : Prop :=
  (a ∉ reservedParameterNames ∧ b ∉ reservedParameterNames ∧ ReadsAlike a b) ∨
    ReadsSuffixed a b ∨ ReadsSuffixed b a

theorem ReadsSuffixed.not_mem {word name : String} (h : ReadsSuffixed word name) :
    name ∉ reservedParameterNames := by
  intro hname
  obtain ⟨-, c, hc, hlist⟩ := h
  exact (isPlain_of_reserved name hname).not_readsUnderscore c (by simp [hlist]) hc

/-- A reserved word stays apart from the others, and comes together with a name that is sanitized if
that one reads as the word with an underscore behind it. -/
theorem parameterName_eq_iff_of_reserved {word name : String}
    (hword : word ∈ reservedParameterNames) (hne : word ≠ name) :
    parameterName word = parameterName name ↔ ReadsSuffixed word name := by
  rw [parameterName, if_pos hword, parameterName]
  split
  · next hname =>
      constructor
      · intro h
        exact absurd ((String.append_left_inj "_").mp h) hne
      · intro h
        exact absurd hname h.not_mem
  · rw [eq_comm, sanitize_eq_append_iff (isPlain_of_reserved word hword)]
    exact (and_iff_right hword).symm

/-- Different names become one parameter name exactly if they are confused. -/
theorem parameterName_eq_iff {a b : String} (hne : a ≠ b) :
    parameterName a = parameterName b ↔ Confused a b := by
  have hsuffixed : ∀ {word name : String}, word ∉ reservedParameterNames →
      ¬ ReadsSuffixed word name := fun hword h => hword h.1
  rw [Confused]
  by_cases ha : a ∈ reservedParameterNames
  · rw [parameterName_eq_iff_of_reserved ha hne]
    have hother : ¬ ReadsSuffixed b a := fun h => h.not_mem ha
    simp [ha, hother]
  · by_cases hb : b ∈ reservedParameterNames
    · rw [eq_comm, parameterName_eq_iff_of_reserved hb hne.symm]
      simp [hb, hsuffixed ha]
    · rw [parameterName, parameterName, if_neg ha, if_neg hb, sanitize_eq_sanitize_iff]
      simp [ha, hb, hsuffixed]

/-- An identifier that is no reserved name. -/
def IsUsable (name : String) : Prop :=
  IsIdentifier name ∧ name ∉ reservedParameterNames

/-- The underscore keeps a reserved word an identifier and makes it one that is not reserved. -/
theorem isUsable_append_underscore {word : String} (h : word ∈ reservedParameterNames) :
    IsUsable (word ++ "_") := by
  have hplain := isPlain_of_reserved word h
  refine ⟨?_, fun hreserved => (isPlain_of_reserved _ hreserved).2 (by simp)⟩
  rw [← (sanitize_eq_append_iff hplain (word ++ "_")).mpr ⟨'_', Or.inl rfl, by simp⟩]
  exact isIdentifier_sanitize _

/-- No text is sanitized to a reserved word but that word. -/
theorem isUsable_sanitize {name : String} (h : name ∉ reservedParameterNames) :
    IsUsable (sanitize name) := by
  refine ⟨isIdentifier_sanitize name, fun hreserved => ?_⟩
  have hsame := (sanitize_eq_iff_of_isPlain (isPlain_of_reserved _ hreserved) name).mp rfl
  rw [← hsame] at hreserved
  exact h hreserved

theorem isUsable_parameterName (name : String) : IsUsable (parameterName name) := by
  rw [parameterName]
  split
  · next h => exact isUsable_append_underscore h
  · next h => exact isUsable_sanitize h

theorem parameterName_eq_self_iff (name : String) : parameterName name = name ↔ IsUsable name := by
  constructor
  · intro h
    rw [← h]
    exact isUsable_parameterName name
  · rintro ⟨hidentifier, hreserved⟩
    rw [parameterName, if_neg hreserved, sanitize_of_isIdentifier hidentifier]

/-- No parameter has the name of the one that selects the method. -/
theorem parameterName_ne_fn (name : String) : parameterName name ≠ "fn" := by
  intro h
  have husable := isUsable_parameterName name
  rw [h] at husable
  exact husable.2 (by decide)

theorem readsSuffixed_iff_of_isIdentifier {word name : String} (h : IsIdentifier name) :
    ReadsSuffixed word name ↔ word ∈ reservedParameterNames ∧ name = word ++ "_" := by
  refine and_congr_right fun _ => ?_
  constructor
  · rintro ⟨c, hc, hlist⟩
    have hchar : isIdentifierChar c = true := h.1.2 c (by simp [hlist])
    rcases hc with rfl | hc
    · exact String.toList_inj.mp (by simp [hlist])
    · rw [hchar] at hc
      cases hc
  · rintro rfl
    exact ⟨'_', Or.inl rfl, by simp⟩

/-- Identifiers are confused only where one is a reserved word and the other has an underscore
behind it. -/
theorem confused_iff_of_isIdentifier {a b : String} (ha : IsIdentifier a) (hb : IsIdentifier b)
    (hne : a ≠ b) :
    Confused a b ↔
      (a ∈ reservedParameterNames ∧ b = a ++ "_") ∨
        (b ∈ reservedParameterNames ∧ a = b ++ "_") := by
  have halike : ¬ ReadsAlike a b := by
    rw [← sanitize_eq_sanitize_iff, sanitize_of_isIdentifier ha, sanitize_of_isIdentifier hb]
    exact hne
  rw [Confused, readsSuffixed_iff_of_isIdentifier ha, readsSuffixed_iff_of_isIdentifier hb]
  simp [halike]

end Identifier

open Identifier

/-- The parameters that a signature prints, each with the text of its type. The first one selects
the method by its name. -/
def CallSignature.printedParameters (s : CallSignature) : List (String × String) :=
  ("fn", Literal.encode s.method) :: s.parameters.map fun p => (p.name, p.type.print)

theorem intercalate_cons (separator first : String) (rest : List String) :
    separator.intercalate (first :: rest) =
      first ++ String.join (rest.map fun s => separator ++ s) := by
  induction rest generalizing first with
  | nil => simp
  | cons s rest ih =>
      rw [String.intercalate_cons_cons, ih, List.map_cons, String.join_cons]
      simp [String.append_assoc]

theorem CallSignature.print_eq_printedParameters (s : CallSignature) :
    s.print = "    call(" ++
      ", ".intercalate (s.printedParameters.map fun p => p.1 ++ ": " ++ p.2) ++
        "): " ++ s.returns.print ++ ";\n" := by
  have hstart : "    call(fn: " = "    call(" ++ ("fn" ++ ": ") := by decide
  unfold CallSignature.print
  rw [hstart, printedParameters, List.map_cons, intercalate_cons, List.map_map, List.map_map]
  simp only [String.append_assoc, Function.comp_def, Parameter.print]

namespace Method

/-- The names of the parameters as they are written. -/
def parameterNames (m : Method) : List String :=
  m.parameters.map Binding.name

theorem signature_names (m : Method) :
    (CallSignature.ofMethod m).parameters.map Parameter.name =
      m.parameterNames.map parameterName := by
  simp [CallSignature.ofMethod, Parameter.ofBinding, parameterNames, Function.comp_def]

theorem printedParameters_names (m : Method) :
    (CallSignature.ofMethod m).printedParameters.map Prod.fst =
      "fn" :: m.parameterNames.map parameterName := by
  rw [CallSignature.printedParameters, List.map_cons, List.map_map, ← signature_names]
  rfl

theorem fn_not_mem_names (m : Method) : "fn" ∉ m.parameterNames.map parameterName := by
  intro h
  obtain ⟨name, -, hname⟩ := List.mem_map.mp h
  exact parameterName_ne_fn name hname

/-- The names of the parameters in a signature. Each is an identifier that is not reserved, and so
none is that of the parameter which selects the method. Where the written name is such an identifier
it is kept, and nowhere else. -/
theorem parameter_names_usable_and_minimal (m : Method) :
    List.Forall₂
      (fun (written : Binding) (p : Parameter) =>
        IsUsable p.name ∧ (p.name = written.name ↔ IsUsable written.name))
      m.parameters (CallSignature.ofMethod m).parameters ∧
    "fn" ∉ (CallSignature.ofMethod m).parameters.map Parameter.name := by
  constructor
  · rw [CallSignature.ofMethod, List.forall₂_map_right_iff, List.forall₂_same]
    intro written _
    exact ⟨isUsable_parameterName written.name, parameterName_eq_self_iff written.name⟩
  · rw [signature_names]
    exact m.fn_not_mem_names

theorem printedParameters_nodup_iff {m : Method} (h : m.parameterNames.Nodup) :
    ((CallSignature.ofMethod m).printedParameters.map Prod.fst).Nodup ↔
      ∀ a ∈ m.parameterNames, ∀ b ∈ m.parameterNames, a ≠ b → ¬ Confused a b := by
  rw [printedParameters_names, List.nodup_cons, and_iff_right m.fn_not_mem_names,
    List.nodup_map_iff_inj_on h]
  refine forall₂_congr fun a _ => forall₂_congr fun b _ => ?_
  constructor
  · intro hinj hne hconfused
    exact hne (hinj ((parameterName_eq_iff hne).mpr hconfused))
  · intro hconfused heq
    by_contra hne
    exact hconfused hne ((parameterName_eq_iff hne).mp heq)

/-- Among identifiers it is enough that no reserved word stands beside itself with an underscore. -/
theorem not_confused_iff_of_isIdentifier {m : Method}
    (h : ∀ name ∈ m.parameterNames, IsIdentifier name) :
    (∀ a ∈ m.parameterNames, ∀ b ∈ m.parameterNames, a ≠ b → ¬ Confused a b) ↔
      ∀ word ∈ reservedParameterNames, word ∈ m.parameterNames →
        word ++ "_" ∉ m.parameterNames := by
  constructor
  · intro hall word hreserved hword hsuffixed
    have hne : word ≠ word ++ "_" := by
      intro heq
      simpa using congrArg (fun s => s.toList.length) heq
    apply hall word hword _ hsuffixed hne
    exact (confused_iff_of_isIdentifier (h _ hword) (h _ hsuffixed) hne).mpr
      (Or.inl ⟨hreserved, rfl⟩)
  · intro hall a ha b hb hne hconfused
    rcases (confused_iff_of_isIdentifier (h a ha) (h b hb) hne).mp hconfused with
      ⟨hreserved, rfl⟩ | ⟨hreserved, rfl⟩
    · exact hall a hreserved ha hb
    · exact hall b hreserved hb ha

/-- When a signature keeps its parameters apart. A signature prints the parameter `fn` and the
renamed parameters of its method, and none of these is named `fn`. If the written names are pairwise
distinct, so are the printed ones exactly if no two of the written names are confused. Identifiers
are confused only where a reserved word stands beside the same word with an underscore. -/
theorem printed_parameters_distinct_iff (m : Method) (h : m.parameterNames.Nodup) :
    (CallSignature.ofMethod m).print = "    call(" ++
        ", ".intercalate ((CallSignature.ofMethod m).printedParameters.map fun p =>
          p.1 ++ ": " ++ p.2) ++
        "): " ++ (CallSignature.ofMethod m).returns.print ++ ";\n" ∧
    (CallSignature.ofMethod m).printedParameters.map Prod.fst =
      "fn" :: m.parameterNames.map parameterName ∧
    "fn" ∉ m.parameterNames.map parameterName ∧
    (((CallSignature.ofMethod m).printedParameters.map Prod.fst).Nodup ↔
      ∀ a ∈ m.parameterNames, ∀ b ∈ m.parameterNames, a ≠ b → ¬ Confused a b) ∧
    ((∀ name ∈ m.parameterNames, IsIdentifier name) →
      (((CallSignature.ofMethod m).printedParameters.map Prod.fst).Nodup ↔
        ∀ word ∈ reservedParameterNames, word ∈ m.parameterNames →
          word ++ "_" ∉ m.parameterNames)) := by
  refine ⟨CallSignature.print_eq_printedParameters _, m.printedParameters_names, m.fn_not_mem_names,
    printedParameters_nodup_iff h, ?_⟩
  intro hidentifiers
  rw [printedParameters_nodup_iff h, not_confused_iff_of_isIdentifier hidentifiers]

/-- A method whose parameters are named `fn`, `speed` and `fn__`. -/
def launch : Method :=
  { name := "launch", parameters := [{ name := "fn" }, { name := "speed" }, { name := "fn__" }] }

/-- All names of `launch` are identifiers, none is a reserved word beside itself with one
underscore, and the printed names are distinct. -/
theorem printed_parameters_of_launch :
    launch.parameterNames.Nodup ∧ (∀ name ∈ launch.parameterNames, IsIdentifier name) ∧
    ((CallSignature.ofMethod launch).printedParameters.map Prod.fst).Nodup := by
  have hdistinct : launch.parameterNames.Nodup := by decide
  have hidentifiers : ∀ name ∈ launch.parameterNames, IsIdentifier name := by decide
  obtain ⟨-, -, -, -, hiff⟩ := printed_parameters_distinct_iff launch hdistinct
  exact ⟨hdistinct, hidentifiers, (hiff hidentifiers).mpr (by decide)⟩

/-- A method whose parameters are named `default` and `default_`. -/
def choose : Method :=
  { name := "choose", parameters := [{ name := "default" }, { name := "default_" }] }

/-- The parameters of `choose` have different names and are printed under one. -/
theorem parameters_of_choose_meet :
    choose.parameterNames.Nodup ∧
    (CallSignature.ofMethod choose).printedParameters.map Prod.fst =
      ["fn", "default_", "default_"] ∧
    ¬ ((CallSignature.ofMethod choose).printedParameters.map Prod.fst).Nodup := by
  decide

end Method

end ScriptTypings
