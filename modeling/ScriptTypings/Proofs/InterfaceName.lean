import ScriptTypings.Proofs.MappedFile
import ScriptTypings.Proofs.SanitizedName
import ScriptTypings.Proofs.Signature

/-!
# Names of interfaces

An interface is named by the sanitized name of its class, or of its file. The name is an identifier,
but it can still be a reserved word of the generated language, or a name that the file itself gives
to the engine or to the look-up type. None of these words has an underscore in it, so an interface
is named by one of them exactly if a class or a file is.
-/

namespace ScriptTypings

open Identifier

/-- The names that an interface cannot have: the reserved words, and the names of the engine and of
the look-up type. Parameters are kept from `fn` too, which is no word of the language. -/
def takenNames : List String :=
  reservedParameterNames.filter (· ≠ "fn") ++ [engineNamespace, lookupName]

theorem isPlain_of_taken : ∀ word ∈ takenNames, IsPlain word := by
  decide

/-- The name of a class as it is written, or else that of its file. -/
def writtenName (record : ResourcePath × ClassRecord) : String :=
  record.2.name.getD record.1.stem

/-- The interfaces among some declarations. -/
def interfacesIn (declarations : List Declaration) : List Interface :=
  declarations.filterMap Declaration.asInterface

theorem interfacesIn_declarationsOf (scripts : List ScriptClasses) :
    interfacesIn (declarationsOf scripts) = sortedInterfaces scripts := by
  simp [interfacesIn, declarationsOf, Declaration.asInterface, List.filterMap_append,
    Function.comp_def]

/-- The interfaces of a file are named by the written names of the records, sanitized. -/
theorem mem_interfaceNames_iff (scripts : List ScriptClasses) (name : String) :
    name ∈ (interfacesIn (declarationsOf scripts)).map Interface.name ↔
      ∃ r ∈ recordsOf scripts, sanitize (writtenName r) = name := by
  have hperm := (sortedInterfaces_perm scripts).map Interface.name
  rw [interfacesIn_declarationsOf, hperm.mem_iff, List.map_map, List.mem_map]
  rfl

/-- A taken name is the name of an interface exactly if it is the written name of a record. -/
theorem taken_mem_interfaceNames_iff (scripts : List ScriptClasses) {word : String}
    (h : word ∈ takenNames) :
    word ∈ (interfacesIn (declarationsOf scripts)).map Interface.name ↔
      ∃ r ∈ recordsOf scripts, writtenName r = word := by
  rw [mem_interfaceNames_iff]
  simp only [sanitize_eq_iff_of_isPlain (isPlain_of_taken word h)]

/-- Which names interfaces have. The name of every interface is an identifier. A reserved word, or a
name that the file gives to something else, is the name of an interface exactly if a class, or the
file of a class without a name, is called so; all other classes have interfaces with usable
names. -/
theorem interface_names_usable_unless_written (scripts : List ScriptClasses) :
    (∀ name ∈ (interfacesIn (declarationsOf scripts)).map Interface.name, IsIdentifier name) ∧
    (∀ word ∈ takenNames,
      (word ∈ (interfacesIn (declarationsOf scripts)).map Interface.name ↔
        ∃ r ∈ recordsOf scripts, writtenName r = word)) ∧
    ((∀ name ∈ (interfacesIn (declarationsOf scripts)).map Interface.name, name ∉ takenNames) ↔
      ∀ r ∈ recordsOf scripts, writtenName r ∉ takenNames) := by
  refine ⟨?_, fun word => taken_mem_interfaceNames_iff scripts, ?_, ?_⟩
  · intro name hname
    obtain ⟨r, -, rfl⟩ := (mem_interfaceNames_iff scripts name).mp hname
    exact isIdentifier_sanitize (writtenName r)
  · intro husable r hr htaken
    exact husable _ ((taken_mem_interfaceNames_iff scripts htaken).mpr ⟨r, hr, rfl⟩) htaken
  · intro husable name hname htaken
    obtain ⟨r, hr, rfl⟩ := (taken_mem_interfaceNames_iff scripts htaken).mp hname
    exact husable r hr htaken

/-- A class without a name in the file `default.gd`, and a class that is named `G`. -/
def clashingScripts : List ScriptClasses :=
  [⟨.ofPath "ui/default.gd", [{ extendsClass := some "Node" }]⟩,
   ⟨.ofPath "ui/grid.gd", [{ name := some "G" }]⟩]

/-- The two classes of `clashingScripts` have interfaces with taken names. -/
theorem interface_names_of_clashingScripts :
    "default" ∈ takenNames ∧ "G" ∈ takenNames ∧
    "default" ∈ (interfacesIn (declarationsOf clashingScripts)).map Interface.name ∧
    "G" ∈ (interfacesIn (declarationsOf clashingScripts)).map Interface.name := by
  have hdefault : "default" ∈ takenNames := by decide
  have hengine : "G" ∈ takenNames := by decide
  obtain ⟨-, htaken, -⟩ := interface_names_usable_unless_written clashingScripts
  refine ⟨hdefault, hengine, (htaken _ hdefault).mpr ?_, (htaken _ hengine).mpr ?_⟩
  · exact ⟨_, .head _, by decide⟩
  · exact ⟨_, .tail _ (.head _), by decide⟩

/-- The interface of a class without a name in the file `default.gd` is named by a reserved word. -/
theorem interface_named_by_reserved_word :
    interfacesIn (declarationsOf [⟨.ofPath "default.gd", [{ extendsClass := some "Node" }]⟩]) =
      [⟨"default", some (.engine "Node"), []⟩] ∧
    "default" ∈ reservedParameterNames := by
  refine ⟨?_, by decide⟩
  rw [interfacesIn, interfaces_of_single]
  decide

end ScriptTypings
