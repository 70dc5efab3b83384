import ScriptTypings.Declaration.Mapping
import ScriptTypings.Proofs.ClassRecord

/-!
# Call signatures of a tree

A call signature passes through two records on its way from a function in the tree to the
generated file: the method of the class record and the member of the interface. Here it is stated
directly on the tree which children of a function become parameters, under which names and with
which types, and the generated signatures are shown to be these.
-/

namespace ScriptTypings

/-- The interface of a declaration that is one. -/
def Declaration.asInterface : Declaration → Option Interface
  | interface i => some i
  | _ => none

namespace Node

/-- A child of a parameter list that is a parameter: a plain name, or one of the three longer
shapes with a name in it. -/
def IsParameter (c : Node) : Prop :=
  c.kind = .identifier ∨
    (c.kind = .typedParameter ∨ c.kind = .defaultParameter ∨ c.kind = .typedDefaultParameter) ∧
      c.HasNamedChild .identifier

instance (c : Node) : Decidable c.IsParameter :=
  inferInstanceAs (Decidable (_ ∨ _))

/-- The written name of a parameter. -/
def parameterText (c : Node) : String :=
  if c.kind = .identifier then c.text else c.namedChildText .identifier

/-- The type of a parameter. Only the two typed shapes have one, and only where a node for it is
there; a type node in another shape does not count. -/
def parameterType (c : Node) : TypeRef :=
  if c.kind = .typedParameter ∨ c.kind = .typedDefaultParameter then
    match c.childByField "type" <|> c.childOfKind .type with
    | some t => .ofWritten t.text
    | none => .unknown
  else .unknown

/-- The type that a function returns: that of the first name in its return type, or else of the
text of the return type. -/
def declaredReturn (n : Node) : TypeRef :=
  match n.childByField "return_type" with
  | none => .void
  | some t =>
      match t.childOfKind .identifier with
      | some name => .ofWritten name.text
      | none => .ofWritten (Text.trim t.text)

/-- The children of the first parameter list of a function. -/
def parameterChildren (n : Node) : List Node :=
  ((n.childOfKind .parameters).map children).getD []

/-- The signature of a function, read off its node. -/
def declaredSignature (n : Node) : CallSignature where
  method := n.functionName
  parameters := (n.parameterChildren.filter fun c => c.IsParameter).map fun c =>
    { name := Identifier.parameterName c.parameterText, type := c.parameterType }
  returns := n.declaredReturn

theorem ofParameter_map_text (t : Option Node) :
    TypeRef.ofParameter (t.map text) =
      match t with
      | some t => .ofWritten t.text
      | none => .unknown := by
  cases t <;> rfl

/-- What one child of a parameter list becomes in a signature. -/
theorem parameter_map_ofBinding (c : Node) :
    c.parameter.map Parameter.ofBinding =
      if c.IsParameter then
        some { name := Identifier.parameterName c.parameterText, type := c.parameterType }
      else none := by
  rw [parameter, namedChildOfKind_map_text]
  cases hk : c.kind with
  | identifier =>
      simp [IsParameter, parameterText, parameterType, hk, Parameter.ofBinding,
        TypeRef.ofParameter]
  | defaultParameter =>
      by_cases h : c.HasNamedChild .identifier <;>
        simp [IsParameter, parameterText, parameterType, hk, h, Parameter.ofBinding,
          TypeRef.ofParameter]
  | typedParameter | typedDefaultParameter =>
      by_cases h : c.HasNamedChild .identifier <;>
        simp [IsParameter, parameterText, parameterType, hk, h, Parameter.ofBinding,
          ofParameter_map_text]
  | _ => simp [IsParameter, hk]

theorem parameterList_eq (n : Node) :
    n.parameterList = n.parameterChildren.filterMap parameter := by
  rw [parameterList, parameterChildren]
  cases n.childOfKind .parameters <;> rfl

/-- Each parameter of a function becomes one of its signature, in the same order. -/
theorem parameterList_map_ofBinding (n : Node) :
    n.parameterList.map Parameter.ofBinding = n.declaredSignature.parameters := by
  calc
    n.parameterList.map Parameter.ofBinding =
        n.parameterChildren.filterMap fun c => c.parameter.map Parameter.ofBinding := by
      rw [parameterList_eq, List.map_filterMap]
    _ = n.parameterChildren.filterMap fun c =>
          if c.IsParameter then
            some { name := Identifier.parameterName c.parameterText, type := c.parameterType }
          else none :=
      congrArg (List.filterMap · n.parameterChildren) (funext parameter_map_ofBinding)
    _ = n.declaredSignature.parameters := filterMap_ite_some IsParameter _ _

theorem ofReturn_returnType (n : Node) : TypeRef.ofReturn n.returnType = n.declaredReturn := by
  rw [returnType, declaredReturn]
  cases n.childByField "return_type" with
  | none => rfl
  | some t => cases ht : t.childOfKind .identifier <;> simp [TypeRef.ofReturn, ht]

/-- The signature made from the method of a function is the one read off its node. -/
theorem ofMethod_declaredMethod (n : Node) :
    CallSignature.ofMethod n.declaredMethod = n.declaredSignature := by
  rw [CallSignature.ofMethod, declaredMethod, ofReturn_returnType, parameterList_map_ofBinding]
  rfl

end Node

/-- One script with one class gives one interface. -/
theorem interfaces_of_single (path : ResourcePath) (record : ClassRecord) :
    (declarationsOf [⟨path, [record]⟩]).filterMap Declaration.asInterface =
      [Interface.ofClass path record] := by
  simp [declarationsOf, sortedInterfaces, interfacesOf, Declaration.asInterface]

/-- Call signatures are faithful from tree to declaration. The record of a tree gives exactly one
interface, whose members are the signatures of the functions outside inner classes that have a
name, each read off its node. -/
theorem signatures_faithful_to_tree (root : Node) (path : ResourcePath) (record : ClassRecord)
    (h : root.classRecord = some record) :
    ∃ i : Interface,
      (declarationsOf [⟨path, [record]⟩]).filterMap Declaration.asInterface = [i] ∧
        i.members =
          (root.places.filter fun p => p.DeclaresMethod).map fun p => p.node.declaredSignature := by
  refine ⟨Interface.ofClass path record, interfaces_of_single path record, ?_⟩
  have hmethods : record.methods =
      (root.places.filter fun p => p.DeclaresMethod).map fun p => p.node.declaredMethod := by
    rw [← root.methods_recordFrom, ← root.classRecord_getD, h, Option.getD_some]
  rw [Interface.ofClass, hmethods, List.map_map]
  exact List.map_congr_left fun p _ => Node.ofMethod_declaredMethod p.node

/-- A function inside a lambda of another one, with a plain parameter, one whose type node does not
count, one with a reserved name and an array type, and children that are no parameters. -/
def nestedFunctions : Node :=
  let leaf (grammarName text : String) : Node := .mk (.named grammarName) text none []
  .mk (.named "function_definition") "" none
    [leaf "name" "outer",
     .mk (.named "lambda") "" none
      [.mk (.named "function_definition") "" none
        [leaf "name" "inner",
         .mk (.named "parameters") "" none
          [.mk .token "(" none [], leaf "identifier" "a", .mk .token "," none [],
           .mk (.named "default_parameter") "" none [leaf "identifier" "b", leaf "type" "int"],
           leaf "comment" "# c",
           .mk (.named "typed_parameter") "" none
            [leaf "identifier" "in", .mk (.named "type") "Array[int]" (some "type") []],
           leaf "typed_parameter" "d"],
         .mk (.named "type") "" (some "return_type") [leaf "identifier" "bool"]]]]

/-- The record of `nestedFunctions` gives one interface with the signatures of both functions. -/
theorem signatures_of_nestedFunctions :
    ∃ record, nestedFunctions.classRecord = some record ∧
      ∃ i : Interface,
        (declarationsOf [⟨⟨["n.gd"]⟩, [record]⟩]).filterMap Declaration.asInterface = [i] ∧
          i.members =
            [⟨"outer", [], .void⟩,
             ⟨"inner", [⟨"a", .unknown⟩, ⟨"b", .unknown⟩, ⟨"in_", .array .unknown⟩], .boolean⟩] := by
  have hrecord : nestedFunctions.classRecord = some (nestedFunctions.classRecord.getD {}) := rfl
  obtain ⟨i, hi, hmembers⟩ := signatures_faithful_to_tree nestedFunctions ⟨["n.gd"]⟩ _ hrecord
  exact ⟨_, hrecord, i, hi, hmembers.trans (by decide)⟩

end ScriptTypings
