import ScriptTypings.Node.Basic
import ScriptTypings.Record
import ScriptTypings.Text.Blank

/-! # Facts of a syntax tree

A class record is read off a tree in two steps. This module lists, in pre-order, what each node
contributes: a class name, a base class, a field, a method or an inner class. Fields and base
classes count only at class level, that is outside function bodies, lambdas and property
accessors. Nothing below an inner class counts. -/

namespace ScriptTypings

/-- What one node contributes to the class record of its script. -/
inductive Fact where
  /-- A `class_name` statement with the base class it brings along. -/
  | className (name : String) (base : Option String)
  | extendsClass (target : String)
  | field (exported : Bool) (binding : Binding)
  | method (method : Method)
  | innerClass (name : String)
  deriving DecidableEq, Repr, Inhabited

/-- Where a node stands: in the body of the class or in a body whose declarations are locals. -/
inductive Scope where
  | classBody
  | functionBody
  deriving DecidableEq, Repr, Inhabited

/-- The scope of the children of a node. -/
def Scope.below (scope : Scope) : Kind → Scope
  | .functionDefinition | .constructorDefinition | .lambda | .setBody | .getBody => .functionBody
  | _ => scope

/-- The name under which a constructor is recorded. -/
def constructorName : String := "_init"

/-- Annotations that export the variable they mark: `export` itself and the `export_` family,
without those that only group properties in the editor. -/
def isExportName (name : String) : Bool :=
  name = "export" ∨
    ("export_".toList.isPrefixOf name.toList ∧
      name ∉ ["export_group", "export_subgroup", "export_category"])

namespace Node

mutual

/-- Whether an annotation, or one in a group of annotations, exports. -/
def isExporting : Node → Bool
  | .mk label text field children =>
      match (Node.mk label text field children).kind with
      | .annotationNode => children.any fun c => c.kind = .identifier ∧ isExportName c.text
      | .annotationGroup => anyExporting children
      | _ => false

def anyExporting : List Node → Bool
  | [] => false
  | n :: rest => isExporting n || anyExporting rest

end

def isAnnotated (n : Node) : Bool :=
  n.kind = .annotationNode ∨ n.kind = .annotationGroup

/-- Whether a variable is exported: by an annotation inside its statement, or by one of the
annotations that stand directly before it. `earlier` lists the earlier named siblings, nearest
first. -/
def isExported (earlier : List Node) (n : Node) : Bool :=
  n.children.any isExporting ||
    (earlier.takeWhile isAnnotated).any isExporting

/-- The class an `extends` statement names; a script extended by its path gives none. -/
def extendsTarget (n : Node) : Option String :=
  (n.namedChildOfKind .type).map text

/-- The `extends` statement that belongs to a `class_name`: the named sibling right before it, or
else one among its own children. -/
def ownExtends (earlier : List Node) (n : Node) : Option Node :=
  earlier.head?.filter (fun s => s.kind = .extendsStatement) <|>
    n.childOfKind .extendsStatement

def classNameFact (earlier : List Node) (n : Node) : Option Fact :=
  (n.namedChildOfKind .name).map fun name =>
    .className name.text ((n.ownExtends earlier).bind extendsTarget)

/-- The type of a variable: the plain name written as its type, or else the grammar name of its
initial value. -/
def variableType (n : Node) : Option String :=
  ((n.childOfKind .type).bind fun t => (t.childOfKind .identifier).map text) <|>
    (n.childByField "value").map rawKind

def variableFact (earlier : List Node) (n : Node) : Option Fact :=
  (n.namedChildOfKind .name).map fun name =>
    .field (n.isExported earlier)
      { name := name.text
        type := n.variableType
        defaultValue := (n.childByField "value").map text }

/-- One parameter of a parameter list; separators and unknown shapes give none. A parameter with
only an initial value has no type, whatever nodes it holds. -/
def parameter (n : Node) : Option Binding :=
  let name := (n.namedChildOfKind .identifier).map text
  let type := (n.childByField "type" <|> n.childOfKind .type).map text
  let value := (n.childByField "value").map text
  match n.kind with
  | .identifier => some { name := n.text }
  | .typedParameter => name.map fun s => { name := s, type := type }
  | .defaultParameter => name.map fun s => { name := s, defaultValue := value }
  | .typedDefaultParameter => name.map fun s => { name := s, type := type, defaultValue := value }
  | _ => none

def parameterList (n : Node) : List Binding :=
  match n.childOfKind .parameters with
  | none => []
  | some list => list.children.filterMap parameter

/-- The written return type: a plain name, or else the trimmed text. -/
def returnType (n : Node) : Option String :=
  (n.childByField "return_type").map fun t =>
    match t.childOfKind .identifier with
    | some name => name.text
    | none => Text.trim t.text

def methodName (n : Node) : Option String :=
  match n.kind with
  | .constructorDefinition => some constructorName
  | _ => (n.childByField "name" <|> n.childOfKind .name).map text

/-- A function without a name is no method. -/
def method (n : Node) : Option Method :=
  (n.methodName.filter (· ≠ "")).map fun name =>
    { name := name, returnType := n.returnType, parameters := n.parameterList }

def innerClassName (n : Node) : String :=
  ((n.childByField "name").map text).getD "<unnamed>"

/-- What a node contributes by itself, without its children. -/
def ownFacts (scope : Scope) (earlier : List Node) (n : Node) : List Fact :=
  match n.kind with
  | .classNameStatement => (n.classNameFact earlier).toList
  | .extendsStatement =>
      if scope = .classBody then (n.extendsTarget.map Fact.extendsClass).toList else []
  | .variableStatement => if scope = .classBody then (n.variableFact earlier).toList else []
  | .functionDefinition | .constructorDefinition => (n.method.map Fact.method).toList
  | .classDefinition => [.innerClass n.innerClassName]
  | _ => []

mutual

/-- The facts of a node and of all below it, in pre-order. `earlier` lists the earlier named siblings
of the node, nearest first. -/
def facts (scope : Scope) (earlier : List Node) : Node → List Fact
  | .mk label text field children =>
      let node := Node.mk label text field children
      node.ownFacts scope earlier ++
        if node.kind = .classDefinition then [] else childFacts (scope.below node.kind) [] children

def childFacts (scope : Scope) (earlier : List Node) : List Node → List Fact
  | [] => []
  | n :: rest =>
      facts scope earlier n ++
        childFacts scope (if n.isNamed then n :: earlier else earlier) rest

end

end Node

end ScriptTypings
