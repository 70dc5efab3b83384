import ScriptTypings.Node.Kind

/-! # Syntax trees

A node is either named, with a grammar name, or a token, known by its text alone. Every node
carries the text it covers, the field it fills in its parent if any, and its children in source
order. -/

namespace ScriptTypings

/-- What a node is in the grammar. -/
inductive Label where
  | named (grammarName : String)
  | token
  deriving DecidableEq, Repr, Inhabited

inductive Node where
  | mk (label : Label) (text : String) (field : Option String) (children : List Node)
  deriving Repr, Inhabited

namespace Node

def label : Node → Label
  | mk label _ _ _ => label

def text : Node → String
  | mk _ text _ _ => text

def field : Node → Option String
  | mk _ _ field _ => field

def children : Node → List Node
  | mk _ _ _ children => children

def isNamed (n : Node) : Bool :=
  match n.label with
  | .named _ => true
  | .token => false

/-- A token is never of a listed kind, whatever its text. -/
def kind (n : Node) : Kind :=
  match n.label with
  | .named grammarName => Kind.ofName grammarName
  | .token => .other

/-- The grammar name of a named node, the text of a token. -/
def rawKind (n : Node) : String :=
  match n.label with
  | .named grammarName => grammarName
  | .token => n.text

def namedChildren (n : Node) : List Node :=
  n.children.filter isNamed

/-- The first child of a kind, tokens included. -/
def childOfKind (n : Node) (k : Kind) : Option Node :=
  n.children.find? fun c => c.kind = k

/-- The first named child of a kind. -/
def namedChildOfKind (n : Node) (k : Kind) : Option Node :=
  n.namedChildren.find? fun c => c.kind = k

def childByField (n : Node) (name : String) : Option Node :=
  n.children.find? fun c => c.field = some name

end Node

end ScriptTypings
