import ScriptTypings.Node.Basic

/-! # Shapes of scripts

Parsing finds the shape of a script: which construct covers which part of the text. A shape becomes
a syntax tree by cutting its texts out of the script. -/

namespace ScriptTypings.Script

/-- A part of a text, from one character offset up to another. -/
structure Span where
  start : Nat
  stop : Nat
  deriving DecidableEq, Repr, Inhabited

inductive Shape where
  | mk (label : Label) (field : Option String) (span : Span) (children : List Shape)
  deriving Repr, Inhabited

def Span.cut (source : Array Char) (s : Span) : String :=
  String.ofList (source.extract s.start s.stop).toList

namespace Shape

def label : Shape → Label
  | mk label _ _ _ => label

/-- Comments stand among the parts of a construct but fill no field of it. -/
def isComment (s : Shape) : Bool :=
  s.label = .named "comment"

/-- The same shape as the filling of a field of its parent, if it does not fill one already. -/
def inField (field : Option String) (s : Shape) : Shape :=
  match s with
  | mk label own span children =>
      if s.isComment then s else mk label (own <|> field) span children

end Shape

mutual

def Shape.toNode (source : Array Char) : Shape → Node
  | .mk label field span children =>
      .mk label (span.cut source) field (shapesToNodes source children)

def shapesToNodes (source : Array Char) : List Shape → List Node
  | [] => []
  | shape :: rest => shape.toNode source :: shapesToNodes source rest

end

end ScriptTypings.Script
