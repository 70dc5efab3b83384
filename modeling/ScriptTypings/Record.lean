/-! # Class records

What a script offers to its callers: the name of its class, the class it extends, and its members
in source order. -/

namespace ScriptTypings

/-- A name with the type and the initial value written for it, both as source text. -/
structure Binding where
  name : String
  type : Option String := none
  defaultValue : Option String := none
  deriving DecidableEq, Repr, Inhabited

structure Variable extends Binding where
  isPrivate : Bool
  deriving DecidableEq, Repr, Inhabited

/-- Names that start with an underscore are private. -/
def isPrivateName (name : String) : Bool :=
  name.toList.head? = some '_'

def Variable.ofBinding (b : Binding) : Variable :=
  { b with isPrivate := isPrivateName b.name }

structure Method where
  name : String
  returnType : Option String := none
  parameters : List Binding := []
  deriving DecidableEq, Repr, Inhabited

structure ClassRecord where
  name : Option String := none
  extendsClass : Option String := none
  exports : List Binding := []
  fields : List Variable := []
  methods : List Method := []
  deriving DecidableEq, Repr, Inhabited

/-- The members of a script before its `class_name` join the named class, in front of the members
after it. The named class keeps its own base class where it has one. -/
def ClassRecord.merge (anonymous named : ClassRecord) : ClassRecord where
  name := named.name
  extendsClass := named.extendsClass <|> anonymous.extendsClass
  exports := anonymous.exports ++ named.exports
  fields := anonymous.fields ++ named.fields
  methods := anonymous.methods ++ named.methods

end ScriptTypings
