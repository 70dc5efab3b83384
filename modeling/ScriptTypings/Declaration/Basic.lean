import ScriptTypings.TypeRef

/-! # Declarations

The declarations of a generated file: one interface per class, a look-up type from resource paths
to interfaces, and a function that instantiates a script by its path. -/

namespace ScriptTypings

structure Parameter where
  name : String
  type : TypeRef
  deriving DecidableEq, Repr, Inhabited

/-- How one method of a script is called by its name. -/
structure CallSignature where
  method : String
  parameters : List Parameter
  returns : TypeRef
  deriving DecidableEq, Repr, Inhabited

structure Interface where
  name : String
  base : Option TypeRef
  members : List CallSignature
  deriving DecidableEq, Repr, Inhabited

structure LookupEntry where
  key : String
  type : TypeRef
  deriving DecidableEq, Repr, Inhabited

structure Lookup where
  name : String
  entries : List LookupEntry
  deriving DecidableEq, Repr, Inhabited

/-- A generic function whose only parameter is bounded by a type. -/
structure Accessor where
  name : String
  typeParameter : String
  bound : TypeRef
  parameter : Parameter
  returns : TypeRef
  deriving DecidableEq, Repr, Inhabited

inductive Declaration where
  | interface (i : Interface)
  | lookup (l : Lookup)
  | accessor (a : Accessor)
  deriving DecidableEq, Repr, Inhabited

end ScriptTypings
