import ScriptTypings.Declaration.Printer
import ScriptTypings.Event
import ScriptTypings.Identifier
import ScriptTypings.Record

/-! # From class records to declarations

Each class record gives one interface and one look-up entry. Interfaces are sorted by name and
entries by key, both by code point; ties keep the order of the scripts. Interfaces that share a
name are reported, one event for each after the first. -/

namespace ScriptTypings

/-- The classes of one script. -/
structure ScriptClasses where
  path : ResourcePath
  classes : List ClassRecord
  deriving DecidableEq, Repr, Inhabited

/-- The type that maps resource paths to interfaces. -/
def lookupName : String := "ResourceMapper"

/-- The function that instantiates a script by its resource path. -/
def accessorName : String := "instantiateGdScript"

/-- The name of the class, or else that of its file. -/
def interfaceName (path : ResourcePath) (c : ClassRecord) : String :=
  Identifier.sanitize (c.name.getD path.stem)

def Parameter.ofBinding (b : Binding) : Parameter where
  name := Identifier.parameterName b.name
  type := TypeRef.ofParameter b.type

def CallSignature.ofMethod (m : Method) : CallSignature where
  method := m.name
  parameters := m.parameters.map Parameter.ofBinding
  returns := TypeRef.ofReturn m.returnType

def Interface.ofClass (path : ResourcePath) (c : ClassRecord) : Interface where
  name := interfaceName path c
  base := c.extendsClass.map TypeRef.engine
  members := c.methods.map CallSignature.ofMethod

def LookupEntry.ofClass (path : ResourcePath) (c : ClassRecord) : LookupEntry where
  key := path.toString
  type := .declared (interfaceName path c)

/-- The interfaces of all scripts, in the order of the scripts. -/
def interfacesOf (scripts : List ScriptClasses) : List Interface :=
  scripts.flatMap fun s => s.classes.map (Interface.ofClass s.path)

def entriesOf (scripts : List ScriptClasses) : List LookupEntry :=
  scripts.flatMap fun s => s.classes.map (LookupEntry.ofClass s.path)

def sortedInterfaces (scripts : List ScriptClasses) : List Interface :=
  (interfacesOf scripts).mergeSort fun a b => decide (a.name ≤ b.name)

def sortedEntries (scripts : List ScriptClasses) : List LookupEntry :=
  (entriesOf scripts).mergeSort fun a b => decide (a.key ≤ b.key)

/-- The accessor is the same in every file: its argument is a key of the look-up type, and its
result what the look-up type holds there. -/
def accessor : Accessor where
  name := accessorName
  typeParameter := "T"
  bound := .keyOf lookupName
  parameter := { name := "path", type := .declared "T" }
  returns := .indexed lookupName "T"

def declarationsOf (scripts : List ScriptClasses) : List Declaration :=
  (sortedInterfaces scripts).map .interface ++
    [.lookup { name := lookupName, entries := sortedEntries scripts }, .accessor accessor]

/-- Each name that equals the name before it. -/
def repeatedNames : List String → List String
  | a :: b :: rest => if a = b then a :: repeatedNames (b :: rest) else repeatedNames (b :: rest)
  | _ => []

def mappingLog (scripts : List ScriptClasses) : List Event :=
  (repeatedNames ((sortedInterfaces scripts).map Interface.name)).map .interfaceRepeated

/-- The text of the generated file. -/
def generate (scripts : List ScriptClasses) : String :=
  printFile (declarationsOf scripts)

end ScriptTypings
