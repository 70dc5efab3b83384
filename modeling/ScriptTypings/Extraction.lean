import ScriptTypings.Event
import ScriptTypings.Node.Fact

/-! # Extraction

The class record of a script, and the log of reading it, from the facts of its tree. A script has
at most one record. Members before the first `class_name` belong to an anonymous class, those
after it to the named one, and the two are merged. -/

namespace ScriptTypings

namespace Fact

def asExport : Fact → Option Binding
  | field true binding => some binding
  | _ => none

def asVariable : Fact → Option Variable
  | field false binding => some (Variable.ofBinding binding)
  | _ => none

def asMethod : Fact → Option Method
  | method m => some m
  | _ => none

def isMember : Fact → Bool
  | field _ _ | method _ => true
  | _ => false

def isClassName : Fact → Bool
  | className _ _ => true
  | _ => false

def asBase : Fact → Option String
  | extendsClass target => some target
  | _ => none

end Fact

/-- A class with the members among the facts. -/
def ClassRecord.ofMembers (facts : List Fact) : ClassRecord where
  exports := facts.filterMap Fact.asExport
  fields := facts.filterMap Fact.asVariable
  methods := facts.filterMap Fact.asMethod

/-- The class formed by the members before any `class_name`; none if there are no members. -/
def anonymousClass (facts : List Fact) : Option ClassRecord :=
  if facts.any Fact.isMember then some (.ofMembers facts) else none

/-- The class of the `class_name` that the facts start with. -/
def namedClass : List Fact → Option ClassRecord
  | .className name base :: rest =>
      some { ClassRecord.ofMembers rest with name := some name, extendsClass := base }
  | _ => none

/-- The record of a script from its facts. A base class of the file is used where the class brings
none along; alone it makes a record without members. -/
def recordOf (facts : List Fact) : Option ClassRecord :=
  let before := facts.takeWhile fun f => !f.isClassName
  let after := facts.dropWhile fun f => !f.isClassName
  let fileBase := facts.findSome? Fact.asBase
  let merged : Option ClassRecord :=
    match anonymousClass before, namedClass after with
    | none, none => fileBase.map fun _ => {}
    | some anonymous, none => some anonymous
    | none, some named => some named
    | some anonymous, some named => some (anonymous.merge named)
  merged.map fun c => { c with extendsClass := c.extendsClass <|> fileBase }

/-- What is reported while the facts are read: each inner class, and each `class_name` that differs
from the one kept. -/
def eventsOf (kept : Option String) : List Fact → List Event
  | [] => []
  | .innerClass name :: rest => .innerClass name :: eventsOf kept rest
  | .className name _ :: rest =>
      match kept with
      | none => eventsOf (some name) rest
      | some first =>
          if name = first then eventsOf kept rest
          else .classNameIgnored name first :: eventsOf kept rest
  | _ :: rest => eventsOf kept rest

namespace Node

/-- The facts of a whole tree. -/
def rootFacts (root : Node) : List Fact :=
  root.facts .classBody []

/-- The class record of the script with this syntax tree. -/
def classRecord (root : Node) : Option ClassRecord :=
  recordOf root.rootFacts

def extractionLog (root : Node) : List Event :=
  eventsOf none root.rootFacts

end Node

end ScriptTypings
