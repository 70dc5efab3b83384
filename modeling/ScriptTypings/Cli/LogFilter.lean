import ScriptTypings.Event
import ScriptTypings.Pattern.Size
import ScriptTypings.Text.Blank
import ScriptTypings.Text.Pieces

/-! # Log filters

A filter is a list of directives. A directive limits the level of the modules whose path starts
with its own, or of all modules if it names none; the longest matching one counts. A filter may also
have a pattern that messages have to match. The environment may add directives to the one that the
arguments give. -/

namespace ScriptTypings.Cli

structure Directive where
  modulePath : Option String
  /-- The greatest rank that passes; zero passes nothing. -/
  limit : Nat
  deriving DecidableEq, Repr, Inhabited

structure LogFilter where
  directives : List Directive
  pattern : Pattern := .empty
  deriving DecidableEq, Repr, Inhabited

/-- What is wrong with a filter text. -/
inductive Complaint where
  | item (text : String)
  | tooManyParts (text : String)
  | pattern (message : String)
  deriving DecidableEq, Repr, Inhabited

def Complaint.message : Complaint → String
  | .item text => s!"warning: invalid logging spec '{text}', ignoring it"
  | .tooManyParts text => s!"warning: invalid logging spec '{text}' (too many '/'s), ignoring it"
  | .pattern message => s!"warning: invalid regex filter - {message}, ignoring it"

/-- The limit that passes every level. -/
def everyLevel : Nat := Level.trace.rank

/-- The limit of a level by its name, in either case of the letters. -/
def limitOfName (name : String) : Option Nat :=
  match String.ofList (name.toList.map Char.toLower) with
  | "off" => some 0
  | "error" => some Level.error.rank
  | "warn" => some Level.warn.rank
  | "info" => some Level.info.rank
  | "debug" => some Level.debug.rank
  | "trace" => some Level.trace.rank
  | _ => none

/-- One item of a filter text: a level, a module path, or a module path and a level. An item that
is none of these is given back. -/
def directiveOf (item : String) : Except String Directive :=
  match Text.piecesOf '=' item with
  | [name] =>
      match limitOfName name with
      | some limit => .ok ⟨none, limit⟩
      | none => .ok ⟨some name, everyLevel⟩
  | [name, level] =>
      let level := Text.trim level
      if level = "" then .ok ⟨some name, everyLevel⟩
      else
        match limitOfName level with
        | some limit => .ok ⟨some name, limit⟩
        | none => .error level
  | _ => .error item

/-- Puts a directive in place of one for the same modules, or behind all others. -/
def addDirective (d : Directive) : List Directive → List Directive
  | [] => [d]
  | other :: rest =>
      if other.modulePath = d.modulePath then d :: rest else other :: addDirective d rest

namespace LogFilter

/-- Adds the directives of a text, divided by commas, and the complaints about it. -/
def addDirectives (filter : LogFilter) (text : String) : LogFilter × List Complaint :=
  let items := ((Text.piecesOf ',' text).map Text.trim).filter (· ≠ "")
  items.foldl (fun (filter, complaints) item =>
    match directiveOf item with
    | .ok d => ({ filter with directives := addDirective d filter.directives }, complaints)
    | .error fault => (filter, complaints ++ [.item fault])) (filter, [])

/-- Adds a filter text: directives and, behind a slash, a pattern. A text with more slashes is left
out as a whole. -/
def addText (filter : LogFilter) (text : String) : LogFilter × List Complaint :=
  match Text.piecesOf '/' text with
  | [] => (filter, [])
  | [items] => filter.addDirectives items
  | [items, written] =>
      let (filter, complaints) := filter.addDirectives items
      match Pattern.ofText written with
      | .ok pattern => ({ filter with pattern }, complaints)
      | .error message => (filter, complaints ++ [.pattern message])
  | _ => (filter, [.tooManyParts text])

def Directive.covers (d : Directive) (p : Part) : Bool :=
  (d.modulePath.getD "").toList.isPrefixOf p.modulePath.toList

/-- The limit for a part of the program: that of the longest directive that covers it. -/
def limitFor (filter : LogFilter) (p : Part) : Nat :=
  let covering := filter.directives.filter fun d => Directive.covers d p
  (covering.foldl (fun (best : Nat × Nat) d =>
    let length := (d.modulePath.getD "").length
    if best.1 ≤ length then (length, d.limit) else best) (0, 0)).2

/-- Whether an event is logged. `elapsed` is the time a run took, as it is shown at its end. -/
def passes (filter : LogFilter) (elapsed : String) (e : Event) : Bool :=
  e.level.rank ≤ filter.limitFor e.part && filter.pattern.isMatch (e.message elapsed)

end LogFilter

end ScriptTypings.Cli
