import ScriptTypings.Script.Grammar
import ScriptTypings.Script.Layout
import ScriptTypings.Script.Shape

/-! # Parsing a script

The parser keeps a stack of the parts it has read. The automaton of the grammar says which tokens it
expects, and for each of them whether the token is put on the stack or completes a construct first.
A keyword that is not expected is read as a word. A text that does not fit the grammar as a whole is
reported as such and has an empty tree. -/

namespace ScriptTypings.Script

open Grammar

/-- More states than the automaton of the grammar has. -/
def stateLimit : Nat := 20000

/-- The table of the grammar, worked out once when it is first needed. -/
def table : Thunk (Table Token) := Thunk.mk fun _ => Table.ofGrammar stateLimit grammar

/-- A part of the text that has been read. A hidden construct is the list of what it consists of,
last first. -/
structure Part where
  span : Span
  shapes : List Shape
  isComment : Bool := false
  deriving Repr, Inhabited

/-- A part on the stack and the state behind it. -/
structure Frame where
  state : Nat
  part : Part
  deriving Repr, Inhabited

structure Reading where
  stack : List Frame := []
  offset : Nat := 0
  rest : List Char
  layout : Layout := {}
  /-- The token ahead, if it has been read. -/
  ahead : Option Lexeme := none
  deriving Repr, Inhabited

def Reading.state (r : Reading) : Nat :=
  (r.stack.head?.map Frame.state).getD 0

/-- Constructs whose names start with an underscore are not shown. -/
def isHidden (construct : String) : Bool :=
  construct.toList.head? = some '_'

def Token.part (t : Token) (span : Span) : Part :=
  match t with
  | .literal _ => { span, shapes := [.mk .token none span []] }
  | t =>
      match t.grammarName? with
      | some name => { span, shapes := [.mk (.named name) none span []], isComment := t = .comment }
      | none => { span, shapes := [] }

/-- A part as one step of a production shows it, last first. -/
def Part.shown (p : Part) (s : Step Token) : List Shape :=
  let shapes :=
    if s.unnamed then
      match p.shapes with
      | [.mk _ field span children] => [.mk .token field span children]
      | _ => [.mk .token none p.span []]
    else p.shapes
  if s.field.isNone then shapes else shapes.map (Shape.inField s.field)

/-- Shapes behind others, last first. The first part of a construct is not copied. -/
def behind (shown shapes : List Shape) : List Shape :=
  if shown.isEmpty then shapes else shapes ++ shown

/-- The shapes of the parts of a construct with the comments between them, last first. `shown` holds
those of the parts before. -/
def shownParts (shown : List Shape) : List (Step Token) → List Part → List Shape
  | _, [] => shown
  | steps, part :: rest =>
      if part.isComment then shownParts (behind shown part.shapes) steps rest
      else
        match steps with
        | step :: steps => shownParts (behind shown (part.shown step)) steps rest
        | [] => shownParts (behind shown part.shapes) [] rest

/-- Takes so many parts off the stack, and the comments between them. -/
def takeParts (taken : List Part) : Nat → List Frame → List Part × List Frame
  | 0, stack => (taken, stack)
  | _, [] => (taken, [])
  | count + 1, frame :: stack =>
      if frame.part.isComment then takeParts (frame.part :: taken) (count + 1) stack
      else takeParts (frame.part :: taken) count stack

/-- The construct of a production from its parts. It starts and ends where they do. -/
def construct (p : Production Token) (offset : Nat) (parts : List Part) : Part :=
  let span : Span := ⟨((parts.head?).map fun q => q.span.start).getD offset,
    ((parts.getLast?).map fun q => q.span.stop).getD offset⟩
  let shapes := shownParts [] p.steps parts
  if isHidden p.head then { span, shapes }
  else { span, shapes := [.mk (.named p.head) none span shapes.reverse] }

/-- Puts a construct in place of its parts. Comments behind them stay behind it. -/
def Reading.reduce (t : Table Token) (r : Reading) (p : Production Token) : Option Reading := do
  let comments := r.stack.takeWhile fun f => f.part.isComment
  let inner := if p.steps = [] then r.stack else r.stack.drop comments.length
  let (parts, stack) := takeParts [] p.steps.length inner
  let below := (stack.head?.map Frame.state).getD 0
  let state ← t.goto? below p.head
  let kept := if p.steps = [] then [] else comments.map fun f => { f with state }
  return { r with stack := kept ++ ⟨state, construct p r.offset parts⟩ :: stack }

inductive Outcome where
  | next (r : Reading)
  | accepted (parts : List Part)
  | rejected
  deriving Inhabited

/-- Reads the token ahead. A comment goes on the stack at once. -/
def Reading.look (t : Table Token) (r : Reading) : Outcome :=
  let expected := t.expected r.state
  match r.layout.lexeme expected (t.action? r.state none).isSome r.offset r.rest with
  | none => .rejected
  | some lexeme =>
      if lexeme.token = some .comment then
        let frame : Frame := ⟨r.state, Token.comment.part ⟨lexeme.start, lexeme.stop⟩⟩
        .next { r with stack := frame :: r.stack, offset := lexeme.stop, rest := lexeme.rest }
      else .next { r with ahead := some lexeme }

/-- One step with the token ahead. -/
def Reading.act (t : Table Token) (r : Reading) (lexeme : Lexeme) : Outcome :=
  match t.action? r.state lexeme.token with
  | some (.shift state) =>
      let part := ((lexeme.token).map fun k => k.part ⟨lexeme.start, lexeme.stop⟩).getD default
      .next { stack := ⟨state, part⟩ :: r.stack, offset := lexeme.stop, rest := lexeme.rest,
              layout := lexeme.layout }
  | some (.reduce i) =>
      match (t.productions[i]?).bind (r.reduce t) with
      | some next => .next next
      | none => .rejected
  | some .accept => .accepted (r.stack.reverse.map Frame.part)
  | none =>
      if lexeme.token.any Token.isKeyword then
        .next { r with ahead := some { lexeme with token := some .word } }
      else .rejected

def Reading.step (t : Table Token) (r : Reading) : Outcome :=
  match r.ahead with
  | none => r.look t
  | some lexeme => r.act t lexeme

/-- Takes at most so many steps. -/
def Reading.run (t : Table Token) : (steps : Nat) → Reading → Option (List Part)
  | 0, _ => none
  | steps + 1, r =>
      match r.step t with
      | .next next => Reading.run t steps next
      | .accepted parts => some parts
      | .rejected => none

/-- More steps than a text of a length can take: a token completes few constructs, and a layout mark
stands for a line or a bracket. -/
def sufficientSteps (length : Nat) : Nat :=
  64 * (length + 16)

/-- A parsed script. -/
structure Parsed where
  root : Node
  hasErrors : Bool
  deriving Repr, Inhabited

/-- What a script consists of: the parts of the outermost construct, and comments around it. -/
def topShapes (parts : List Part) : List Shape :=
  parts.flatMap fun p =>
    match p.shapes with
    | [.mk label _ _ children] => if label = .named wholeName then children else p.shapes
    | shapes => shapes.reverse

/-- The tree of a text whose line breaks are normalized. -/
def parse (text : String) : Parsed :=
  let source := text.toList
  match Reading.run table.get (sufficientSteps source.length) { rest := source } with
  | some parts =>
      { root := .mk (.named wholeName) text none (shapesToNodes source.toArray (topShapes parts))
        hasErrors := false }
  | none => { root := .mk (.named wholeName) text none [], hasErrors := true }

end ScriptTypings.Script
