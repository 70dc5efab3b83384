import ScriptTypings.Grammar.Rule
import Std.Data.HashMap

/-! # Automata of grammars

A state of the automaton is a set of items: productions with a place in them and the tokens that
may follow. In a state each token has at most one action: to move it onto the stack, or to put a
construct in place of the parts that are complete. Where a token would allow both, the ranks decide,
and for equal ranks the side to which they group.

## Implementation notes

Symbols are numbered. A set of tokens is a number whose bit `i` stands for token `i`; token 0 is the
end of the text. -/

namespace ScriptTypings.Grammar

/-! ## Numbered grammars -/

inductive Code where
  | token (i : Nat)
  | construct (i : Nat)
  deriving DecidableEq, Repr, Inhabited

structure CodedProduction where
  head : Nat
  steps : Array Code
  ranks : Array Rank
  deriving Repr, Inhabited

/-- A set of tokens. -/
abbrev TokenSet := Nat

def TokenSet.has (s : TokenSet) (i : Nat) : Bool := s.testBit i

def TokenSet.one (i : Nat) : TokenSet := 1 <<< i

/-- The tokens in a set, of the first `count`. -/
def TokenSet.toList (s : TokenSet) (count : Nat) : List Nat :=
  (List.range count).filter s.has

/-- A construct that can stand at the start of another. -/
structure Opening where
  construct : Nat
  /-- What may follow it there. -/
  follows : TokenSet
  /-- What follows the whole may follow it too. -/
  inherits : Bool
  deriving DecidableEq, Repr, Inhabited

structure Coded where
  tokenCount : Nat
  heads : Array String
  isRun : Array Bool
  productions : Array CodedProduction
  /-- The productions of each construct. -/
  ofHead : Array (List Nat)
  /-- The tokens each construct can start with. -/
  firsts : Array TokenSet
  openings : Array (List Opening)
  deriving Inhabited

namespace Coded

def firstOf (firsts : Array TokenSet) : Code → TokenSet
  | .token i => TokenSet.one i
  | .construct i => firsts[i]?.getD 0

/-- The first tokens of all constructs, after some rounds of looking at the first steps. -/
def firstSets (productions : Array CodedProduction) (rounds : Nat) (firsts : Array TokenSet) :
    Array TokenSet :=
  match rounds with
  | 0 => firsts
  | rounds + 1 =>
      let next := productions.foldl (fun sets p =>
        match p.steps[0]? with
        | none => sets
        | some code => sets.modify p.head (· ||| firstOf sets code)) firsts
      if next = firsts then firsts else firstSets productions rounds next

/-- Adds an opening to those found. -/
def addOpening (o : Opening) : List Opening → List Opening
  | [] => [o]
  | other :: rest =>
      if other.construct = o.construct then
        ⟨o.construct, other.follows ||| o.follows, other.inherits || o.inherits⟩ :: rest
      else other :: addOpening o rest

/-- The openings that the productions of an opening add. -/
def furtherOpenings (productions : Array CodedProduction) (ofHead : Array (List Nat))
    (firsts : Array TokenSet) (o : Opening) : List Opening :=
  (ofHead[o.construct]?.getD []).filterMap fun i => do
    let p ← productions[i]?
    let .construct first ← p.steps[0]? | none
    match p.steps[1]? with
    | some second => return ⟨first, firstOf firsts second, false⟩
    | none => return ⟨first, o.follows, o.inherits⟩

def closeOpenings (productions : Array CodedProduction) (ofHead : Array (List Nat))
    (firsts : Array TokenSet) (rounds : Nat) (found : List Opening) : List Opening :=
  match rounds with
  | 0 => found
  | rounds + 1 =>
      let next := (found.flatMap (furtherOpenings productions ofHead firsts)).foldl
        (fun all o => addOpening o all) found
      if next = found then found
      else closeOpenings productions ofHead firsts rounds next

end Coded

variable {α : Type} [DecidableEq α]

/-- The productions of a grammar, in the order of its definitions. -/
def productionsOf (g : Grammar α) : List (Production α) :=
  g.flatMap Definition.productions

/-- The tokens of a grammar, each once. -/
def tokensOf (g : Grammar α) : List α :=
  ((productionsOf g).flatMap fun p => p.steps.filterMap fun s =>
    match s.symbol with
    | .token t => some t
    | .construct _ => none).eraseDups

def codeOf (tokens : List α) (heads : List String) : Symbol α → Code
  | .token t => .token (tokens.idxOf t + 1)
  | .construct name => .construct (heads.idxOf name)

def Coded.ofGrammar (g : Grammar α) : Coded :=
  let tokens := tokensOf g
  let heads := g.map Definition.name
  let productions := ((productionsOf g).map fun p =>
    { head := heads.idxOf p.head
      steps := (p.steps.map fun s => codeOf tokens heads s.symbol).toArray
      ranks := (p.steps.map Step.rank).toArray : CodedProduction }).toArray
  let numbered := productions.toList.zipIdx
  let ofHead := ((List.range heads.length).map fun h =>
    (numbered.filter fun (p, _) => p.head = h).map Prod.snd).toArray
  let firsts := firstSets productions heads.length (Array.replicate heads.length 0)
  let openings := ((List.range heads.length).map fun h =>
    closeOpenings productions ofHead firsts heads.length [⟨h, 0, true⟩]).toArray
  { tokenCount := tokens.length + 1
    heads := heads.toArray
    isRun := (g.map Definition.isRun).toArray
    productions, ofHead, firsts, openings }

/-! ## States -/

/-- A production with a place in it and what may follow the whole. -/
structure Item where
  production : Nat
  place : Nat
  follows : TokenSet
  deriving DecidableEq, Repr, Inhabited, Hashable

/-- The items that a state starts from, by production and place. -/
abbrev Kernel := List Item

inductive Action where
  | shift (state : Nat)
  | reduce (production : Nat)
  | accept
  deriving DecidableEq, Repr, Inhabited

namespace Coded

variable (c : Coded)

/-- The whole text is one more production, whose only step is the first construct. -/
def production (i : Nat) : CodedProduction :=
  (c.productions[i]?).getD ⟨0, #[.construct 0], #[{}]⟩

def wholeText : Item := ⟨c.productions.size, 0, TokenSet.one 0⟩

def nextOf (i : Item) : Option Code :=
  (c.production i.production).steps[i.place]?

/-- The rank of the step before the place of an item. -/
def rankOf (i : Item) : Rank :=
  if i.place = 0 then {} else ((c.production i.production).ranks[i.place - 1]?).getD {}

/-- What may follow each construct that can start in a state. -/
def opened (kernel : Kernel) : Array TokenSet :=
  kernel.foldl (fun sets item =>
    match c.nextOf item with
    | some (.construct k) =>
        let after :=
          match (c.production item.production).steps[item.place + 1]? with
          | some code => firstOf c.firsts code
          | none => item.follows
        (c.openings[k]?.getD []).foldl (fun sets o =>
          sets.modify o.construct
            (· ||| o.follows ||| (if o.inherits then after else 0))) sets
    | _ => sets) (Array.replicate c.heads.size 0)

/-- All items of a state: its kernel and the productions that can start. -/
def items (kernel : Kernel) : List Item :=
  let sets := c.opened kernel
  kernel ++ (List.range c.heads.size).flatMap fun h =>
    let follows := sets[h]?.getD 0
    if follows = 0 then [] else (c.ofHead[h]?.getD []).map fun p => ⟨p, 0, follows⟩

/-- What a complete item asks for. -/
def ending (item : Item) : Action :=
  if item.production = c.productions.size then .accept else .reduce item.production

/-- Sorts the items of a kernel; two of one production and place become one. -/
def toKernel (found : List Item) : Kernel :=
  let sorted := found.mergeSort fun a b =>
    decide (a.production < b.production ∨ (a.production = b.production ∧ a.place ≤ b.place))
  sorted.foldr (fun item rest =>
    match rest with
    | [] => [item]
    | other :: more =>
        if item.production = other.production ∧ item.place = other.place then
          { item with follows := item.follows ||| other.follows } :: more
        else item :: rest) []

/-- The kernels of the states that a state leads to, by token and by construct. -/
structure Successors where
  byToken : Array (List Item)
  byConstruct : Array (List Item)

def successors (all : List Item) : Successors :=
  all.foldl (fun s item =>
    let moved := { item with place := item.place + 1 }
    match c.nextOf item with
    | none => s
    | some (.token t) => { s with byToken := s.byToken.modify t (moved :: ·) }
    | some (.construct k) => { s with byConstruct := s.byConstruct.modify k (moved :: ·) })
    ⟨Array.replicate c.tokenCount [], Array.replicate c.heads.size []⟩

/-- Those of the highest rank. -/
def highest (complete : List Item) : List Item :=
  complete.filter fun i => complete.all fun j => (c.rankOf j).level ≤ (c.rankOf i).level

/-- Whether a token that could be shifted ends the complete items instead. The items that the token
would continue are compared with the highest of the complete ones. A run takes its parts one by
one. -/
def prefersReduction (kernel : Kernel) (token : Nat) (complete : List Item) : Bool :=
  let continued := kernel.filter fun i => 0 < i.place &&
    match c.nextOf i with
    | some code => (firstOf c.firsts code).has token
    | none => false
  let parents := (continued ++ complete).map fun i => (c.production i.production).head
  match c.highest complete with
  | [] => false
  | first :: others =>
      let head := (c.production first.production).head
      if parents.all (· = head) && c.isRun[head]?.getD false then true
      else
        let level := (c.rankOf first).level
        let higher := continued.any fun i => level < (c.rankOf i).level
        let lower := continued.any fun i => (c.rankOf i).level < level
        if higher || lower then lower
        else (first :: others).all fun i => (c.rankOf i).side = some .left

end Coded

/-- A state: what each token leads to, with `none` for the end of the text, and to which state a
construct leads. -/
structure State (α : Type) where
  actions : List (Option α × Action)
  gotos : List (String × Nat)
  deriving Repr, Inhabited

structure Table (α : Type) where
  productions : Array (Production α)
  states : Array (State α)
  deriving Inhabited

/-! ## Construction -/

/-- The states found so far, with the number of each kernel. -/
structure Atlas where
  kernels : Array Kernel
  numbers : Std.HashMap Kernel Nat

def Atlas.number (a : Atlas) (kernel : Kernel) : Nat × Atlas :=
  match a.numbers[kernel]? with
  | some n => (n, a)
  | none =>
      let n := a.kernels.size
      (n, ⟨a.kernels.push kernel, a.numbers.insert kernel n⟩)

/-- The state of a kernel, and the atlas with the states that it leads to. -/
def Coded.state (c : Coded) (tokens : Array α) (heads : Array String) (kernel : Kernel) (a : Atlas) :
    State α × Atlas :=
  let all := c.items kernel
  let next := c.successors all
  let name (i : Nat) : Option α := if i = 0 then none else tokens[i - 1]?
  let complete := all.filter fun i => (c.nextOf i).isNone
  let ended : TokenSet := complete.foldl (fun s i => s ||| i.follows) 0
  let (actions, a) := (List.range c.tokenCount).foldl (fun (actions, a) t =>
    let found := next.byToken[t]?.getD []
    let finished := if ended.has t then complete.filter fun i => i.follows.has t else []
    match found, c.highest finished with
    | [], [] => (actions, a)
    | [], item :: _ => ((name t, c.ending item) :: actions, a)
    | found, first =>
        match first.head?.filter fun _ => c.prefersReduction kernel t finished with
        | some item => ((name t, c.ending item) :: actions, a)
        | none =>
            let (n, a) := a.number (Coded.toKernel found)
            ((name t, .shift n) :: actions, a)) (([] : List (Option α × Action)), a)
  let (gotos, a) := (List.range c.heads.size).foldl (fun (gotos, a) k =>
    match next.byConstruct[k]?.getD [] with
    | [] => (gotos, a)
    | found =>
        let (n, a) := a.number (Coded.toKernel found)
        ((heads[k]?.getD "", n) :: gotos, a)) (([] : List (String × Nat)), a)
  (⟨actions, gotos⟩, a)

/-- Works through the kernels of an atlas, which grows on the way, for at most so many states. -/
def Coded.explore (c : Coded) (tokens : Array α) (heads : Array String) :
    (limit : Nat) → Array (State α) → Atlas → Array (State α)
  | 0, states, _ => states
  | limit + 1, states, a =>
      match a.kernels[states.size]? with
      | none => states
      | some kernel =>
          let (state, a) := c.state tokens heads kernel a
          Coded.explore c tokens heads limit (states.push state) a

/-- The table of a grammar whose automaton has at most so many states. -/
def Table.ofGrammar (limit : Nat) (g : Grammar α) : Table α :=
  let c := Coded.ofGrammar g
  let start : Kernel := [c.wholeText]
  { productions := (productionsOf g).toArray
    states := c.explore (tokensOf g).toArray (g.map Definition.name).toArray limit #[]
      ⟨#[start], Std.HashMap.ofList [(start, 0)]⟩ }

namespace Table

variable (t : Table α)

def action? (state : Nat) (token : Option α) : Option Action :=
  (t.states[state]?).bind fun s => s.actions.lookup token

def goto? (state : Nat) (construct : String) : Option Nat :=
  (t.states[state]?).bind fun s => s.gotos.lookup construct

/-- The tokens that have an action in a state, the end of the text apart. -/
def expected (state : Nat) : List α :=
  ((t.states[state]?).map fun s => s.actions.filterMap Prod.fst).getD []

end Table

end ScriptTypings.Grammar
