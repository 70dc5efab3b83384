/-! # Grammars

A grammar names constructs and says by rules what they consist of. A rule unfolds to productions,
sequences of steps without choices. Ranks settle which of two readings of a text is meant: of two
constructs that meet at a token, the one of higher rank gets it.

## Implementation notes

A run is one or more of its part. It is a construct of its own, which consists of two shorter runs
or of one part. -/

namespace ScriptTypings.Grammar

/-- How equal ranks group. -/
inductive Side where
  | left
  | right
  deriving DecidableEq, Repr, Inhabited

structure Rank where
  level : Int := 0
  side : Option Side := none
  deriving DecidableEq, Repr, Inhabited

inductive Symbol (α : Type) where
  | token (t : α)
  | construct (name : String)
  deriving DecidableEq, Repr

inductive Rule (α : Type) where
  | empty
  | symbol (s : Symbol α)
  | seq (parts : List (Rule α))
  | choice (options : List (Rule α))
  | field (name : String) (part : Rule α)
  /-- The part is shown as a token, whatever it is. -/
  | unnamed (part : Rule α)
  | ranked (rank : Rank) (part : Rule α)

namespace Rule

variable {α : Type}

def token (t : α) : Rule α := symbol (.token t)

def ref (name : String) : Rule α := symbol (.construct name)

def optional (part : Rule α) : Rule α := choice [part, empty]

end Rule

/-- One symbol of a production, with what its parent says about it. -/
structure Step (α : Type) where
  symbol : Symbol α
  rank : Rank
  field : Option String
  unnamed : Bool
  deriving DecidableEq, Repr

/-- What the rules around a symbol say about it. -/
structure Manner where
  rank : Rank := {}
  field : Option String := none
  unnamed : Bool := false
  deriving DecidableEq, Repr, Inhabited

variable {α : Type}

mutual

/-- The sequences that a rule allows. -/
def Rule.unfold (m : Manner) : Rule α → List (List (Step α))
  | .empty => [[]]
  | .symbol s => [[⟨s, m.rank, m.field, m.unnamed⟩]]
  | .seq parts => unfoldSeq m parts
  | .choice options => unfoldChoice m options
  | .field name part => part.unfold { m with field := some name }
  | .unnamed part => part.unfold { m with unnamed := true }
  | .ranked rank part => part.unfold { m with rank }

def unfoldSeq (m : Manner) : List (Rule α) → List (List (Step α))
  | [] => [[]]
  | part :: rest =>
      let later := unfoldSeq m rest
      (part.unfold m).flatMap fun first => later.map (first ++ ·)

def unfoldChoice (m : Manner) : List (Rule α) → List (List (Step α))
  | [] => []
  | option :: rest => option.unfold m ++ unfoldChoice m rest

end

structure Production (α : Type) where
  head : String
  steps : List (Step α)
  deriving DecidableEq, Repr

structure Definition (α : Type) where
  name : String
  /-- The construct is a run of what its rule says. -/
  isRun : Bool := false
  rule : Rule α

/-- The productions of a construct, each once. -/
def Definition.productions [DecidableEq α] (d : Definition α) : List (Production α) :=
  let self : Step α := ⟨.construct d.name, {}, none, false⟩
  let runs := if d.isRun then [[self, self]] else []
  (runs ++ d.rule.unfold {}).eraseDups.map fun steps => ⟨d.name, steps⟩

end Grammar

/-- The definitions of a grammar. The first one is that of the whole. -/
abbrev Grammar (α : Type) := List (Grammar.Definition α)

end ScriptTypings
