import ScriptTypings.Declaration.Printer
import ScriptTypings.Identifier
import ScriptTypings.Proofs.StringLiteral
import Mathlib.Data.List.TakeWhile

/-!
# The printed text determines the declarations

Declarations can be told apart by their text. Each part of the format is shown to be readable from
the front of a longer text: where two texts are equal and each starts with a printed part, the
parts are equal, and so is what stands behind them. A name is readable if no character of a name
follows, a type if what follows cannot continue it. Literals, and all parts that end in a fixed
text, are readable whatever follows.
-/

namespace ScriptTypings

namespace Identifier

/-- A text that is not empty and made of the characters of identifiers. -/
def IsWord (name : String) : Prop :=
  name ≠ "" ∧ ∀ c ∈ name.toList, isIdentifierChar c = true

instance (name : String) : Decidable (IsWord name) :=
  decidable_of_iff (name ≠ "" ∧ name.toList.all isIdentifierChar = true)
    (and_congr_right' List.all_eq_true)

/-- No character of a name comes first. -/
def endsWord : List Char → Bool
  | [] => true
  | c :: _ => !isIdentifierChar c

end Identifier

open Identifier

/-! ## Words -/

section Words

variable {P : Char → Bool} {word rest : List Char}

theorem takeWhile_append_eq (hword : ∀ c ∈ word, P c = true)
    (hrest : ∀ c ∈ rest.head?, P c = false) : (word ++ rest).takeWhile P = word := by
  rw [List.takeWhile_append_of_pos hword]
  cases rest with
  | nil => simp
  | cons c rest =>
      have hc : P c = false := hrest c rfl
      simp [hc]

theorem dropWhile_append_eq (hword : ∀ c ∈ word, P c = true)
    (hrest : ∀ c ∈ rest.head?, P c = false) : (word ++ rest).dropWhile P = rest := by
  rw [List.dropWhile_append_of_pos hword]
  cases rest with
  | nil => simp
  | cons c rest =>
      have hc : P c = false := hrest c rfl
      simp [hc]

end Words

theorem head_of_endsWord {r : List Char} (h : endsWord r = true) :
    ∀ c ∈ r.head?, isIdentifierChar c = false := by
  cases r with
  | nil => simp
  | cons c rest => simpa [endsWord] using h

/-- Equal texts that start with words start with the same one. -/
theorem word_append_inj {a b : String} {r s : List Char} (ha : IsWord a) (hb : IsWord b)
    (hr : endsWord r = true) (hs : endsWord s = true) (h : a.toList ++ r = b.toList ++ s) :
    a = b ∧ r = s := by
  have hword := congrArg (List.takeWhile isIdentifierChar) h
  have hrest := congrArg (List.dropWhile isIdentifierChar) h
  rw [takeWhile_append_eq ha.2 (head_of_endsWord hr),
    takeWhile_append_eq hb.2 (head_of_endsWord hs)] at hword
  rw [dropWhile_append_eq ha.2 (head_of_endsWord hr),
    dropWhile_append_eq hb.2 (head_of_endsWord hs)] at hrest
  exact ⟨String.toList_inj.mp hword, hrest⟩

/-! ## Types -/

namespace TypeRef

/-- The words that stand for built-in types. -/
def builtinWords : List String := ["number", "string", "boolean", "unknown", "void"]

/-- Engine names may have dots in them. -/
def isEngineChar (c : Char) : Bool :=
  isIdentifierChar c || c = '.'

/-- Every name in the type can be printed: it is a word, and no declared name hides a built-in
type. -/
def WellNamed : TypeRef → Prop
  | number | string | boolean | unknown | void => True
  | array element => element.WellNamed
  | engine name => name ≠ "" ∧ ∀ c ∈ name.toList, isEngineChar c = true
  | declared name => IsWord name ∧ name ∉ builtinWords
  | keyOf name => IsWord name
  | indexed object index => IsWord object ∧ IsWord index

def decideWellNamed : (t : TypeRef) → Decidable t.WellNamed
  | number | string | boolean | unknown | void => isTrue trivial
  | array element => decideWellNamed element
  | engine name =>
      decidable_of_iff (name ≠ "" ∧ name.toList.all isEngineChar = true)
        (and_congr_right' List.all_eq_true)
  | declared name => inferInstanceAs (Decidable (IsWord name ∧ _))
  | keyOf name => inferInstanceAs (Decidable (IsWord name))
  | indexed object index => inferInstanceAs (Decidable (IsWord object ∧ IsWord index))

instance : DecidablePred WellNamed := decideWellNamed

/-- The type that a lone word stands for. -/
def ofWord : String → TypeRef
  | "number" => number
  | "string" => string
  | "boolean" => boolean
  | "unknown" => unknown
  | "void" => void
  | word => declared word

/-- Reads a type that is no array, after its first word. A blank or a bracket belongs to the type
only if a word follows it. -/
def readAfter (word : String) : List Char → TypeRef × List Char
  | '.' :: rest =>
      (engine (String.ofList (rest.takeWhile isEngineChar)), rest.dropWhile isEngineChar)
  | ' ' :: c :: rest =>
      if isIdentifierChar c then
        (keyOf (String.ofList ((c :: rest).takeWhile isIdentifierChar)),
          (c :: rest).dropWhile isIdentifierChar)
      else (ofWord word, ' ' :: c :: rest)
  | '[' :: c :: rest =>
      if isIdentifierChar c then
        (indexed word (String.ofList ((c :: rest).takeWhile isIdentifierChar)),
          ((c :: rest).dropWhile isIdentifierChar).tail)
      else (ofWord word, '[' :: c :: rest)
  | rest => (ofWord word, rest)

/-- Reads the brackets that make a type an array. -/
def readArrays (t : TypeRef) : List Char → TypeRef × List Char
  | '[' :: ']' :: rest => readArrays (array t) rest
  | rest => (t, rest)

/-- Reads a type from the front of a text, with the rest of the text. -/
def read (text : List Char) : TypeRef × List Char :=
  let base := readAfter (String.ofList (text.takeWhile isIdentifierChar))
    (text.dropWhile isIdentifierChar)
  readArrays base.1 base.2

/-- Nothing that continues a type comes first. -/
def endsType : List Char → Bool
  | ')' :: _ | ',' :: _ | ';' :: _ | '>' :: _ | ' ' :: '\x7b' :: _ => true
  | _ => false

/-- Nothing but brackets for arrays continues a type. -/
def endsBase : List Char → Bool
  | '[' :: ']' :: _ => true
  | r => endsType r

/-- What can come first where a type ends. -/
theorem endsType_cases {r : List Char} (h : endsType r = true) :
    (∃ c rest, r = c :: rest ∧ c ∈ [')', ',', ';', '>']) ∨ ∃ rest, r = ' ' :: '\x7b' :: rest := by
  unfold endsType at h
  split at h
  · exact Or.inl ⟨_, _, rfl, by simp⟩
  · exact Or.inl ⟨_, _, rfl, by simp⟩
  · exact Or.inl ⟨_, _, rfl, by simp⟩
  · exact Or.inl ⟨_, _, rfl, by simp⟩
  · exact Or.inr ⟨_, rfl⟩
  · cases h

theorem endsBase_cases {r : List Char} (h : endsBase r = true) :
    (∃ c rest, r = c :: rest ∧ c ∈ [')', ',', ';', '>']) ∨ (∃ rest, r = ' ' :: '\x7b' :: rest) ∨
      ∃ rest, r = '[' :: ']' :: rest := by
  unfold endsBase at h
  split at h
  · exact Or.inr (Or.inr ⟨_, rfl⟩)
  · exact (endsType_cases h).imp_right Or.inl

theorem endsBase_of_endsType {r : List Char} (h : endsType r = true) : endsBase r = true := by
  unfold endsBase
  split
  · rfl
  · exact h

/-- Where a type without brackets ends, no name goes on, not even one with dots. -/
theorem head_of_endsBase {r : List Char} (h : endsBase r = true) :
    ∀ c ∈ r.head?, isEngineChar c = false := by
  rcases endsBase_cases h with ⟨c, rest, rfl, hc⟩ | ⟨rest, rfl⟩ | ⟨rest, rfl⟩
  · have hplain : ([')', ',', ';', '>'].all fun c => !isEngineChar c) = true := by decide
    simpa using List.all_eq_true.mp hplain c hc
  · have hblank : isEngineChar ' ' = false := by decide
    simpa using hblank
  · have hbracket : isEngineChar '[' = false := by decide
    simpa using hbracket

theorem endsWord_of_endsBase {r : List Char} (h : endsBase r = true) : endsWord r = true := by
  cases r with
  | nil => rfl
  | cons c rest =>
      have hc : isEngineChar c = false := head_of_endsBase h c rfl
      simp only [isEngineChar, Bool.or_eq_false_iff] at hc
      simp [endsWord, hc.1]

/-- What ends a type leaves its first word as it is. -/
theorem readAfter_of_endsBase (word : String) {r : List Char} (h : endsBase r = true) :
    readAfter word r = (ofWord word, r) := by
  rcases endsBase_cases h with ⟨c, rest, rfl, hc⟩ | ⟨rest, rfl⟩ | ⟨rest, rfl⟩
  · simp only [List.mem_cons, List.not_mem_nil, or_false] at hc
    rcases hc with rfl | rfl | rfl | rfl <;> rfl
  · rfl
  · rfl

theorem readArrays_of_endsType (t : TypeRef) {r : List Char} (h : endsType r = true) :
    readArrays t r = (t, r) := by
  rcases endsType_cases h with ⟨c, rest, rfl, hc⟩ | ⟨rest, rfl⟩
  · simp only [List.mem_cons, List.not_mem_nil, or_false] at hc
    rcases hc with rfl | rfl | rfl | rfl <;> rfl
  · rfl

/-- Reading starts with the first word. -/
theorem read_word_append {word : String} {r : List Char} (hword : IsWord word)
    (hr : endsWord r = true) :
    read (word.toList ++ r) =
      readArrays (readAfter word r).1 (readAfter word r).2 := by
  rw [read, takeWhile_append_eq hword.2 (head_of_endsWord hr),
    dropWhile_append_eq hword.2 (head_of_endsWord hr), String.ofList_toList]

theorem readAfter_dot {word name : String} {r : List Char}
    (hname : ∀ c ∈ name.toList, isEngineChar c = true) (hr : endsBase r = true) :
    readAfter word ('.' :: (name.toList ++ r)) = (engine name, r) := by
  rw [readAfter, takeWhile_append_eq hname (head_of_endsBase hr),
    dropWhile_append_eq hname (head_of_endsBase hr), String.ofList_toList]

theorem exists_cons_of_isWord {name : String} (h : IsWord name) :
    ∃ c rest, name.toList = c :: rest ∧ isIdentifierChar c = true := by
  cases hlist : name.toList with
  | nil => exact absurd (String.toList_inj.mp hlist) h.1
  | cons c rest => exact ⟨c, rest, rfl, h.2 c (by simp [hlist])⟩

theorem readAfter_blank {word name : String} {r : List Char} (hname : IsWord name)
    (hr : endsWord r = true) :
    readAfter word (' ' :: (name.toList ++ r)) = (keyOf name, r) := by
  have htake := takeWhile_append_eq hname.2 (head_of_endsWord hr)
  have hdrop := dropWhile_append_eq hname.2 (head_of_endsWord hr)
  obtain ⟨c, rest, hlist, hc⟩ := exists_cons_of_isWord hname
  rw [hlist, List.cons_append] at htake hdrop ⊢
  rw [readAfter, if_pos hc, htake, hdrop, ← hlist, String.ofList_toList]

theorem readAfter_bracket {word name : String} {r : List Char} (hname : IsWord name) :
    readAfter word ('[' :: (name.toList ++ ']' :: r)) = (indexed word name, r) := by
  have hr : endsWord (']' :: r) = true := rfl
  have htake := takeWhile_append_eq hname.2 (head_of_endsWord hr)
  have hdrop := dropWhile_append_eq hname.2 (head_of_endsWord hr)
  obtain ⟨c, rest, hlist, hc⟩ := exists_cons_of_isWord hname
  rw [hlist, List.cons_append] at htake hdrop ⊢
  rw [readAfter, if_pos hc, htake, hdrop, ← hlist, String.ofList_toList]
  rfl

theorem ofWord_of_not_builtin {word : String} (h : word ∉ builtinWords) :
    ofWord word = declared word := by
  simp only [builtinWords, List.mem_cons, List.not_mem_nil, or_false, not_or] at h
  obtain ⟨hnumber, hstring, hboolean, hunknown, hvoid⟩ := h
  rw [ofWord]
  · exact hnumber
  · exact hstring
  · exact hboolean
  · exact hunknown
  · exact hvoid

theorem read_builtin {word : String} {r : List Char} (hword : word ∈ builtinWords)
    (hr : endsBase r = true) : read (word.toList ++ r) = readArrays (ofWord word) r := by
  have hisWord : ∀ w ∈ builtinWords, IsWord w := by decide
  rw [read_word_append (hisWord word hword) (endsWord_of_endsBase hr),
    readAfter_of_endsBase word hr]

/-- Reading a printed type gives the type, with the brackets behind it taken in. -/
theorem read_print_append {t : TypeRef} (ht : t.WellNamed) {r : List Char}
    (hr : endsBase r = true) : read (t.print.toList ++ r) = readArrays t r := by
  induction t generalizing r with
  | number | string | boolean | unknown | void => exact read_builtin (by decide) hr
  | array element ih =>
      rw [print, String.toList_append, List.append_assoc]
      exact ih ht rfl
  | engine name =>
      have hword : IsWord engineNamespace := by decide
      have hprint : (engine name).print.toList ++ r =
          engineNamespace.toList ++ '.' :: (name.toList ++ r) := by
        simp [print]
      rw [hprint, read_word_append hword rfl, readAfter_dot ht.2 hr]
  | declared name =>
      rw [print, read_word_append ht.1 (endsWord_of_endsBase hr), readAfter_of_endsBase name hr,
        ofWord_of_not_builtin ht.2]
  | keyOf name =>
      have hword : IsWord "keyof" := by decide
      have hprint : (keyOf name).print.toList ++ r =
          "keyof".toList ++ ' ' :: (name.toList ++ r) := by
        simp [print]
      rw [hprint, read_word_append hword rfl, readAfter_blank ht (endsWord_of_endsBase hr)]
  | indexed object index =>
      have hprint : (indexed object index).print.toList ++ r =
          object.toList ++ '[' :: (index.toList ++ ']' :: r) := by
        simp [print]
      rw [hprint, read_word_append ht.1 rfl, readAfter_bracket ht.2]

/-- Equal texts that start with types start with the same one. -/
theorem print_append_inj {t u : TypeRef} {r s : List Char} (ht : t.WellNamed) (hu : u.WellNamed)
    (hr : endsType r = true) (hs : endsType s = true)
    (h : t.print.toList ++ r = u.print.toList ++ s) : t = u ∧ r = s := by
  have hread := congrArg read h
  rw [read_print_append ht (endsBase_of_endsType hr), readArrays_of_endsType t hr,
    read_print_append hu (endsBase_of_endsType hs), readArrays_of_endsType u hs] at hread
  exact Prod.ext_iff.mp hread

end TypeRef

open TypeRef (endsType)

/-! ## Parts in a row -/

section Rows

variable {α : Type} {ok : α → Prop} {print : α → List Char}

/-- Parts that are readable one by one are readable in a row, if each starts with a character that
cannot come first behind the row. -/
theorem flatMap_append_inj (first : Char → Prop) (ends : List Char → Prop)
    (one : ∀ a b r s, ok a → ok b → ends r → ends s → print a ++ r = print b ++ s → a = b ∧ r = s)
    (starts : ∀ a, ok a → ∃ c rest, print a = c :: rest ∧ first c)
    (ends_first : ∀ c rest, first c → ends (c :: rest))
    {as bs : List α} {r s : List Char} (has : ∀ a ∈ as, ok a) (hbs : ∀ b ∈ bs, ok b)
    (hr : ends r ∧ ∀ c ∈ r.head?, ¬ first c) (hs : ends s ∧ ∀ c ∈ s.head?, ¬ first c)
    (h : as.flatMap print ++ r = bs.flatMap print ++ s) : as = bs ∧ r = s := by
  have behind {l : List α} {t : List Char} (hl : ∀ a ∈ l, ok a) (ht : ends t) :
      ends (l.flatMap print ++ t) := by
    cases l with
    | nil => simpa using ht
    | cons a l =>
        obtain ⟨c, rest, hprint, hc⟩ := starts a (hl a (by simp))
        simpa [hprint] using ends_first c _ hc
  have differs {a : α} {t u : List Char} (ha : ok a) (hu : ∀ c ∈ u.head?, ¬ first c) :
      print a ++ t ≠ u := by
    obtain ⟨c, rest, hprint, hc⟩ := starts a ha
    rintro rfl
    exact hu c (by simp [hprint]) hc
  induction as generalizing bs with
  | nil =>
      cases bs with
      | nil => exact ⟨rfl, by simpa using h⟩
      | cons b bs =>
          rw [List.flatMap_cons, List.append_assoc] at h
          exact absurd h.symm (differs (hbs b (by simp)) hr.2)
  | cons a as ih =>
      rw [List.flatMap_cons, List.append_assoc] at h
      cases bs with
      | nil => exact absurd h (differs (has a (by simp)) hs.2)
      | cons b bs =>
          rw [List.flatMap_cons, List.append_assoc] at h
          have htailA : ∀ x ∈ as, ok x := fun x hx => has x (by simp [hx])
          have htailB : ∀ x ∈ bs, ok x := fun x hx => hbs x (by simp [hx])
          obtain ⟨rfl, htail⟩ := one a b _ _ (has a (by simp)) (hbs b (by simp))
            (behind htailA hr.1) (behind htailB hs.1) h
          obtain ⟨rfl, hrest⟩ := ih htailA htailB htail
          exact ⟨rfl, hrest⟩

end Rows

/-! ## Declarations -/

def Parameter.WellNamed (p : Parameter) : Prop :=
  IsWord p.name ∧ p.type.WellNamed

instance : DecidablePred Parameter.WellNamed :=
  fun p => inferInstanceAs (Decidable (IsWord p.name ∧ p.type.WellNamed))

/-- The name of the method is free. -/
def CallSignature.WellNamed (s : CallSignature) : Prop :=
  (∀ p ∈ s.parameters, p.WellNamed) ∧ s.returns.WellNamed

instance : DecidablePred CallSignature.WellNamed :=
  fun s => inferInstanceAs (Decidable ((∀ p ∈ s.parameters, p.WellNamed) ∧ s.returns.WellNamed))

def Interface.WellNamed (i : Interface) : Prop :=
  IsWord i.name ∧ (∀ t ∈ i.base, t.WellNamed) ∧ ∀ s ∈ i.members, s.WellNamed

instance : DecidablePred Interface.WellNamed :=
  fun i => inferInstanceAs (Decidable (IsWord i.name ∧ (∀ t ∈ i.base, t.WellNamed) ∧
    ∀ s ∈ i.members, s.WellNamed))

/-- The keys are free. -/
def Lookup.WellNamed (l : Lookup) : Prop :=
  IsWord l.name ∧ ∀ e ∈ l.entries, e.type.WellNamed

instance : DecidablePred Lookup.WellNamed :=
  fun l => inferInstanceAs (Decidable (IsWord l.name ∧ ∀ e ∈ l.entries, e.type.WellNamed))

def Accessor.WellNamed (a : Accessor) : Prop :=
  IsWord a.name ∧ IsWord a.typeParameter ∧ a.bound.WellNamed ∧ a.parameter.WellNamed ∧
    a.returns.WellNamed

instance : DecidablePred Accessor.WellNamed :=
  fun a => inferInstanceAs (Decidable (IsWord a.name ∧ IsWord a.typeParameter ∧
    a.bound.WellNamed ∧ a.parameter.WellNamed ∧ a.returns.WellNamed))

def Declaration.WellNamed : Declaration → Prop
  | interface i => i.WellNamed
  | lookup l => l.WellNamed
  | accessor a => a.WellNamed

instance : DecidablePred Declaration.WellNamed
  | .interface i => inferInstanceAs (Decidable i.WellNamed)
  | .lookup l => inferInstanceAs (Decidable l.WellNamed)
  | .accessor a => inferInstanceAs (Decidable a.WellNamed)

theorem Parameter.print_append_inj {p q : Parameter} {r s : List Char} (hp : p.WellNamed)
    (hq : q.WellNamed) (hr : endsType r = true) (hs : endsType s = true)
    (h : p.print.toList ++ r = q.print.toList ++ s) : p = q ∧ r = s := by
  obtain ⟨name, type⟩ := p
  obtain ⟨name', type'⟩ := q
  simp only [print, String.toList_append, List.append_assoc] at h
  obtain ⟨hname, htail⟩ := word_append_inj hp.1 hq.1 rfl rfl h
  obtain ⟨htype, hrest⟩ :=
    TypeRef.print_append_inj hp.2 hq.2 hr hs (List.append_cancel_left htail)
  exact ⟨by rw [Parameter.mk.injEq]; exact ⟨hname, htype⟩, hrest⟩

/-- The parameters behind the name of a method, up to the closing parenthesis. -/
theorem parameters_append_inj {ps qs : List Parameter} {r s : List Char}
    (hps : ∀ p ∈ ps, p.WellNamed) (hqs : ∀ q ∈ qs, q.WellNamed)
    (h : ps.flatMap (fun p => ", ".toList ++ p.print.toList) ++ ("): ".toList ++ r) =
      qs.flatMap (fun p => ", ".toList ++ p.print.toList) ++ ("): ".toList ++ s)) :
    ps = qs ∧ r = s := by
  have one (p q : Parameter) (r s : List Char) (hp : p.WellNamed) (hq : q.WellNamed)
      (hr : endsType r = true) (hs : endsType s = true)
      (h : ", ".toList ++ p.print.toList ++ r = ", ".toList ++ q.print.toList ++ s) :
      p = q ∧ r = s := by
    rw [List.append_assoc, List.append_assoc] at h
    exact Parameter.print_append_inj hp hq hr hs (List.append_cancel_left h)
  obtain ⟨hparameters, hrest⟩ := flatMap_append_inj (· = ',') (endsType · = true) one
    (fun p _ => ⟨',', ' ' :: p.print.toList, rfl, rfl⟩) (by rintro c rest rfl; rfl)
    hps hqs ⟨rfl, by simp⟩ ⟨rfl, by simp⟩ h
  exact ⟨hparameters, List.append_cancel_left hrest⟩

theorem CallSignature.print_append_inj {m n : CallSignature} {r s : List Char} (hm : m.WellNamed)
    (hn : n.WellNamed) (h : m.print.toList ++ r = n.print.toList ++ s) : m = n ∧ r = s := by
  obtain ⟨method, parameters, returns⟩ := m
  obtain ⟨method', parameters', returns'⟩ := n
  unfold print at h
  simp only [String.toList_append, String.toList_join, List.flatMap_map, List.append_assoc] at h
  obtain ⟨hmethod, htail⟩ := Literal.encode_append_inj (List.append_cancel_left h)
  obtain ⟨hparameters, htail⟩ := parameters_append_inj hm.1 hn.1 htail
  obtain ⟨hreturns, hrest⟩ := TypeRef.print_append_inj hm.2 hn.2 rfl rfl htail
  exact ⟨by rw [CallSignature.mk.injEq]; exact ⟨hmethod, hparameters, hreturns⟩,
    List.append_cancel_left hrest⟩

theorem CallSignature.print_indented (m : CallSignature) :
    ∃ rest, m.print.toList = ' ' :: rest := by
  unfold print
  simp only [String.toList_append, List.append_assoc]
  exact ⟨_, rfl⟩

theorem LookupEntry.print_append_inj {d e : LookupEntry} {r s : List Char} (hd : d.type.WellNamed)
    (he : e.type.WellNamed) (h : d.print.toList ++ r = e.print.toList ++ s) : d = e ∧ r = s := by
  obtain ⟨key, type⟩ := d
  obtain ⟨key', type'⟩ := e
  simp only [print, String.toList_append, List.append_assoc] at h
  obtain ⟨hkey, htail⟩ := Literal.encode_append_inj (List.append_cancel_left h)
  obtain ⟨htype, hrest⟩ := TypeRef.print_append_inj hd he rfl rfl (List.append_cancel_left htail)
  exact ⟨by rw [LookupEntry.mk.injEq]; exact ⟨hkey, htype⟩, List.append_cancel_left hrest⟩

theorem LookupEntry.print_indented (e : LookupEntry) :
    ∃ rest, e.print.toList = ' ' :: rest := by
  unfold print
  simp only [String.toList_append, List.append_assoc]
  exact ⟨_, rfl⟩

/-- Members and look-up entries stand on lines of their own, which start with a blank; the bracket
that closes them does not. -/
theorem lines_append_inj {α : Type} {ok : α → Prop} {print : α → String}
    (one : ∀ a b r s, ok a → ok b → (print a).toList ++ r = (print b).toList ++ s → a = b ∧ r = s)
    (indented : ∀ a, ∃ rest, (print a).toList = ' ' :: rest) {as bs : List α} {r s : List Char}
    (has : ∀ a ∈ as, ok a) (hbs : ∀ b ∈ bs, ok b)
    (h : (String.join (as.map print)).toList ++ '\x7d' :: r =
      (String.join (bs.map print)).toList ++ '\x7d' :: s) : as = bs ∧ r = s := by
  rw [String.toList_join, String.toList_join, List.flatMap_map, List.flatMap_map] at h
  have starts (a : α) (_ : ok a) : ∃ c rest, (print a).toList = c :: rest ∧ c = ' ' := by
    obtain ⟨rest, hrest⟩ := indented a
    exact ⟨' ', rest, hrest, rfl⟩
  obtain ⟨hlines, hrest⟩ := flatMap_append_inj (· = ' ') (fun _ => True)
    (fun a b r s ha hb _ _ => one a b r s ha hb) starts (fun _ _ _ => trivial)
    has hbs ⟨trivial, by simp⟩ ⟨trivial, by simp⟩ h
  exact ⟨hlines, (List.cons.inj hrest).2⟩

theorem Interface.print_append_inj {i j : Interface} {r s : List Char} (hi : i.WellNamed)
    (hj : j.WellNamed) (h : i.print.toList ++ r = j.print.toList ++ s) : i = j ∧ r = s := by
  obtain ⟨name, base, members⟩ := i
  obtain ⟨name', base', members'⟩ := j
  have body (h : " \x7b\n".toList ++ ((String.join (members.map CallSignature.print)).toList ++
        ("\x7d\n".toList ++ r)) =
      " \x7b\n".toList ++ ((String.join (members'.map CallSignature.print)).toList ++
        ("\x7d\n".toList ++ s))) : members = members' ∧ r = s := by
    obtain ⟨hmembers, hrest⟩ := lines_append_inj
      (fun _ _ _ _ hm hn h => CallSignature.print_append_inj hm hn h)
      CallSignature.print_indented hi.2.2 hj.2.2 (List.append_cancel_left h)
    exact ⟨hmembers, (List.cons.inj hrest).2⟩
  unfold print at h
  simp only [String.toList_append, List.append_assoc] at h
  have hname := List.append_cancel_left h
  cases base with
  | none =>
      cases base' with
      | none =>
          obtain ⟨rfl, htail⟩ := word_append_inj hi.1 hj.1 rfl rfl hname
          obtain ⟨rfl, hrest⟩ := body htail
          exact ⟨rfl, hrest⟩
      | some type' =>
          -- Behind the name stands the bracket in the one text, ` extends ` in the other.
          simp only [String.toList_append, List.append_assoc] at hname
          obtain ⟨-, htail⟩ := word_append_inj hi.1 hj.1 rfl rfl hname
          simp at htail
  | some type =>
      simp only [String.toList_append, List.append_assoc] at hname
      cases base' with
      | none =>
          obtain ⟨-, htail⟩ := word_append_inj hi.1 hj.1 rfl rfl hname
          simp at htail
      | some type' =>
          simp only [String.toList_append, List.append_assoc] at hname
          obtain ⟨rfl, htail⟩ := word_append_inj hi.1 hj.1 rfl rfl hname
          obtain ⟨rfl, hbody⟩ := TypeRef.print_append_inj (hi.2.1 _ rfl) (hj.2.1 _ rfl) rfl rfl
            (List.append_cancel_left htail)
          obtain ⟨rfl, hrest⟩ := body hbody
          exact ⟨rfl, hrest⟩

theorem Lookup.print_append_inj {l k : Lookup} {r s : List Char} (hl : l.WellNamed)
    (hk : k.WellNamed) (h : l.print.toList ++ r = k.print.toList ++ s) : l = k ∧ r = s := by
  obtain ⟨name, entries⟩ := l
  obtain ⟨name', entries'⟩ := k
  unfold print at h
  simp only [String.toList_append, List.append_assoc] at h
  obtain ⟨hname, htail⟩ := word_append_inj hl.1 hk.1 rfl rfl (List.append_cancel_left h)
  obtain ⟨hentries, hrest⟩ := lines_append_inj
    (fun _ _ _ _ hd he h => LookupEntry.print_append_inj hd he h)
    LookupEntry.print_indented hl.2 hk.2 (List.append_cancel_left htail)
  exact ⟨by rw [Lookup.mk.injEq]; exact ⟨hname, hentries⟩,
    List.append_cancel_left hrest⟩

/-- The parameter and the result are printed twice; the first time tells them. -/
theorem Accessor.print_append_inj {a b : Accessor} {r s : List Char} (ha : a.WellNamed)
    (hb : b.WellNamed) (h : a.print.toList ++ r = b.print.toList ++ s) : a = b ∧ r = s := by
  obtain ⟨name, typeParameter, bound, parameter, returns⟩ := a
  obtain ⟨name', typeParameter', bound', parameter', returns'⟩ := b
  obtain ⟨hname, htypeParameter, hbound, hparameter, hreturns⟩ := ha
  obtain ⟨hname', htypeParameter', hbound', hparameter', hreturns'⟩ := hb
  have heq : Accessor.mk name typeParameter bound parameter returns =
      Accessor.mk name' typeParameter' bound' parameter' returns' := by
    unfold print at h
    simp only [String.toList_append, List.append_assoc] at h
    obtain ⟨eqName, afterName⟩ := word_append_inj hname hname' rfl rfl (List.append_cancel_left h)
    obtain ⟨eqTypeParameter, afterTypeParameter⟩ := word_append_inj htypeParameter htypeParameter'
      rfl rfl (List.append_cancel_left afterName)
    obtain ⟨eqBound, afterBound⟩ := TypeRef.print_append_inj hbound hbound' rfl rfl
      (List.append_cancel_left afterTypeParameter)
    obtain ⟨eqParameter, afterParameter⟩ := Parameter.print_append_inj hparameter hparameter'
      rfl rfl (List.append_cancel_left afterBound)
    obtain ⟨eqReturns, -⟩ := TypeRef.print_append_inj hreturns hreturns' rfl rfl
      (List.append_cancel_left afterParameter)
    rw [Accessor.mk.injEq]
    exact ⟨eqName, eqTypeParameter, eqBound, eqParameter, eqReturns⟩
  rw [heq] at h
  exact ⟨heq, List.append_cancel_left h⟩

namespace Declaration

/-- The character that tells the three forms of declarations apart. -/
def initial : Declaration → Char
  | interface _ => 'i'
  | lookup _ => 't'
  | accessor _ => 'e'

theorem print_starts (d : Declaration) : ∃ rest, d.print.toList = d.initial :: rest := by
  cases d with
  | interface i =>
      unfold print Interface.print
      simp only [String.toList_append, List.append_assoc]
      exact ⟨_, rfl⟩
  | lookup l =>
      unfold print Lookup.print
      simp only [String.toList_append, List.append_assoc]
      exact ⟨_, rfl⟩
  | accessor a =>
      unfold print Accessor.print
      simp only [String.toList_append, List.append_assoc]
      exact ⟨_, rfl⟩

/-- Equal texts that start with declarations start with the same one. -/
theorem print_append_inj {d e : Declaration} {r s : List Char} (hd : d.WellNamed)
    (he : e.WellNamed) (h : d.print.toList ++ r = e.print.toList ++ s) : d = e ∧ r = s := by
  have hinitial : d.initial = e.initial := by
    obtain ⟨restD, hrestD⟩ := d.print_starts
    obtain ⟨restE, hrestE⟩ := e.print_starts
    rw [hrestD, hrestE, List.cons_append, List.cons_append] at h
    exact (List.cons.inj h).1
  cases d with
  | interface i =>
      cases e with
      | interface j => exact (Interface.print_append_inj hd he h).imp_left (congrArg interface)
      | lookup _ => exact absurd hinitial (by simp [initial])
      | accessor _ => exact absurd hinitial (by simp [initial])
  | lookup l =>
      cases e with
      | lookup k => exact (Lookup.print_append_inj hd he h).imp_left (congrArg lookup)
      | interface _ => exact absurd hinitial (by simp [initial])
      | accessor _ => exact absurd hinitial (by simp [initial])
  | accessor a =>
      cases e with
      | accessor b => exact (Accessor.print_append_inj hd he h).imp_left (congrArg accessor)
      | interface _ => exact absurd hinitial (by simp [initial])
      | lookup _ => exact absurd hinitial (by simp [initial])

end Declaration

theorem printDeclarations_inj {ds es : List Declaration} (hds : ∀ d ∈ ds, d.WellNamed)
    (hes : ∀ e ∈ es, e.WellNamed) (h : printDeclarations ds = printDeclarations es) : ds = es := by
  have hrow : ds.flatMap (fun d => d.print.toList) ++ [] =
      es.flatMap (fun e => e.print.toList) ++ [] := by
    simpa only [printDeclarations, String.toList_join, List.flatMap_map, List.append_nil] using
      congrArg String.toList h
  have starts (d : Declaration) (_ : d.WellNamed) :
      ∃ c rest, d.print.toList = c :: rest ∧ True := by
    obtain ⟨rest, hrest⟩ := d.print_starts
    exact ⟨d.initial, rest, hrest, trivial⟩
  exact (flatMap_append_inj (fun _ => True) (fun _ => True)
    (fun _ _ _ _ hd he _ _ h => Declaration.print_append_inj hd he h) starts
    (fun _ _ _ => trivial) hds hes ⟨trivial, by simp⟩ ⟨trivial, by simp⟩ hrow).1

/-- The printed text determines the declarations: lists of declarations whose names are words and
whose method names and keys are any texts are equal as soon as they print alike, alone or as a
whole file. -/
theorem printed_text_determines_declarations {ds es : List Declaration}
    (hds : ∀ d ∈ ds, d.WellNamed) (hes : ∀ e ∈ es, e.WellNamed) :
    (printDeclarations ds = printDeclarations es ↔ ds = es) ∧
      (printFile ds = printFile es ↔ ds = es) := by
  refine ⟨⟨printDeclarations_inj hds hes, congrArg _⟩, ?_, congrArg _⟩
  intro h
  apply printDeclarations_inj hds hes
  exact (String.append_right_inj (fileHeader ++ "\n" ++ importLine)).mp h

/-- An interface with the given methods, which return an array of arrays of an engine class. -/
def matrixInterface (methods : List String) : Declaration :=
  .interface
    { name := "Matrix", base := some (.engine "Node.Inner"),
      members := methods.map fun m =>
        ⟨m, [⟨"at", .indexed "keyof" "T"⟩], .array (.array (.engine "A"))⟩ }

/-- A method whose name imitates the end of its signature and the start of another is told apart
from two methods. -/
theorem texts_of_imitated_signature :
    let imitation := [matrixInterface ["a\", at: keyof[T]): G.A[][];\n    call(fn: \"b"]]
    let honest := [matrixInterface ["a", "b"]]
    (∀ d ∈ imitation, d.WellNamed) ∧ (∀ d ∈ honest, d.WellNamed) ∧
    printDeclarations imitation ≠ printDeclarations honest ∧
    printFile imitation ≠ printFile honest := by
  intro imitation honest
  have himitation : ∀ d ∈ imitation, d.WellNamed := by decide
  have hhonest : ∀ d ∈ honest, d.WellNamed := by decide
  have hne : imitation ≠ honest := by decide
  obtain ⟨htext, hfile⟩ := printed_text_determines_declarations himitation hhonest
  exact ⟨himitation, hhonest, htext.not.mpr hne, hfile.not.mpr hne⟩

end ScriptTypings
