import ScriptTypings.File.Tree
import Mathlib.Data.List.Basic
import Mathlib.Data.List.Nodup

/-!
# What a file tree holds

A file tree is a list of named entries, and some entries are directories with entries of their own.
`Holds` says what stands under a path of names, one step down at a time. Names are told apart only
within one directory; where they differ there, a path leads to one thing. `Relisted` connects two
trees that show the same directories in different listing orders.
-/

namespace ScriptTypings.File

/-- What holds of a directory whenever it holds of all directories right below it holds of every
directory. -/
theorem directory_induction {P : List (String × Tree) → Prop}
    (step : ∀ entries, (∀ name inner, (name, Tree.directory inner) ∈ entries → P inner) →
      P entries)
    (entries : List (String × Tree)) : P entries := by
  apply step
  intro name inner hmem
  have hlt : sizeOf inner < sizeOf entries := by
    have := List.sizeOf_lt_of_mem hmem
    simp only [Prod.mk.sizeOf_spec, Tree.directory.sizeOf_spec] at this
    omega
  exact directory_induction step inner
termination_by sizeOf entries

/-- Some entries hold a tree under a path: right there, or inside one of their directories. -/
inductive Holds : List (String × Tree) → List String → Tree → Prop
  | entry {entries : List (String × Tree)} {name : String} {t : Tree}
      (mem : (name, t) ∈ entries) : Holds entries [name] t
  | inside {entries inner : List (String × Tree)} {name : String} {path : List String} {t : Tree}
      (mem : (name, .directory inner) ∈ entries) (rest : Holds inner path t) :
      Holds entries (name :: path) t

section Paths

variable {entries inner : List (String × Tree)} {name : String} {dirs path : List String}
  {t u : Tree}

theorem Holds.path_ne_nil (h : Holds entries path t) : path ≠ [] := by
  rintro rfl
  cases h

theorem holds_singleton : Holds entries [name] t ↔ (name, t) ∈ entries := by
  constructor
  · intro h
    cases h with
    | entry mem => exact mem
    | inside _ rest => exact absurd rfl rest.path_ne_nil
  · exact Holds.entry

theorem holds_cons (hpath : path ≠ []) :
    Holds entries (name :: path) t ↔
      ∃ inner, (name, .directory inner) ∈ entries ∧ Holds inner path t := by
  constructor
  · intro h
    cases h with
    | entry => exact absurd rfl hpath
    | inside mem rest => exact ⟨_, mem, rest⟩
  · rintro ⟨inner, mem, rest⟩
    exact .inside mem rest

/-- What a directory holds is held above it, under the longer path. -/
theorem Holds.append (hinner : Holds entries dirs (.directory inner)) (ht : Holds inner path t) :
    Holds entries (dirs ++ path) t := by
  generalize hu : Tree.directory inner = u at hinner
  induction hinner with
  | entry mem =>
      subst hu
      exact .inside mem ht
  | inside mem _ ih => exact .inside mem (ih hu)

end Paths

/-- A property of the entries of every directory, from the top down. -/
inductive Everywhere (P : List (String × Tree) → Prop) : List (String × Tree) → Prop
  | intro {entries : List (String × Tree)} (here : P entries)
      (inside : ∀ name inner, (name, .directory inner) ∈ entries → Everywhere P inner) :
      Everywhere P entries

namespace Everywhere

variable {P : List (String × Tree) → Prop} {entries : List (String × Tree)}

theorem here (h : Everywhere P entries) : P entries := by
  cases h with
  | intro here _ => exact here

theorem inside (h : Everywhere P entries) {name : String} {inner : List (String × Tree)}
    (mem : (name, .directory inner) ∈ entries) : Everywhere P inner := by
  cases h with
  | intro _ inside => exact inside name inner mem

end Everywhere

/-- No directory lists a name twice. -/
def NamesDistinct : List (String × Tree) → Prop :=
  Everywhere fun entries => (entries.map Prod.fst).Nodup

section Distinct

variable {entries inner : List (String × Tree)} {name : String} {dirs path : List String}
  {t u : Tree}

/-- Entries of one name in one directory are the same. -/
theorem NamesDistinct.entry_unique (h : NamesDistinct entries) (ht : (name, t) ∈ entries)
    (hu : (name, u) ∈ entries) : t = u :=
  congrArg Prod.snd (List.inj_on_of_nodup_map h.here ht hu rfl)

/-- A path whose first step is a directory goes on inside that directory. -/
theorem NamesDistinct.holds_inside (h : NamesDistinct entries)
    (mem : (name, .directory inner) ∈ entries) (hpath : path ≠ [])
    (ht : Holds entries (name :: path) t) : Holds inner path t := by
  obtain ⟨inner', mem', ht⟩ := (holds_cons hpath).mp ht
  obtain rfl := Tree.directory.inj (h.entry_unique mem mem')
  exact ht

/-- Where no directory lists a name twice, a path leads to one thing. -/
theorem Holds.unique (ht : Holds entries path t) (h : NamesDistinct entries)
    (hu : Holds entries path u) : t = u := by
  induction ht with
  | entry mem => exact h.entry_unique mem (holds_singleton.mp hu)
  | inside mem rest ih =>
      exact ih (h.inside mem) (h.holds_inside mem rest.path_ne_nil hu)

/-- What stands under a path that goes on below a directory is held by that directory. -/
theorem Holds.of_append (hinner : Holds entries dirs (.directory inner)) (h : NamesDistinct entries)
    (hpath : path ≠ []) (ht : Holds entries (dirs ++ path) t) : Holds inner path t := by
  generalize hu : Tree.directory inner = u at hinner
  induction hinner with
  | entry mem =>
      subst hu
      exact h.holds_inside mem hpath ht
  | inside mem rest ih =>
      exact ih (h.inside mem) (h.holds_inside mem (by simp [hpath]) ht) hu

end Distinct

/-- The same directories in other listing orders, at every depth. -/
inductive Relisted : List (String × Tree) → List (String × Tree) → Prop
  | nil : Relisted [] []
  | file (name : String) (contents : ByteArray) {xs ys : List (String × Tree)}
      (rest : Relisted xs ys) :
      Relisted ((name, .file contents) :: xs) ((name, .file contents) :: ys)
  | directory (name : String) {xs ys inner inner' : List (String × Tree)}
      (within : Relisted inner inner') (rest : Relisted xs ys) :
      Relisted ((name, .directory inner) :: xs) ((name, .directory inner') :: ys)
  | swap (a b : String × Tree) (xs : List (String × Tree)) : Relisted (a :: b :: xs) (b :: a :: xs)
  | trans {xs ys zs : List (String × Tree)} (first : Relisted xs ys) (second : Relisted ys zs) :
      Relisted xs zs

end ScriptTypings.File
