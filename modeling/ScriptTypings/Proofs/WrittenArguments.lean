import ScriptTypings.Cli.Arguments
import Mathlib.Data.List.Perm.Basic

/-!
# Written arguments

Every value of the arguments can be written down and read back, whatever strings it holds: each
option has its value in the same word, behind the first `=`. What has been read so far does not
depend on the order of the words, but for the excluded directories among themselves. Whether
silence and verbosity meet is looked at when all words have been read.
-/

namespace ScriptTypings.Cli

/-! ## Arguments of one word -/

def ValueOption.longName : ValueOption → String
  | .input => "input"
  | .output => "output"
  | .excludeDir => "exclude-dir"
  | .debugClass => "debug-class"

/-- An argument of one word: an option with its value, or a flag. -/
inductive Item where
  | value (option : ValueOption) (given : String)
  | flag (raised : Flag)
  deriving DecidableEq

namespace Item

/-- How an argument is written. -/
def text : Item → String
  | .value option given => "--" ++ option.longName ++ "=" ++ given
  | .flag .stdout => "--stdout"
  | .flag .verbose => "-v"
  | .flag .quiet => "-q"
  | .flag .help => "-h"
  | .flag .version => "-V"

def switch : Item → Switch
  | .value option _ => .value option
  | .flag raised => .flag raised

def valueFor (option : ValueOption) : Item → Option String
  | .value other given => if other = option then some given else none
  | .flag _ => none

/-- Directories are not empty, and asking for help or for the version ends the reading. -/
def IsReadable : Item → Prop
  | .value .input given => given ≠ ""
  | .value .output given => given ≠ ""
  | .flag .help => False
  | .flag .version => False
  | _ => True

end Item

/-- Excluded directories and verbosity may be given more than once. -/
def Switch.isRepeatable : Switch → Bool
  | .value .excludeDir => true
  | .flag .verbose => true
  | _ => false

/-- Arguments that are read without an error, in this order or any other. -/
structure Legal (items : List Item) : Prop where
  readable : ∀ item ∈ items, item.IsReadable
  once : ∀ s : Switch, s.isRepeatable = false → (items.map Item.switch).count s ≤ 1

/-- The values that an option is given, in order. -/
def values (option : ValueOption) (items : List Item) : List String :=
  items.filterMap (Item.valueFor option)

section Values

variable {option : ValueOption} {raised : Flag} {items : List Item}

@[simp]
theorem values_nil (option : ValueOption) : values option [] = [] := rfl

@[simp]
theorem values_value_cons (option other : ValueOption) (given : String) (items : List Item) :
    values option (.value other given :: items) =
      if other = option then given :: values option items else values option items := by
  by_cases h : other = option <;> simp [values, Item.valueFor, h]

@[simp]
theorem values_flag_cons (option : ValueOption) (raised : Flag) (items : List Item) :
    values option (.flag raised :: items) = values option items := rfl

@[simp]
theorem values_append (option : ValueOption) (items items' : List Item) :
    values option (items ++ items') = values option items ++ values option items' :=
  List.filterMap_append

@[simp]
theorem values_map_value (option other : ValueOption) (given : List String) :
    values option (given.map (.value other)) = if other = option then given else [] := by
  induction given with
  | nil => simp
  | cons first rest ih =>
      rw [List.map_cons, values_value_cons, ih]
      split <;> rfl

@[simp]
theorem values_replicate_flag (option : ValueOption) (n : Nat) (raised : Flag) :
    values option (List.replicate n (.flag raised)) = [] := by
  induction n with
  | zero => rfl
  | succ n ih => rw [List.replicate_succ, values_flag_cons, ih]

@[simp]
theorem count_flag_map_value (raised : Flag) (option : ValueOption) (given : List String) :
    (given.map (Item.value option)).count (.flag raised) = 0 := by
  simp [List.count_eq_zero]

theorem mem_values {given : String} :
    given ∈ values option items ↔ .value option given ∈ items := by
  induction items with
  | nil => simp
  | cons item rest ih =>
      cases item with
      | value other more =>
          by_cases h : other = option
          · simp [h, ih]
          · simp [h, Ne.symm h, ih]
      | flag raised => simp [ih]

theorem count_switch_value :
    (items.map Item.switch).count (.value option) = (values option items).length := by
  induction items with
  | nil => rfl
  | cons item rest ih =>
      cases item with
      | value other given => by_cases h : other = option <;> simp [Item.switch, h, ih]
      | flag raised => simp [Item.switch, ih]

theorem count_switch_flag :
    (items.map Item.switch).count (.flag raised) = items.count (.flag raised) := by
  induction items with
  | nil => rfl
  | cons item rest ih => cases item <;> simp [Item.switch, List.count_cons, ih]

theorem values_eq_nil (h : .value option ∉ items.map Item.switch) : values option items = [] := by
  rw [← List.length_eq_zero_iff, ← count_switch_value]
  exact List.count_eq_zero.mpr h

theorem flag_not_mem (h : .flag raised ∉ items.map Item.switch) : .flag raised ∉ items :=
  fun hmem => h (List.mem_map_of_mem hmem)

end Values

/-! ## Reading words -/

namespace Reading

/-- What one argument does. -/
def take (r : Reading) : Item → Except ArgumentError Reading
  | .value option given => r.attach option given
  | .flag raised => r.raise raised

/-- No name of an option has a `=`, so the first one ends the name. -/
theorem readLong_longName (r : Reading) (option : ValueOption) (given : List Char) :
    r.readLong (option.longName.toList ++ '=' :: given) =
      r.attach option (String.ofList given) := by
  have hname : ∀ c ∈ option.longName.toList, decide (c ≠ '=') = true := by
    apply List.all_eq_true.mp
    cases option <;> decide
  have hswitch : longSwitch option.longName = some (.value option) := by
    cases option <;> rfl
  rw [readLong, List.takeWhile_append_of_pos hname, List.dropWhile_append_of_pos hname]
  simp [hswitch]

theorem readAll_long (r : Reading) {text : String} (long : List Char) (rest : List String)
    (htext : text.toList = '-' :: '-' :: long) (hne : long ≠ []) :
    r.readAll (text :: rest) = (r.readLong long >>= fun r => r.readAll rest) := by
  obtain ⟨c, more, rfl⟩ := List.exists_cons_of_ne_nil hne
  rw [readAll, htext]
  rfl

theorem readAll_short (r : Reading) (c : Char) {text : String} {raised : Flag}
    (rest : List String) (htext : text.toList = ['-', c]) (hc : c ≠ '-')
    (hswitch : shortSwitch c = some (.flag raised)) :
    r.readAll (text :: rest) = (r.raise raised >>= fun r => r.readAll rest) := by
  have hshort : r.readShort [c] = r.raise raised := by
    rw [readShort, hswitch]
    exact bind_pure _
  rw [readAll, htext]
  split
  · next h => simp [hc] at h
  · next h => simp [hc] at h
  · next h =>
      obtain ⟨rfl, rfl⟩ := List.cons.inj (List.cons.inj h).2
      rw [hshort]
  · next h => exact absurd rfl (h c [])

/-- A written argument is read as itself, whatever its value is. -/
theorem readAll_text_cons (r : Reading) (item : Item) (rest : List String) :
    r.readAll (item.text :: rest) = (r.take item >>= fun r => r.readAll rest) := by
  cases item with
  | value option given =>
      have htext : (Item.value option given).text.toList =
          '-' :: '-' :: (option.longName.toList ++ '=' :: given.toList) := by
        simp [Item.text]
      rw [readAll_long r _ rest htext (by simp), readLong_longName, String.ofList_toList, take]
  | flag raised =>
      cases raised with
      | stdout => exact readAll_long r "stdout".toList rest rfl (by decide)
      | verbose => exact readAll_short r 'v' rest rfl (by decide) rfl
      | quiet => exact readAll_short r 'q' rest rfl (by decide) rfl
      | help => exact readAll_short r 'h' rest rfl (by decide) rfl
      | version => exact readAll_short r 'V' rest rfl (by decide) rfl

/-- What has been read behind some arguments, said by the arguments as a whole. -/
def ofItems (items : List Item) : Reading where
  input := (values .input items).head?
  output := (values .output items).head?
  excludeDirs := values .excludeDir items
  stdout := .flag .stdout ∈ items
  debugClass := (values .debugClass items).head?
  verbose := min (items.count (.flag .verbose)) verbosityLimit
  quiet := .flag .quiet ∈ items

/-- One step: reading an argument behind others that it may follow. -/
theorem take_ofItems {read : List Item} {item : Item} (hreadable : item.IsReadable)
    (hnew : item.switch.isRepeatable = false → item.switch ∉ read.map Item.switch) :
    (ofItems read).take item = .ok (ofItems (read ++ [item])) := by
  cases item with
  | value option given =>
      change (ofItems read).giveValue option given = _
      cases option with
      | input =>
          have hnone := values_eq_nil (hnew rfl)
          rw [giveValue, if_neg (by simp [ofItems, hnone]), if_neg hreadable]
          simp [ofItems, hnone]
      | output =>
          have hnone := values_eq_nil (hnew rfl)
          rw [giveValue, if_neg (by simp [ofItems, hnone]), if_neg hreadable]
          simp [ofItems, hnone]
      | excludeDir => simp [giveValue, ofItems]
      | debugClass =>
          have hnone := values_eq_nil (hnew rfl)
          rw [giveValue, if_neg (by simp [ofItems, hnone])]
          simp [ofItems, hnone]
  | flag raised =>
      cases raised with
      | stdout =>
          have hnot := flag_not_mem (hnew rfl)
          change (if (ofItems read).stdout then _ else _) = _
          rw [if_neg (by simpa [ofItems] using hnot)]
          simp [ofItems, pure, Except.pure]
      | verbose =>
          -- Both sides count on up to the limit and stay there.
          have hcount (n : Nat) :
              min (min n verbosityLimit + 1) verbosityLimit = min (n + 1) verbosityLimit := by
            omega
          change Except.ok _ = _
          simp [ofItems, hcount]
      | quiet =>
          have hnot := flag_not_mem (hnew rfl)
          change (if (ofItems read).quiet then _ else _) = _
          rw [if_neg (by simpa [ofItems] using hnot)]
          simp [ofItems, pure, Except.pure]
      | help => exact absurd hreadable id
      | version => exact absurd hreadable id

/-- The run: reading the rest of some arguments. -/
theorem readAll_ofItems {read rest : List Item} (h : Legal (read ++ rest)) :
    (ofItems read).readAll (rest.map Item.text) = .ok (ofItems (read ++ rest)) := by
  induction rest generalizing read with
  | nil =>
      rw [List.append_nil]
      rfl
  | cons item rest ih =>
      have hreadable : item.IsReadable := h.readable item (by simp)
      have hnew : item.switch.isRepeatable = false → item.switch ∉ read.map Item.switch := by
        intro hrepeatable
        have honce := h.once item.switch hrepeatable
        rw [List.map_append, List.map_cons, List.count_append, List.count_cons_self] at honce
        exact List.count_eq_zero.mp (by omega)
      have hsplit : read ++ item :: rest = read ++ [item] ++ rest := by simp
      rw [List.map_cons, readAll_text_cons, take_ofItems hreadable hnew, hsplit]
      rw [hsplit] at h
      exact ih h

end Reading

theorem parse_map_text {items : List Item} (h : Legal items) :
    Arguments.parse (items.map Item.text) = (Reading.ofItems items).finish := by
  have hread := Reading.readAll_ofItems (show Legal ([] ++ items) from h)
  change ((Reading.ofItems []).readAll _ >>= Reading.finish) = _
  rw [hread]
  rfl

/-! ## Arguments as a whole -/

def Arguments.valuesOf (a : Arguments) : ValueOption → List String
  | .input => [a.input]
  | .output => [a.output]
  | .excludeDir => a.excludeDirs
  | .debugClass => a.debugClass.toList

/-- How often a flag counts. -/
def Arguments.timesOf (a : Arguments) : Flag → Nat
  | .stdout => a.stdout.toNat
  | .verbose => a.verbose
  | .quiet => a.quiet.toNat
  | .help => 0
  | .version => 0

/-- Words that give each option just its values, in any order, and raise each flag as often as it
counts. -/
structure Spells (items : List Item) (a : Arguments) : Prop where
  values_perm : ∀ option, (values option items).Perm (a.valuesOf option)
  count_flag : ∀ raised, items.count (.flag raised) = a.timesOf raised

namespace Spells

variable {items : List Item} {a : Arguments}

theorem perm (h : Spells items a) {items' : List Item} (hperm : items'.Perm items) :
    Spells items' a where
  values_perm option := (hperm.filterMap _).trans (h.values_perm option)
  count_flag raised := (hperm.count_eq _).trans (h.count_flag raised)

theorem legal (h : Spells items a) (hinput : a.input ≠ "") (houtput : a.output ≠ "") :
    Legal items where
  readable item hitem := by
    cases item with
    | value option given =>
        have hgiven := (h.values_perm option).mem_iff.mp (mem_values.mpr hitem)
        cases option with
        | input => exact List.mem_singleton.mp hgiven ▸ hinput
        | output => exact List.mem_singleton.mp hgiven ▸ houtput
        | excludeDir => trivial
        | debugClass => trivial
    | flag raised =>
        have hcount := List.count_pos_iff.mpr hitem
        rw [h.count_flag] at hcount
        cases raised with
        | stdout => trivial
        | verbose => trivial
        | quiet => trivial
        | help => exact absurd hcount (Nat.lt_irrefl 0)
        | version => exact absurd hcount (Nat.lt_irrefl 0)
  once s hs := by
    cases s with
    | value option =>
        rw [count_switch_value, (h.values_perm option).length_eq]
        cases option with
        | input => exact Nat.le_refl 1
        | output => exact Nat.le_refl 1
        | excludeDir => cases hs
        | debugClass => exact Option.length_toList_le
    | flag raised =>
        rw [count_switch_flag, h.count_flag]
        cases raised with
        | stdout => exact Bool.toNat_le _
        | verbose => cases hs
        | quiet => exact Bool.toNat_le _
        | help => exact Nat.zero_le 1
        | version => exact Nat.zero_le 1

theorem head?_values (h : Spells items a) {option : ValueOption} {o : Option String}
    (ho : a.valuesOf option = o.toList) : (values option items).head? = o := by
  have hperm := h.values_perm option
  rw [ho] at hperm
  cases o with
  | none => rw [hperm.eq_nil, List.head?_nil]
  | some given => rw [List.perm_singleton.mp hperm, List.head?_cons]

theorem decide_mem (h : Spells items a) {raised : Flag} {b : Bool}
    (hb : a.timesOf raised = b.toNat) : decide (.flag raised ∈ items) = b := by
  have hmem : .flag raised ∈ items ↔ b = true := by
    rw [← List.count_pos_iff, h.count_flag, hb]
    cases b <;> simp
  simp [hmem]

/-- In the end the words give what they spell, unless silence and verbosity meet. -/
theorem finish_ofItems (h : Spells items a) (hdirs : values .excludeDir items = a.excludeDirs)
    (hverbose : a.verbose ≤ verbosityLimit) :
    (Reading.ofItems items).finish =
      if a.quiet = true ∧ 0 < a.verbose then .error .argumentConflict else .ok a := by
  have hinput : (values .input items).head? = some a.input := h.head?_values rfl
  have houtput : (values .output items).head? = some a.output := h.head?_values rfl
  have hclass : (values .debugClass items).head? = a.debugClass := h.head?_values rfl
  have hcount : min (items.count (.flag .verbose)) verbosityLimit = a.verbose := by
    rw [h.count_flag]
    exact Nat.min_eq_left hverbose
  rw [Reading.finish, Reading.ofItems, hinput, houtput, hclass, hcount, hdirs,
    h.decide_mem rfl, h.decide_mem rfl]
  simp

end Spells

/-! ## Texts -/

namespace Arguments

/-- All arguments in words. -/
def items (a : Arguments) : List Item :=
  [.value .input a.input, .value .output a.output] ++
    a.excludeDirs.map (.value .excludeDir) ++
    (if a.stdout then [.flag .stdout] else []) ++
    a.debugClass.toList.map (.value .debugClass) ++
    List.replicate a.verbose (.flag .verbose) ++
    (if a.quiet then [.flag .quiet] else [])

/-- All arguments as they are written. -/
def written (a : Arguments) : List String :=
  ["--input=" ++ a.input, "--output=" ++ a.output] ++
    a.excludeDirs.map ("--exclude-dir=" ++ ·) ++
    (if a.stdout then ["--stdout"] else []) ++
    a.debugClass.toList.map ("--debug-class=" ++ ·) ++
    List.replicate a.verbose "-v" ++
    (if a.quiet then ["-q"] else [])

theorem written_eq (a : Arguments) : a.written = a.items.map Item.text := by
  simp only [written, items, List.map_append, List.map_map, List.map_replicate,
    apply_ite (List.map Item.text)]
  rfl

theorem values_items (a : Arguments) (option : ValueOption) :
    values option a.items = a.valuesOf option := by
  have hflag (b : Bool) (raised : Flag) :
      values option (if b then [.flag raised] else []) = [] := by
    cases b <;> rfl
  cases option <;> simp [items, valuesOf, hflag]

theorem count_flag_items (a : Arguments) (raised : Flag) :
    a.items.count (.flag raised) = a.timesOf raised := by
  have hflag (b : Bool) (other : Flag) :
      (if b then [Item.flag other] else []).count (.flag raised) =
        if other = raised then b.toNat else 0 := by
    cases b <;> simp [List.count_singleton]
  cases raised <;> simp [items, timesOf, hflag, List.count_replicate]

theorem spells_items (a : Arguments) : Spells a.items a where
  values_perm option := by rw [values_items]
  count_flag := a.count_flag_items

/-- An argument that excludes a directory. -/
def isExclusion (text : String) : Bool :=
  "--exclude-dir=".toList.isPrefixOf text.toList

/-- The written arguments in an order that keeps the order of the excluded directories. -/
structure Reorders (texts : List String) (a : Arguments) : Prop where
  perm : texts.Perm a.written
  exclusions : texts.filter isExclusion = a.written.filter isExclusion

theorem isExclusion_text (item : Item) :
    isExclusion item.text = decide (item.switch = .value .excludeDir) := by
  cases item with
  | value option given =>
      rw [isExclusion, Item.text, String.toList_append]
      cases option with
      | input => rfl
      | output => rfl
      | excludeDir => exact List.isPrefixOf_iff_prefix.mpr (List.prefix_append _ _)
      | debugClass => rfl
  | flag raised => cases raised <;> rfl

theorem filter_isExclusion (items : List Item) :
    (items.map Item.text).filter isExclusion =
      (values .excludeDir items).map ("--exclude-dir=" ++ ·) := by
  induction items with
  | nil => rfl
  | cons item rest ih =>
      rw [List.map_cons, List.filter_cons, isExclusion_text, ih]
      cases item with
      | value option given => cases option <;> rfl
      | flag raised => rfl

/-- Texts in another order stand for the words in that order. -/
theorem Reorders.exists_words {texts : List String} {a : Arguments} (h : Reorders texts a) :
    ∃ words : List Item, texts = words.map Item.text ∧ Spells words a ∧
      values .excludeDir words = a.excludeDirs := by
  have hperm := h.perm
  rw [written_eq] at hperm
  -- A permutation of the texts comes from one of the words, also where two words have one text.
  have hcomp : Relation.Comp (fun texts items => texts = List.map Item.text items)
      List.Perm texts a.items := by
    rw [List.eq_map_comp_perm]
    exact hperm
  obtain ⟨words, rfl, hwords⟩ := hcomp
  have hexclusions := h.exclusions
  rw [written_eq, filter_isExclusion, filter_isExclusion, values_items] at hexclusions
  have hdirs : values .excludeDir words = a.excludeDirs :=
    (List.map_inj_right fun _ _ => (String.append_right_inj _).mp).mp hexclusions
  exact ⟨words, rfl, a.spells_items.perm hwords, hdirs⟩

/-- All orders of the written arguments are read alike. -/
theorem parse_of_reorders {a : Arguments} (hinput : a.input ≠ "") (houtput : a.output ≠ "")
    (hverbose : a.verbose ≤ verbosityLimit) {texts : List String} (h : Reorders texts a) :
    parse texts =
      if a.quiet = true ∧ 0 < a.verbose then .error .argumentConflict else .ok a := by
  obtain ⟨words, rfl, hspells, hdirs⟩ := h.exists_words
  rw [parse_map_text (hspells.legal hinput houtput), hspells.finish_ofItems hdirs hverbose]

/-- Arguments are read back from how they are written. Directories of a run must not be empty and
verbosity stops at its limit; all other values are free, also those that look like options. This
holds for the fixed order and for every other order that keeps that of the excluded directories.
Silence together with verbosity is a conflict in every such order. -/
theorem written_arguments_read_back (a : Arguments) (hinput : a.input ≠ "")
    (houtput : a.output ≠ "") (hverbose : a.verbose ≤ 255) :
    (¬ (a.quiet = true ∧ 0 < a.verbose) →
      parse a.written = .ok a ∧ ∀ texts, Reorders texts a → parse texts = .ok a) ∧
    (a.quiet = true ∧ 0 < a.verbose →
      parse a.written = .error .argumentConflict ∧
        ∀ texts, Reorders texts a → parse texts = .error .argumentConflict) := by
  have hsame : Reorders a.written a := ⟨List.Perm.refl _, rfl⟩
  constructor
  · intro hfree
    have hread (texts : List String) (h : Reorders texts a) : parse texts = .ok a := by
      rw [parse_of_reorders hinput houtput hverbose h, if_neg hfree]
    exact ⟨hread _ hsame, hread⟩
  · intro hconflict
    have hread (texts : List String) (h : Reorders texts a) :
        parse texts = .error .argumentConflict := by
      rw [parse_of_reorders hinput houtput hverbose h, if_pos hconflict]
    exact ⟨hread _ hsame, hread⟩

/-- Values that look like options, have a `=` or are empty. -/
def misleadingArguments : Arguments where
  input := "--output=x"
  output := "-"
  excludeDirs := ["", "--stdout", "a=b"]
  stdout := true
  debugClass := some ""
  verbose := 2

/-- `misleadingArguments` are read back from another order. With silence they are refused. -/
theorem read_back_of_misleadingArguments :
    parse ["-v", "--exclude-dir=", "--debug-class=", "--exclude-dir=--stdout", "--output=-", "-v",
      "--stdout", "--exclude-dir=a=b", "--input=--output=x"] = .ok misleadingArguments ∧
    parse ["-q", "--exclude-dir=", "-v", "--exclude-dir=--stdout", "--exclude-dir=a=b",
      "--input=--output=x", "--debug-class=", "--output=-", "--stdout", "-v"] =
        .error .argumentConflict := by
  constructor
  · obtain ⟨hread, -⟩ := written_arguments_read_back misleadingArguments (by decide) (by decide)
      (by decide)
    exact (hread (by decide)).2 _ ⟨by decide, by decide⟩
  · obtain ⟨-, hread⟩ := written_arguments_read_back { misleadingArguments with quiet := true }
      (by decide) (by decide) (by decide)
    exact (hread (by decide)).2 _ ⟨by decide, by decide⟩

end Arguments

end ScriptTypings.Cli
