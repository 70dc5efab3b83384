import ScriptTypings.Declaration.Literal

/-!
# Reading string literals

A literal can be read back from the front of a text: it starts with a quote and ends at the first
quote that is not part of an escape. Reading gives the text that was written and all that stands
behind the literal, whatever that is. Each text has one literal, and nothing but literals is read.
-/

namespace ScriptTypings.Literal

/-- Reads a literal behind its opening quote, up to its closing one. A backslash that starts no
escape and a line feed stand in no literal. -/
def decodeBody : List Char → Option (List Char × List Char)
  | [] => none
  | '"' :: rest => some ([], rest)
  | '\\' :: '"' :: rest => (decodeBody rest).map (Prod.map ('"' :: ·) id)
  | '\\' :: '\\' :: rest => (decodeBody rest).map (Prod.map ('\\' :: ·) id)
  | '\\' :: 'n' :: rest => (decodeBody rest).map (Prod.map ('\n' :: ·) id)
  | '\\' :: _ => none
  | '\n' :: _ => none
  | c :: rest => (decodeBody rest).map (Prod.map (c :: ·) id)

/-- Reads a literal from the front of a text, with the rest of the text. -/
def decode : List Char → Option (String × List Char)
  | '"' :: rest => (decodeBody rest).map (Prod.map String.ofList id)
  | _ => none

/-- One step of reading takes the form of one character. -/
theorem decodeBody_encodeChar_append (c : Char) (rest : List Char) :
    decodeBody (encodeChar c ++ rest) = (decodeBody rest).map (Prod.map (c :: ·) id) := by
  unfold encodeChar
  split
  · rfl
  · rfl
  · rfl
  · next hquote hbackslash hfeed =>
      rw [List.singleton_append, decodeBody]
      · exact hquote
      · exact fun _ h _ => hbackslash h
      · exact fun _ h _ => hbackslash h
      · exact fun _ h _ => hbackslash h
      · exact hbackslash
      · exact hfeed

theorem decodeBody_flatMap_append (cs rest : List Char) :
    decodeBody (cs.flatMap encodeChar ++ '"' :: rest) = some (cs, rest) := by
  induction cs with
  | nil => rfl
  | cons c cs ih =>
      rw [List.flatMap_cons, List.append_assoc, decodeBody_encodeChar_append, ih]
      rfl

/-- A literal is read back whole, and reading stops right behind it. -/
theorem decode_encode_append (s : String) (rest : List Char) :
    decode ((encode s).toList ++ rest) = some (s, rest) := by
  have hform : (encode s).toList ++ rest =
      '"' :: (s.toList.flatMap encodeChar ++ '"' :: rest) := by
    simp [encode]
  rw [hform, decode, decodeBody_flatMap_append]
  simp [Prod.map]

/-- Equal texts that start with literals start with the same one. -/
theorem encode_append_inj {s t : String} {r q : List Char}
    (h : (encode s).toList ++ r = (encode t).toList ++ q) : s = t ∧ r = q := by
  have hread := congrArg decode h
  rw [decode_encode_append, decode_encode_append] at hread
  simpa using hread

/-! ## What reading accepts -/

theorem map_cons_eq_some_iff {c : Char} {read : Option (List Char × List Char)}
    {cs rest : List Char} :
    read.map (Prod.map (c :: ·) id) = some (cs, rest) ↔
      ∃ more, read = some (more, rest) ∧ cs = c :: more := by
  simp [Option.map_eq_some_iff, Prod.map, eq_comm]

/-- What stands in front of the place where reading ends is the form of what was read. -/
theorem eq_append_of_decodeBody {text cs rest : List Char}
    (h : decodeBody text = some (cs, rest)) :
    text = cs.flatMap encodeChar ++ '"' :: rest := by
  fun_induction decodeBody text generalizing cs with
  | case1 => cases h
  | case2 tail =>
      obtain ⟨rfl, rfl⟩ := Prod.mk.inj (Option.some.inj h)
      rfl
  | case3 tail ih | case4 tail ih | case5 tail ih =>
      obtain ⟨more, hmore, rfl⟩ := map_cons_eq_some_iff.mp h
      rw [ih hmore]
      rfl
  | case6 | case7 => cases h
  | case8 c tail hquote _ _ _ hbackslash hfeed ih =>
      obtain ⟨more, hmore, rfl⟩ := map_cons_eq_some_iff.mp h
      rw [ih hmore, List.flatMap_cons, encodeChar]
      · rfl
      · exact hquote
      · exact hbackslash
      · exact hfeed

/-- Reading accepts just the texts that start with a literal. -/
theorem decode_eq_some_iff {text rest : List Char} {s : String} :
    decode text = some (s, rest) ↔ text = (encode s).toList ++ rest := by
  constructor
  · intro h
    unfold decode at h
    split at h
    · obtain ⟨⟨cs, behind⟩, hbody, hread⟩ := Option.map_eq_some_iff.mp h
      obtain ⟨rfl, rfl⟩ := Prod.mk.inj hread
      rw [eq_append_of_decodeBody hbody]
      simp [encode]
    · cases h
  · rintro rfl
    exact decode_encode_append s rest

theorem feed_not_mem_encodeChar (c : Char) : '\n' ∉ encodeChar c := by
  unfold encodeChar
  split
  · decide
  · decide
  · decide
  · next hfeed => simpa using Ne.symm hfeed

/-- A literal stands on one line. -/
theorem feed_not_mem_encode (s : String) : '\n' ∉ (encode s).toList := by
  simp [encode, feed_not_mem_encodeChar]

/-- Literals delimit themselves. In front of any text a literal is read back whole, and reading
accepts nothing else: what it reads and the rest that it leaves are those of the literal in front.
So different texts have different literals, no literal is the start of another one, and none goes
over the end of a line. -/
theorem literals_delimit_themselves :
    (∀ s rest : String, decode (encode s ++ rest).toList = some (s, rest.toList)) ∧
    (∀ text s rest, decode text = some (s, rest) ↔ text = (encode s).toList ++ rest) ∧
    (∀ s t, encode s = encode t ↔ s = t) ∧
    (∀ s, '\n' ∉ (encode s).toList) ∧
    ∀ s t, (encode s).toList <+: (encode t).toList ↔ s = t := by
  refine ⟨?_, fun _ _ _ => decode_eq_some_iff, ?_, feed_not_mem_encode, ?_⟩
  · intro s rest
    rw [String.toList_append, decode_encode_append]
  · intro s t
    constructor
    · intro h
      exact (encode_append_inj (r := []) (q := []) (by rw [h])).1
    · exact congrArg encode
  · intro s t
    constructor
    · rintro ⟨more, h⟩
      exact (encode_append_inj (r := more) (q := []) (by rw [h, List.append_nil])).1
    · rintro rfl
      exact List.prefix_rfl

end ScriptTypings.Literal
