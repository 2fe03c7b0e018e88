import AgentRelay.Proofs.Options.Lookup
import AgentRelay.Proofs.Split
import AgentRelay.Proofs.Traversal

set_option autoImplicit false

/-!
# What a text of options holds

A text holds options exactly when every entry can be cut at the map delimiter, and then it holds what the cut
entries give in order (`parseWith_eq`, `parseWith_eq_ok_iff` and `parseWith_eq_error_iff`).

What is read is free of the delimiters it was read with: a key holds neither of them, and a value does not hold the
delimiter between pairs (`not_infix_of_parseWith`).
-/

namespace AgentRelay.Options

/-! ## Delimiters -/

theorem toList_comma : comma.toList = [','] := rfl

theorem toList_lineFeed : lineFeed.toList = ['\n'] := rfl

theorem toList_equalsSign : equalsSign.toList = ['='] := rfl

/-! ## Entries -/

/-- An entry holds a pair when it is the key, the map delimiter at its first place, and the value. -/
theorem parsePair_eq_some_iff (mapDelimiter entry : List Char) (pair : Pair) :
    parsePair mapDelimiter entry = some pair ↔
      Split.cut? mapDelimiter entry = some (pair.1.toList, pair.2.toList) := by
  obtain ⟨key, value⟩ := pair
  simp only [parsePair, Option.map_eq_some_iff, Prod.mk.injEq]
  constructor
  · rintro ⟨⟨before, after⟩, hcut, rfl, rfl⟩
    simpa using hcut
  · intro h
    exact ⟨(key.toList, value.toList), h, String.ofList_toList, String.ofList_toList⟩

/-- An entry in which the map delimiter does not stand holds no pair. -/
theorem parsePair_eq_none_iff (mapDelimiter entry : List Char) :
    parsePair mapDelimiter entry = none ↔ ¬ mapDelimiter <:+: entry := by
  rw [parsePair, Option.map_eq_none_iff, Split.cut?_eq_none_iff]

@[simp] theorem entriesOf_nil (delimiter : List Char) : entriesOf delimiter [] = [] := by
  by_cases hd : delimiter = []
  · simp [entriesOf, hd, Split.pieces_empty]
  · have hcut : Split.cut? delimiter [] = none := by simp [Split.cut?, hd]
    simp [entriesOf, Split.pieces_of_cut?_eq_none hd hcut]

/-- A delimiter of one letter ends an entry wherever it stands. -/
theorem entriesOf_append_cons (c : Char) (a b : List Char) :
    entriesOf [c] (a ++ c :: b) = entriesOf [c] a ++ entriesOf [c] b := by
  rw [entriesOf, Split.pieces_append_cons, List.filter_append, entriesOf, entriesOf]

/-! ## Texts -/

/-- A text is read entry by entry, also if it is empty. -/
theorem parseWith_eq (delimiter mapDelimiter text : String) :
    parseWith delimiter mapDelimiter (some text) =
      match (entriesOf delimiter.toList text.toList).mapM (parsePair mapDelimiter.toList) with
      | some pairs => .ok (ofPairs pairs)
      | none => .error (.malformedOptions text) := by
  rw [parseWith]
  split
  · next h =>
    rw [h, String.toList_empty, entriesOf_nil, List.mapM_nil]
    rfl
  · rfl

/-- A text holds the options that its entries give in order. -/
theorem parseWith_eq_ok_iff (delimiter mapDelimiter text : String) (o : Options) :
    parseWith delimiter mapDelimiter (some text) = .ok o ↔
      ∃ pairs : List Pair,
        (entriesOf delimiter.toList text.toList).map (parsePair mapDelimiter.toList) = pairs.map some ∧
          o = ofPairs pairs := by
  simp only [← mapM_eq_some_iff, parseWith_eq]
  cases (entriesOf delimiter.toList text.toList).mapM (parsePair mapDelimiter.toList) with
  | none => simp
  | some pairs => simp [eq_comm]

/-- A text is refused because of an entry that holds no pair, and the whole text is named. -/
theorem parseWith_eq_error_iff (delimiter mapDelimiter text : String) (fault : Fault) :
    parseWith delimiter mapDelimiter (some text) = .error fault ↔
      (∃ entry ∈ entriesOf delimiter.toList text.toList, ¬ mapDelimiter.toList <:+: entry) ∧
        fault = .malformedOptions text := by
  simp only [← parsePair_eq_none_iff, ← mapM_eq_none_iff, parseWith_eq]
  cases (entriesOf delimiter.toList text.toList).mapM (parsePair mapDelimiter.toList) with
  | none => simp [eq_comm]
  | some pairs => simp

/-- What is read from a text is free of the delimiters. -/
theorem not_infix_of_parseWith {delimiter mapDelimiter text : String} {o : Options}
    (h : parseWith delimiter mapDelimiter (some text) = .ok o) {entry : Pair} (hentry : entry ∈ o.entries) :
    (delimiter.toList ≠ [] →
      ¬ delimiter.toList <:+: entry.1.toList ∧ ¬ delimiter.toList <:+: entry.2.toList) ∧
    (mapDelimiter.toList ≠ [] → ¬ mapDelimiter.toList <:+: entry.1.toList) := by
  obtain ⟨pairs, hpairs, rfl⟩ := (parseWith_eq_ok_iff ..).1 h
  have hread : some entry ∈ (entriesOf delimiter.toList text.toList).map (parsePair mapDelimiter.toList) := by
    rw [hpairs]
    exact List.mem_map_of_mem (mem_of_mem_ofPairs hentry)
  obtain ⟨piece, hpiece, hpair⟩ := List.mem_map.1 hread
  have hcut := (parsePair_eq_some_iff ..).1 hpair
  have happend := Split.append_of_cut? hcut
  constructor
  · intro hd
    have hfree : ¬ delimiter.toList <:+: piece := Split.not_infix_of_mem_pieces hd (List.mem_of_mem_filter hpiece)
    -- both parts of the piece stand in it
    have hkey : entry.1.toList <:+: piece := ⟨[], mapDelimiter.toList ++ entry.2.toList, by simp [happend]⟩
    have hvalue : entry.2.toList <:+: piece := ⟨entry.1.toList ++ mapDelimiter.toList, [], by simp [happend]⟩
    exact ⟨fun hin => hfree (hin.trans hkey), fun hin => hfree (hin.trans hvalue)⟩
  · intro hm
    exact Split.not_infix_of_cut? hm hcut

end AgentRelay.Options
