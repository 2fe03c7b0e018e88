import AgentRelay.Proofs.Options.RoundTrip

set_option autoImplicit false

/-!
# The normal form of option strings

An option string that is read and written again is in *normal form*.  What is lost on the way is what the options do
not keep: empty entries, and all values of a key but the last.  Nothing else is, so a text without them is its own
normal form, and no other text is except the empty one (`renderWith_eq_iff`).

The second half needs no look at how lost parts might make up for each other.  A text that is written options has the
written pairs for its entries, none of which is empty and no two of which have the same key.
-/

namespace AgentRelay.Options

/-! ## Tidy texts -/

/-- The key of an entry: what stands before the first sign between key and value. -/
def keyOf (entry : List Char) : List Char := entry.takeWhile (· ≠ '=')

/-- No entry is empty, because the delimiter stands neither in front nor at the end nor next to itself, and no two
entries have the same key. -/
structure IsTidy (delimiter : Char) (text : String) : Prop where
  no_leading : ¬ [delimiter] <+: text.toList
  no_trailing : ¬ [delimiter] <:+ text.toList
  no_doubled : ¬ [delimiter, delimiter] <:+: text.toList
  distinct_keys : ((text.toList.splitOn delimiter).map keyOf).Nodup

instance (delimiter : Char) (text : String) : Decidable (IsTidy delimiter text) :=
  decidable_of_iff (¬ [delimiter] <+: text.toList ∧ ¬ [delimiter] <:+ text.toList ∧
      ¬ [delimiter, delimiter] <:+: text.toList ∧ ((text.toList.splitOn delimiter).map keyOf).Nodup)
    ⟨fun ⟨hleading, htrailing, hdoubled, hkeys⟩ => ⟨hleading, htrailing, hdoubled, hkeys⟩,
      fun ⟨hleading, htrailing, hdoubled, hkeys⟩ => ⟨hleading, htrailing, hdoubled, hkeys⟩⟩

variable {delimiter text : String} {c : Char} {o : Options}

/-- A tidy text that is not empty has no empty entry. -/
theorem IsTidy.nil_notMem_splitOn (h : IsTidy c text) (hne : text ≠ "") : [] ∉ text.toList.splitOn c := by
  rw [Split.nil_mem_splitOn_iff]
  rintro (hempty | hleading | htrailing | hdoubled)
  · exact hne (String.toList_eq_nil_iff.1 hempty)
  · exact h.no_leading hleading
  · exact h.no_trailing htrailing
  · exact h.no_doubled hdoubled

theorem isTidy_of_nil_notMem_splitOn (h : [] ∉ text.toList.splitOn c)
    (hkeys : ((text.toList.splitOn c).map keyOf).Nodup) : IsTidy c text := by
  rw [Split.nil_mem_splitOn_iff, not_or, not_or, not_or] at h
  obtain ⟨-, hleading, htrailing, hdoubled⟩ := h
  exact ⟨hleading, htrailing, hdoubled, hkeys⟩

theorem keyOf_renderPair {pair : Pair} (h : '=' ∉ pair.1.toList) : keyOf (renderPair pair) = pair.1.toList := by
  have hkey : ∀ c ∈ pair.1.toList, decide (c ≠ '=') = true := fun c hc => decide_eq_true fun e => h (e ▸ hc)
  rw [keyOf, renderPair, toList_equalsSign, List.append_assoc, List.takeWhile_append_of_pos hkey,
    List.singleton_append, List.takeWhile_cons_of_neg (by simp), List.append_nil]

/-- Written entries have the keys of the pairs. -/
theorem map_keyOf_renderPair {pairs : List Pair} (h : ∀ pair ∈ pairs, '=' ∉ pair.1.toList) :
    (pairs.map renderPair).map keyOf = (pairs.map Prod.fst).map String.toList := by
  rw [List.map_map, List.map_map]
  exact List.map_congr_left fun pair hpair => keyOf_renderPair (h pair hpair)

/-! ## Reading and writing -/

/-- What is read are pairs whose written forms are the entries. -/
theorem exists_pairs_of_parseWith (h : parseWith delimiter equalsSign (some text) = .ok o) :
    ∃ pairs : List Pair, (∀ pair ∈ pairs, '=' ∉ pair.1.toList) ∧
      entriesOf delimiter.toList text.toList = pairs.map renderPair ∧ o = ofPairs pairs := by
  obtain ⟨pairs, hpairs, rfl⟩ := (parseWith_eq_ok_iff ..).1 h
  rw [← forall₂_map_map_eq_iff] at hpairs
  simp only [parsePair_eq_some_iff_renderPair] at hpairs
  obtain ⟨hkeys, hwritten⟩ := (List.forall₂_and_left _ _).1 hpairs.flip
  refine ⟨pairs, hkeys, ?_, rfl⟩
  rw [← List.forall₂_eq_eq_eq, List.forall₂_map_right_iff]
  exact hwritten.flip

/-- Options that hold something are written as a tidy text. -/
theorem isTidy_renderWith (hd : delimiter.toList = [c]) (hc : c ≠ '=') (h : o.Separable c) (hne : o.entries ≠ []) :
    IsTidy c (o.renderWith delimiter) := by
  have hentries := splitOn_renderWith hd hc h hne
  apply isTidy_of_nil_notMem_splitOn
  · rw [hentries, List.mem_map]
    rintro ⟨entry, -, hnil⟩
    exact renderPair_ne_nil entry hnil
  · rw [hentries, map_keyOf_renderPair fun entry hentry => (h entry hentry).2.1]
    exact o.distinct.map fun _ _ => String.toList_inj.1

/-- A tidy text is written as it was read: its entries are the pairs, and none of them is set twice. -/
theorem renderWith_of_isTidy (hd : delimiter.toList = [c])
    (h : parseWith delimiter equalsSign (some text) = .ok o) (htidy : IsTidy c text) (hne : text ≠ "") :
    o.renderWith delimiter = text := by
  obtain ⟨pairs, hkeys, hentries, rfl⟩ := exists_pairs_of_parseWith h
  have hfilter : (text.toList.splitOn c).filter (· ≠ []) = text.toList.splitOn c := by
    rw [List.filter_eq_self]
    intro part hpart
    exact decide_eq_true fun hnil => htidy.nil_notMem_splitOn hne (hnil ▸ hpart)
  have hsplit : text.toList.splitOn c = pairs.map renderPair := by
    rw [← hentries, entriesOf, hd, Split.pieces_singleton, hfilter]
  have hdistinct : (pairs.map Prod.fst).Nodup := by
    have hkeysOf := htidy.distinct_keys
    rw [hsplit, map_keyOf_renderPair hkeys] at hkeysOf
    exact hkeysOf.of_map _
  calc (ofPairs pairs).renderWith delimiter = String.ofList ([c].intercalate (pairs.map renderPair)) := by
        rw [renderWith, entries_ofPairs hdistinct, hd]
    _ = String.ofList text.toList := by rw [← hsplit, List.intercalate_splitOn]
    _ = text := String.ofList_toList

/-- A text is written as it was read exactly when it is empty or tidy. -/
theorem renderWith_eq_iff (hd : delimiter.toList = [c]) (hc : c ≠ '=')
    (h : parseWith delimiter equalsSign (some text) = .ok o) :
    o.renderWith delimiter = text ↔ text = "" ∨ IsTidy c text := by
  constructor
  · intro hrender
    by_cases hempty : o.entries = []
    · left
      rw [← hrender, renderWith, hempty]
      rfl
    · right
      rw [← hrender]
      exact isTidy_renderWith hd hc (separable_of_parseWith hd h) hempty
  · intro htext
    by_cases hne : text = ""
    · subst hne
      obtain rfl : empty = o := Except.ok.inj h
      rfl
    · exact renderWith_of_isTidy hd h (htext.resolve_left hne) hne

/-! ## Normal forms -/

/-- An option string, read and written again. -/
def normalized (text : String) : Except Fault String := (parse text).map render

/-- Written options are read back as they were read, so reading and writing once more changes nothing.  A text is its own
normal form exactly when it is empty, or has no empty entry and no two entries with the same key. -/
theorem normalForm_of_parse {text : String} {o : Options} (h : parse text = .ok o) :
    parse o.render = .ok o ∧
    normalized text = .ok o.render ∧ (normalized text).bind normalized = normalized text ∧
    (o.render = text ↔ text = "" ∨ IsTidy ',' text) := by
  have hread : parse o.render = .ok o :=
    (parseWith_renderWith_iff toList_comma (by decide) o).2 (separable_of_parseWith toList_comma h)
  have hnormal : normalized text = .ok o.render := by rw [normalized, h, Except.map]
  refine ⟨hread, hnormal, ?_, renderWith_eq_iff toList_comma (by decide) h⟩
  rw [hnormal, Except.bind, normalized, hread, Except.map]

/-- A text with empty entries and a key that is given twice, and a tidy one whose keys and values are odd. -/
theorem normalForm_of_parse_both :
    let lossy := ",a=1,b=2,,a=3"
    let tidy := "b=x=1,=,a="
    (∃ o, parse lossy = .ok o ∧ normalized lossy = .ok o.render ∧ parse o.render = .ok o ∧ o.render ≠ lossy) ∧
      ∃ o, parse tidy = .ok o ∧ o.render = tidy := by
  intro lossy tidy
  have hlossy : parse lossy = .ok (ofPairs [("a", "3"), ("b", "2")]) := by decide +kernel
  have htidy : parse tidy = .ok (ofPairs [("b", "x=1"), ("", ""), ("a", "")]) := by decide +kernel
  obtain ⟨hread, hnormal, -, hfixed⟩ := normalForm_of_parse hlossy
  obtain ⟨-, -, -, hfixed'⟩ := normalForm_of_parse htidy
  refine ⟨⟨_, hlossy, hnormal, hread, fun h => ?_⟩, _, htidy, hfixed'.2 (.inr (by decide +kernel))⟩
  have huntidy : ¬ (lossy = "" ∨ IsTidy ',' lossy) := by decide +kernel
  exact huntidy (hfixed.1 h)

end AgentRelay.Options
