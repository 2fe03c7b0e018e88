import AgentRelay.Proofs.Options.Parse

set_option autoImplicit false

/-!
# Options that survive being written

Writing escapes nothing, so a delimiter inside a key or a value is read as a delimiter.  Options are *separable* when
they hold none.  Exactly these are read back as they were (`parseWith_renderWith_iff`).

The direction from left to right needs no look at how the pieces of a spoiled text fall together: whatever is read
is free of delimiters, so it cannot equal options that are not.
-/

namespace AgentRelay.Options

/-- No key holds the delimiter between pairs or the one between key and value, and no value holds the first. -/
def Separable (o : Options) (delimiter : Char) : Prop :=
  ∀ entry ∈ o.entries, delimiter ∉ entry.1.toList ∧ '=' ∉ entry.1.toList ∧ delimiter ∉ entry.2.toList

instance (o : Options) (delimiter : Char) : Decidable (o.Separable delimiter) :=
  inferInstanceAs (Decidable (∀ entry ∈ o.entries, _))

/-- Options that were read with a delimiter of one letter are separable. -/
theorem separable_of_parseWith {delimiter text : String} {c : Char} {o : Options} (hc : delimiter.toList = [c])
    (h : parseWith delimiter equalsSign (some text) = .ok o) : o.Separable c := by
  intro entry hentry
  obtain ⟨hfree, hkey⟩ := not_infix_of_parseWith h hentry
  rw [hc, List.singleton_infix_iff, List.singleton_infix_iff] at hfree
  rw [toList_equalsSign, List.singleton_infix_iff] at hkey
  obtain ⟨hk, hv⟩ := hfree (List.cons_ne_nil c [])
  exact ⟨hk, hkey (List.cons_ne_nil '=' []), hv⟩

/-! ## Writing and reading one pair -/

/-- An entry holds the pair that is written so, unless the key itself holds the sign between key and value. -/
theorem parsePair_eq_some_iff_renderPair (entry : List Char) (pair : Pair) :
    parsePair equalsSign.toList entry = some pair ↔ '=' ∉ pair.1.toList ∧ entry = renderPair pair := by
  rw [parsePair_eq_some_iff, Split.cut?_eq_some_iff, renderPair, toList_equalsSign, Split.firstCut_singleton_iff,
    List.append_assoc, List.singleton_append]

theorem renderPair_ne_nil (pair : Pair) : renderPair pair ≠ [] := by
  simp [renderPair, toList_equalsSign]

theorem notMem_renderPair {pair : Pair} {c : Char} (hc : c ≠ '=') (hkey : c ∉ pair.1.toList)
    (hvalue : c ∉ pair.2.toList) : c ∉ renderPair pair := by
  simp [renderPair, toList_equalsSign, hc, hkey, hvalue]

/-! ## Writing and reading all pairs -/

/-- Written options that are separable come apart into the written pairs. -/
theorem splitOn_renderWith {delimiter : String} {c : Char} {o : Options} (hd : delimiter.toList = [c])
    (hc : c ≠ '=') (h : o.Separable c) (hne : o.entries ≠ []) :
    (o.renderWith delimiter).toList.splitOn c = o.entries.map renderPair := by
  have hfree : ∀ part ∈ o.entries.map renderPair, c ∉ part := by
    intro part hpart
    obtain ⟨entry, hentry, rfl⟩ := List.mem_map.1 hpart
    obtain ⟨hkey, _, hvalue⟩ := h entry hentry
    exact notMem_renderPair hc hkey hvalue
  rw [renderWith, String.toList_ofList, hd, List.splitOn_intercalate c hfree (by simpa using hne)]

/-- The entries of written options are the written pairs. -/
theorem entriesOf_renderWith {delimiter : String} {c : Char} {o : Options} (hd : delimiter.toList = [c])
    (hc : c ≠ '=') (h : o.Separable c) :
    entriesOf delimiter.toList (o.renderWith delimiter).toList = o.entries.map renderPair := by
  by_cases hempty : o.entries = []
  · simp [renderWith, hempty]
  · rw [entriesOf, hd, Split.pieces_singleton, splitOn_renderWith hd hc h hempty, List.filter_eq_self]
    intro part hpart
    obtain ⟨entry, _, rfl⟩ := List.mem_map.1 hpart
    simpa using renderPair_ne_nil entry

/-- Exactly the separable options are read back as they were written. -/
theorem parseWith_renderWith_iff {delimiter : String} {c : Char} (hd : delimiter.toList = [c]) (hc : c ≠ '=')
    (o : Options) :
    parseWith delimiter equalsSign (some (o.renderWith delimiter)) = .ok o ↔ o.Separable c := by
  constructor
  · exact separable_of_parseWith hd
  · intro h
    rw [parseWith_eq_ok_iff]
    refine ⟨o.entries, ?_, o.ofPairs_entries.symm⟩
    rw [entriesOf_renderWith hd hc h, List.map_map]
    apply List.map_congr_left
    intro entry hentry
    exact (parsePair_eq_some_iff_renderPair ..).2 ⟨(h entry hentry).2.1, rfl⟩

/-- Options are read back from an option string exactly when no key holds a comma or an equals sign and no value holds a
comma, and from lines exactly when the same can be said of line feeds.  Nothing is asked of empty keys and values. -/
theorem read_back_iff (o : Options) :
    (parse o.render = .ok o ↔
      ∀ entry ∈ o.entries, ',' ∉ entry.1.toList ∧ '=' ∉ entry.1.toList ∧ ',' ∉ entry.2.toList) ∧
    (parseLines (o.renderWith lineFeed) = .ok o ↔
      ∀ entry ∈ o.entries, '\n' ∉ entry.1.toList ∧ '=' ∉ entry.1.toList ∧ '\n' ∉ entry.2.toList) := by
  have hcomma : comma.toList = [','] := rfl
  have hlineFeed : lineFeed.toList = ['\n'] := rfl
  constructor
  · exact parseWith_renderWith_iff hcomma (by decide) o
  · exact parseWith_renderWith_iff hlineFeed (by decide) o

example : parse (ofPairs [("", ""), ("key", "")]).render = .ok (ofPairs [("", ""), ("key", "")]) := by
  decide +kernel

end AgentRelay.Options
