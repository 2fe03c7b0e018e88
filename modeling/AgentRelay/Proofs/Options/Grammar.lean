import AgentRelay.Proofs.Options.Parse

set_option autoImplicit false

/-!
# The grammar of option texts

What a text of options is can be said without its reader.  The text is cut into pieces at the leftmost occurrences of
one delimiter that do not overlap, the empty pieces are dropped, and each of the others is cut at the first occurrence of
another delimiter.  `parseWith_spec` says that the reader accepts exactly these texts and what it makes of them, for
delimiters of every length.

Two delimiters are degenerate.  If the one between pairs is empty, every character is a piece.  If the one between key
and value is empty, every piece is the value of the empty key.

For a delimiter of one letter reading turns concatenation into merging: two texts with the delimiter between them hold
what both hold, and the second one wins (`reads_joined`).
-/

namespace AgentRelay.Options

/-! ## Pieces and pairs -/

/-- The pieces of a text.  The empty delimiter stands at every place and leaves the characters one by one. -/
def CutInto (delimiter text : List Char) (pieces : List (List Char)) : Prop :=
  if delimiter = [] then pieces = text.map fun c => [c] else Split.CutsInto delimiter text pieces

/-- The pair of an entry: what stands before the first map delimiter in it, and what stands after that. -/
def Holds (mapDelimiter entry : List Char) (pair : Pair) : Prop :=
  Split.FirstCut mapDelimiter entry pair.1.toList pair.2.toList

theorem exists_cutInto (delimiter text : List Char) : ∃ pieces, CutInto delimiter text pieces := by
  by_cases hd : delimiter = []
  · exact ⟨_, (if_pos hd).mpr rfl⟩
  · exact ⟨_, (if_neg hd).mpr (Split.cutsInto_pieces hd text)⟩

/-- The entries are the pieces that are not empty. -/
theorem entriesOf_eq_filter {delimiter text : List Char} {pieces : List (List Char)}
    (h : CutInto delimiter text pieces) : entriesOf delimiter text = pieces.filter (· ≠ []) := by
  rw [CutInto] at h
  split at h
  · next hd =>
    rw [entriesOf, hd, Split.pieces_empty, h]
    simp
  · next hd => rw [entriesOf, (Split.cutsInto_iff hd text pieces).1 h]

theorem parsePair_eq_some_iff_holds (mapDelimiter entry : List Char) (pair : Pair) :
    parsePair mapDelimiter entry = some pair ↔ Holds mapDelimiter entry pair := by
  rw [parsePair_eq_some_iff, Split.cut?_eq_some_iff, Holds]

/-- All entries are read, each as the pair that it holds. -/
theorem map_parsePair_eq_iff (mapDelimiter : List Char) (entries : List (List Char)) (pairs : List Pair) :
    entries.map (parsePair mapDelimiter) = pairs.map some ↔ List.Forall₂ (Holds mapDelimiter) entries pairs := by
  rw [← forall₂_map_map_eq_iff]
  simp only [parsePair_eq_some_iff_holds]

/-! ## Degenerate delimiters -/

/-- The empty map delimiter leaves nothing for the key. -/
theorem holds_nil_iff (entry : List Char) (pair : Pair) : Holds [] entry pair ↔ pair = ("", String.ofList entry) := by
  obtain ⟨key, value⟩ := pair
  rw [Holds, Split.firstCut_nil_iff, Prod.mk.injEq, String.toList_eq_nil_iff, ← @String.toList_inj value,
    String.toList_ofList]

theorem eq_map_of_forall₂_holds_nil {entries : List (List Char)} {pairs : List Pair}
    (h : List.Forall₂ (Holds []) entries pairs) : pairs = (entries.map String.ofList).map (Prod.mk "") := by
  induction h with
  | nil => rfl
  | cons hpair _ ih => rw [(holds_nil_iff _ _).1 hpair, ih, List.map_cons, List.map_cons]

/-- Of values that are all given to one key the last one stays. -/
theorem entries_ofPairs_of_one_key (key : String) (values : List String) :
    (ofPairs (values.map (Prod.mk key))).entries = (values.getLast?.map (Prod.mk key)).toList := by
  induction values using List.reverseRecOn with
  | nil => rfl
  | append_singleton values value ih =>
    rw [List.map_append, ofPairs, insertAll_append, List.getLast?_concat]
    change put key value (ofPairs (values.map (Prod.mk key))).entries = [(key, value)]
    rw [ih]
    cases values.getLast? with
    | none => rfl
    | some last => exact if_pos rfl

/-! ## What the reader accepts -/

/-- No text and the empty text hold no options.  Every text can be cut into pieces; it is refused exactly when one of
them is neither empty nor holds the map delimiter, and then the whole text is named.  Otherwise it holds what the pieces
give in order, free of the delimiters.  With an empty map delimiter this is at most the empty key with the last piece,
and with an empty delimiter between pairs every character of the text is the map delimiter. -/
theorem parseWith_spec (delimiter mapDelimiter text : String) :
    parseWith delimiter mapDelimiter none = .ok empty ∧
    parseWith delimiter mapDelimiter (some "") = .ok empty ∧
    (∃ pieces, CutInto delimiter.toList text.toList pieces) ∧
    ∀ pieces, CutInto delimiter.toList text.toList pieces →
      ((∃ fault, parseWith delimiter mapDelimiter (some text) = .error fault) ↔
        ∃ piece ∈ pieces, piece ≠ [] ∧ ¬ mapDelimiter.toList <:+: piece) ∧
      (∀ fault, parseWith delimiter mapDelimiter (some text) = .error fault → fault = .malformedOptions text) ∧
      ∀ o, parseWith delimiter mapDelimiter (some text) = .ok o →
        (∃ pairs : List Pair, List.Forall₂ (Holds mapDelimiter.toList) (pieces.filter (· ≠ [])) pairs ∧
          o = ofPairs pairs) ∧
        (∀ entry ∈ o.entries,
          (mapDelimiter ≠ "" → ¬ mapDelimiter.toList <:+: entry.1.toList) ∧
          (delimiter ≠ "" → ¬ delimiter.toList <:+: entry.1.toList ∧ ¬ delimiter.toList <:+: entry.2.toList)) ∧
        (mapDelimiter = "" → o.entries =
          ((pieces.filter (· ≠ [])).getLast?.map fun last => ("", String.ofList last)).toList) ∧
        (delimiter = "" → mapDelimiter ≠ "" → ∀ c ∈ text.toList, mapDelimiter.toList = [c]) := by
  refine ⟨rfl, rfl, exists_cutInto _ _, fun pieces hpieces => ?_⟩
  have hentries := entriesOf_eq_filter hpieces
  have hrefused := parseWith_eq_error_iff delimiter mapDelimiter text
  rw [hentries] at hrefused
  refine ⟨?_, fun fault h => ((hrefused fault).1 h).2, fun o h => ?_⟩
  · simp [hrefused, and_assoc]
  · obtain ⟨pairs, hpairs, rfl⟩ := (parseWith_eq_ok_iff ..).1 h
    rw [hentries, map_parsePair_eq_iff] at hpairs
    refine ⟨⟨pairs, hpairs, rfl⟩, fun entry hentry => ?_, ?_, ?_⟩
    · obtain ⟨hfree, hkey⟩ := not_infix_of_parseWith h hentry
      exact ⟨fun hm => hkey (mt String.toList_eq_nil_iff.1 hm), fun hd => hfree (mt String.toList_eq_nil_iff.1 hd)⟩
    · rintro rfl
      rw [eq_map_of_forall₂_holds_nil hpairs, entries_ofPairs_of_one_key, List.getLast?_map, Option.map_map]
      rfl
    · rintro rfl hm c hc
      obtain rfl : pieces = text.toList.map fun c => [c] := hpieces
      have hpiece : [c] ∈ (text.toList.map fun c => [c]).filter (· ≠ []) :=
        List.mem_filter.2 ⟨List.mem_map_of_mem hc, rfl⟩
      have hin : mapDelimiter.toList <:+: [c] := by
        by_contra hnot
        cases h.symm.trans ((hrefused _).2 ⟨⟨[c], hpiece, hnot⟩, rfl⟩)
      exact (List.sublist_singleton.1 hin.sublist).resolve_left (mt String.toList_eq_nil_iff.1 hm)

/-- A delimiter of two characters that overlaps with itself, and an empty piece. -/
example : parseWith "aa" "->" (some "aax->1aaay->2aa") = .ok (ofPairs [("x", "1"), ("ay", "2")]) := by
  decide +kernel

/-! ## Texts with a delimiter between them -/

/-- Two texts with a delimiter of one letter between them hold what both hold. -/
theorem parseWith_append_eq_ok_iff {delimiter : String} {c : Char} (hd : delimiter.toList = [c])
    (mapDelimiter a b : String) (o : Options) :
    parseWith delimiter mapDelimiter (some (a ++ delimiter ++ b)) = .ok o ↔
      ∃ first second, parseWith delimiter mapDelimiter (some a) = .ok first ∧
        parseWith delimiter mapDelimiter (some b) = .ok second ∧ o = first.merge second := by
  have hentries : entriesOf delimiter.toList (a ++ delimiter ++ b).toList =
      entriesOf delimiter.toList a.toList ++ entriesOf delimiter.toList b.toList := by
    rw [String.toList_append, String.toList_append, hd, List.append_assoc, List.singleton_append,
      entriesOf_append_cons]
  simp only [parseWith_eq_ok_iff, hentries, List.map_append]
  constructor
  · rintro ⟨pairs, hpairs, rfl⟩
    obtain ⟨first, second, rfl, hfirst, hsecond⟩ := List.map_eq_append_iff.1 hpairs.symm
    exact ⟨_, _, ⟨first, hfirst.symm, rfl⟩, ⟨second, hsecond.symm, rfl⟩, ofPairs_append first second⟩
  · rintro ⟨_, _, ⟨first, hfirst, rfl⟩, ⟨second, hsecond, rfl⟩, rfl⟩
    exact ⟨first ++ second, by rw [hfirst, hsecond, List.map_append], (ofPairs_append first second).symm⟩

/-- Reading turns texts with the delimiter between them into merged options.  It succeeds when both texts can be read,
and names the whole text when one of them cannot. -/
structure ReadsJoined (read : String → Except Fault Options) (delimiter : String) : Prop where
  succeeds_iff : ∀ a b : String,
    (∃ o, read (a ++ delimiter ++ b) = .ok o) ↔ (∃ first, read a = .ok first) ∧ ∃ second, read b = .ok second
  merges : ∀ (a b : String) (first second : Options), read a = .ok first → read b = .ok second →
    read (a ++ delimiter ++ b) = .ok (first.merge second)
  refuses : ∀ (a b : String) (fault : Fault), read (a ++ delimiter ++ b) = .error fault →
    fault = .malformedOptions (a ++ delimiter ++ b)

theorem readsJoined_parseWith {delimiter : String} {c : Char} (hd : delimiter.toList = [c]) (mapDelimiter : String) :
    ReadsJoined (fun text => parseWith delimiter mapDelimiter (some text)) delimiter where
  succeeds_iff a b := by
    simp only [parseWith_append_eq_ok_iff hd]
    constructor
    · rintro ⟨_, first, second, hfirst, hsecond, -⟩
      exact ⟨⟨first, hfirst⟩, ⟨second, hsecond⟩⟩
    · rintro ⟨⟨first, hfirst⟩, ⟨second, hsecond⟩⟩
      exact ⟨_, first, second, hfirst, hsecond, rfl⟩
  merges a b first second hfirst hsecond :=
    (parseWith_append_eq_ok_iff hd mapDelimiter a b _).2 ⟨first, second, hfirst, hsecond, rfl⟩
  refuses a b fault h := ((parseWith_eq_error_iff ..).1 h).2

/-- Option strings with a comma between them, and lines with a line feed between them, hold the merged options of
both. -/
theorem reads_joined : ReadsJoined parse "," ∧ ReadsJoined parseLines "\n" := by
  constructor
  · exact readsJoined_parseWith toList_comma equalsSign
  · exact readsJoined_parseWith toList_lineFeed equalsSign

example : parse ",a=1,b=2,,a=3" = .ok (ofPairs [("a", "3"), ("b", "2")]) := by decide +kernel

end AgentRelay.Options
