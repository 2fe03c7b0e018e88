import AgentRelay.Proofs.Options.Parse
import Mathlib.Data.Finset.Card

set_option autoImplicit false

/-!
# Options and their history

Options come about by setting one key, by setting all keys of other options, by collecting pairs and by reading a text.
`Built given o` says that `o` has come about in this way, and that `given` are the pairs that were given on it, in order.

Whatever the way, the options are the collected pairs (`Built.eq_ofPairs`).  So they hold each key that was given, at
the place where it was given first and with the value that was given last (`built_spec`).
-/

namespace AgentRelay.Options

/-! ## Histories -/

/-- The pairs that a text gives: those of its entries. -/
def pairsOf (delimiter mapDelimiter : String) (text : Option String) : List Pair :=
  match text with
  | none => []
  | some text => (entriesOf delimiter.toList text.toList).filterMap (parsePair mapDelimiter.toList)

/-- How options are built, and the pairs that are given on the way. -/
inductive Built : List Pair → Options → Prop where
  | empty : Built [] empty
  | insert {given : List Pair} {o : Options} (key value : String) :
      Built given o → Built (given ++ [(key, value)]) (o.insert key value)
  | merge {given given' : List Pair} {o other : Options} :
      Built given o → Built given' other → Built (given ++ given') (o.merge other)
  | ofPairs (pairs : List Pair) : Built pairs (ofPairs pairs)
  | parse {delimiter mapDelimiter : String} {text : Option String} {o : Options} :
      parseWith delimiter mapDelimiter text = .ok o → Built (pairsOf delimiter mapDelimiter text) o

variable {given : List Pair} {o other : Options}

/-- Reading a text collects its pairs. -/
theorem eq_ofPairs_of_parseWith {delimiter mapDelimiter : String} {text : Option String}
    (h : parseWith delimiter mapDelimiter text = .ok o) :
    o = Options.ofPairs (pairsOf delimiter mapDelimiter text) := by
  cases text with
  | none => exact (Except.ok.inj h).symm
  | some text =>
    obtain ⟨pairs, hpairs, rfl⟩ := (parseWith_eq_ok_iff ..).1 h
    have hread : (entriesOf delimiter.toList text.toList).filterMap (parsePair mapDelimiter.toList) = pairs := by
      calc _ = ((entriesOf delimiter.toList text.toList).map (parsePair mapDelimiter.toList)).filterMap id := by
            rw [List.filterMap_map, Function.id_comp]
        _ = pairs := by rw [hpairs, List.filterMap_map, Function.id_comp, List.filterMap_some]
    rw [pairsOf, hread]

/-- Whatever the way, the options are the collected pairs. -/
theorem Built.eq_ofPairs (h : Built given o) : o = Options.ofPairs given := by
  induction h with
  | empty => rfl
  | insert key value _ ih =>
    rw [ih, Options.ofPairs, Options.ofPairs, insertAll_append]
    rfl
  | merge _ _ ih ih' =>
    rw [ih, ih', merge_ofPairs, Options.ofPairs, Options.ofPairs, insertAll_append]
  | ofPairs pairs => rfl
  | parse h => exact eq_ofPairs_of_parseWith h

/-! ## What was given first and last -/

/-- Options hold the keys that were given, each at the place where it was given first and with the value that was given
last. -/
theorem built_spec (h : Built given o) :
    o.entries.map (fun entry => (entry.1, some entry.2)) =
      (given.map Prod.fst).eraseDups.map (fun key => (key, lastGiven? given key)) ∧
    o.keys.Nodup ∧
    (∀ key, o.get? key = lastGiven? given key) ∧
    (∀ key, o.get? key = none ↔ key ∉ given.map Prod.fst) ∧
    o.size = (given.map Prod.fst).toFinset.card := by
  have hkeys : o.keys = (given.map Prod.fst).eraseDups := by rw [h.eq_ofPairs, keys_ofPairs]
  have hget : ∀ key, o.get? key = lastGiven? given key := fun key => by rw [h.eq_ofPairs, get?_ofPairs]
  refine ⟨?_, o.distinct, hget, fun key => ?_, ?_⟩
  · rw [← hkeys, keys, List.map_map]
    apply List.map_congr_left
    intro entry hentry
    rw [Function.comp_apply, ← hget, (o.get?_eq_some_iff entry.1 entry.2).2 hentry]
  · rw [get?_eq_none_iff, hkeys, List.mem_eraseDups]
  · have hsame : o.keys.toFinset = (given.map Prod.fst).toFinset := by
      ext key
      rw [List.mem_toFinset, List.mem_toFinset, hkeys, List.mem_eraseDups]
    have hcard : o.keys.toFinset.card = o.keys.length := List.toFinset_card_of_nodup o.distinct
    rw [← hsame, hcard, keys, List.length_map, size]

/-- Read from a text, changed, and overridden by collected pairs. -/
theorem built_spec_every_way :
    ∃ o, Built [("a", "1"), ("b", "2"), ("a", "3"), ("c", "4"), ("b", "5")] o ∧
      o.get? "b" = some "5" ∧ o.get? "d" = none ∧ o.size = 3 := by
  have hparse : parseWith comma equalsSign (some "a=1,b=2") = .ok (.ofPairs [("a", "1"), ("b", "2")]) := by
    decide +kernel
  have hpairs : pairsOf comma equalsSign (some "a=1,b=2") = [("a", "1"), ("b", "2")] := by decide +kernel
  have hbuilt := ((hpairs ▸ Built.parse hparse).insert "a" "3").merge (.ofPairs [("c", "4"), ("b", "5")])
  obtain ⟨_, _, hget, hnone, hsize⟩ := built_spec hbuilt
  exact ⟨_, hbuilt, (hget "b").trans (by decide), (hnone "d").2 (by decide), hsize.trans (by decide)⟩

end AgentRelay.Options
