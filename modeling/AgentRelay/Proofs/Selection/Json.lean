import AgentRelay.Proofs.Json.Spelling
import AgentRelay.Selection

set_option autoImplicit false

/-!
# Lists of patterns in JSON

A list of patterns is written as an array of strings, with nothing around it.  The array holds the patterns as they
were given, the empty ones and the repeated ones too, so that nothing is lost that an option value would lose.
-/

namespace AgentRelay.PatternList

/-- A document is read as a list of patterns exactly when it is an array of these patterns. -/
theorem ofJson?_eq_some_iff (document : String) (l : PatternList) :
    ofJson? document = some l ↔ Json.SpellsDocument l.raws document.toList := by
  rw [← Json.strings?_eq_some_iff, ofJson?, Option.map_eq_some_iff]
  constructor
  · rintro ⟨raws, hraws, rfl⟩
    exact hraws
  · intro hraws
    exact ⟨l.raws, hraws, rfl⟩

/-- What is written of a list of patterns, however it was made and whatever characters the patterns hold, is a JSON
array of these patterns.  Of all documents precisely those that are such an array are read as the list, and what was
written is one of them.  So the list that is read selects the same names at the same offsets. -/
theorem survives_json (l : PatternList) :
    Json.SpellsArray l.raws l.toJson.toList ∧
    (∀ document, ofJson? document = some l ↔ Json.SpellsDocument l.raws document.toList) ∧
    ofJson? l.toJson = some l ∧
    ∀ name offset,
      (ofJson? l.toJson).map (fun read => read.selectsAt name offset) = some (l.selectsAt name offset) := by
  have hread : ofJson? l.toJson = some l := by rw [ofJson?, toJson, Json.strings?_quoteAll, Option.map_some]
  refine ⟨Json.spellsArray_quoteAll l.raws, fun document => ofJson?_eq_some_iff document l, hread,
    fun name offset => ?_⟩
  rw [hread, Option.map_some]

example : toJson ⟨["", "!a\"", "!a\"", "\\\n\x01"]⟩ = "[\"\",\"!a\\\"\",\"!a\\\"\",\"\\\\\\n\\u0001\"]" := by
  decide

end AgentRelay.PatternList
