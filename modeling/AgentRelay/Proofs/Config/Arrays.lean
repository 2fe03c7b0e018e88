import AgentRelay.Proofs.Config.Flattening
import AgentRelay.Proofs.Selection.OptionValue
import AgentRelay.Proofs.Toml.Array

set_option autoImplicit false

/-!
# Arrays of patterns

An array of texts becomes one option, its items joined by semicolons, whatever else stands in the document
(`ofToml_of_array`).  A list of patterns is read from an option by cutting it at semicolons and commas.  The two fit
together: joined items hold the patterns of each item, in order, and the lists that are read back as they are, are
those whose patterns can be written in an option (`patterns_of_array`).
-/

namespace AgentRelay.Config

/-! ## Arrays in documents -/

/-- An array of texts is its items, joined. -/
theorem valueText_array (key : String) (texts : List String) :
    valueText key (.array (texts.map .string)) = .ok (itemSeparator.intercalate texts) :=
  (valueText_eq_ok_iff ..).2 (.array texts)

/-- The configuration that a text holds gives a key the joined texts. -/
def GivesJoined (text key : String) (texts : List String) : Prop :=
  ∃ config, ofToml text = .ok config ∧ config.options.get? key = some (itemSeparator.intercalate texts)

/-- The text of a document is refused because of the value of another key. -/
def RefusesOther (text key : String) (document : Toml.Document) : Prop :=
  ∃ entry ∈ document, entry.1 ≠ key ∧ ∃ fault, valueText entry.1 entry.2 = .error fault ∧ ofToml text = .error fault

/-- A document that holds an array of texts under a key gives the key the joined items, unless it is refused because of
another key. -/
theorem ofToml_of_array {text key : String} {texts : List String} {document : Toml.Document}
    (hparse : Toml.Document.parse text = some document) (hmem : (key, .array (texts.map .string)) ∈ document) :
    GivesJoined text key texts ∨ RefusesOther text key document := by
  cases houtcome : ofToml text with
  | ok config =>
    obtain ⟨-, hpairs⟩ := (ofToml_eq_ok_iff_of_parse hparse config).1 houtcome
    obtain ⟨⟨key', joined⟩, hpair, hkey, htext⟩ := exists_mem_of_forall₂ hpairs hmem
    obtain rfl : key' = key := hkey
    obtain rfl := Except.ok.inj ((valueText_array key' texts).symm.trans ((valueText_eq_ok_iff ..).2 htext))
    exact .inl ⟨config, houtcome, (Options.get?_eq_some_iff ..).2 hpair⟩
  | error fault =>
    obtain ⟨before, -, entry, after, hdocument, -, hrefused⟩ :=
      mapM_eq_error_iff.1 ((ofToml_eq_error_iff_of_parse hparse fault).1 houtcome)
    have hentry : entry ∈ document := by simp [hdocument]
    have hfault := (pairOf_eq_error_iff entry fault).1 hrefused
    refine .inr ⟨entry, hentry, fun hkey => ?_, fault, hfault, houtcome⟩
    -- the array itself is never refused
    have hentryEq : entry = (key, .array (texts.map .string)) :=
      List.inj_on_of_nodup_map (Toml.nodup_of_parse hparse) hentry hmem hkey
    rw [hentryEq, valueText_array] at hfault
    cases hfault

/-! ## Lists of patterns -/

/-- The separators of an option value. -/
def separators : List String := [itemSeparator, Options.comma]

theorem exists_isSeparator {separator : String} (h : separator ∈ separators) :
    ∃ c, separator.toList = [c] ∧ PatternList.isSeparator c = true := by
  simp only [separators, List.mem_cons, List.not_mem_nil, or_false] at h
  rcases h with rfl | rfl
  · exact ⟨';', rfl, rfl⟩
  · exact ⟨',', rfl, rfl⟩

/-- There is a document that holds texts as an array under a key and nothing else, and every such document gives the key
the joined texts.  So does every document that holds them among others, unless it is refused because of another key.
Joined by either separator the texts hold the patterns of each of them, in order.  All patterns that are read can be
written, and joined patterns are read back exactly when each of them can be. -/
theorem patterns_of_array (key : String) (texts : List String) :
    (∃ text : String, Toml.WritesArray key texts text.toList) ∧
      (∀ text : String, Toml.WritesArray key texts text.toList → GivesJoined text key texts) ∧
      (∀ (text : String) (document : Toml.Document), Toml.Document.parse text = some document →
        (key, .array (texts.map .string)) ∈ document → GivesJoined text key texts ∨ RefusesOther text key document) ∧
      (∀ separator ∈ separators, (PatternList.ofOption (separator.intercalate texts)).raws =
        texts.flatMap fun text => (PatternList.ofOption text).raws) ∧
      (∀ text, ∀ raw ∈ (PatternList.ofOption text).raws, PatternList.FitsOption raw) ∧
      ((PatternList.ofOption (itemSeparator.intercalate texts)).raws = texts ↔
        ∀ raw ∈ texts, PatternList.FitsOption raw) := by
  refine ⟨?_, ?_, ?_, ?_, ?_, ?_⟩
  · obtain ⟨document, hdocument⟩ := Toml.exists_writesArray key texts
    exact ⟨String.ofList document, by rwa [String.toList_ofList]⟩
  · intro text htext
    rcases ofToml_of_array (Toml.parse_of_writesArray htext) (.head _) with hgives | ⟨entry, hentry, hother, -⟩
    · exact hgives
    · exact absurd (congrArg Prod.fst (List.mem_singleton.1 hentry)) hother
  · intro text document hparse hmem
    exact ofToml_of_array hparse hmem
  · intro separator hseparator
    obtain ⟨c, htoList, hc⟩ := exists_isSeparator hseparator
    exact PatternList.raws_ofOption_intercalate htoList hc texts
  · intro text raw hraw
    exact PatternList.fitsOption_of_mem_ofOption hraw
  · exact PatternList.raws_ofOption_intercalate_eq_iff (c := ';') rfl rfl texts

/-- An array on two lines, with a comment and a comma behind its last item.  One item holds both separators and blanks at
its ends, one is empty, and one is a blank beyond ASCII. -/
theorem patterns_of_array_filter :
    let texts := [" com/acme ;!com/acme/gen,", "", "\u3000"]
    let document := "\"filter\" = [\" com/acme ;!com/acme/gen,\", '',\n '\u3000', # more\r\n]\n"
    Toml.WritesArray "filter" texts document.toList ∧ GivesJoined document "filter" texts ∧
      (PatternList.ofOption (itemSeparator.intercalate texts)).raws = ["com/acme", "!com/acme/gen"] := by
  intro texts document
  have hkey : Toml.SpellsKey "filter" ('"' :: ("filter".toList ++ ['"'])) :=
    .basic (Toml.spellsText_self (by decide))
  have hfirst : Toml.SpellsKey " com/acme ;!com/acme/gen," ('"' :: (" com/acme ;!com/acme/gen,".toList ++ ['"'])) :=
    .basic (Toml.spellsText_self (by decide))
  have hsecond : Toml.SpellsKey "" ('\'' :: ("".toList ++ ['\''])) := .literal rfl
  have hthird : Toml.SpellsKey "\u3000" ('\'' :: ("\u3000".toList ++ ['\''])) := .literal (by decide)
  have hblank : Toml.AllGaps [' '] := rfl
  have hspace : Toml.Spaces [' '] := .gap rfl .nil
  have hfold : Toml.Spaces (['\n'] ++ [' ']) := .lineEnd (.head _) hspace
  have hcomment : Toml.Spaces (' ' :: '#' :: (" more".toList ++ (['\r', '\n'] ++ []))) :=
    .gap rfl (.comment (by decide) (.tail _ (.head _)) .nil)
  have hwritten : Toml.WritesArray "filter" texts document.toList := by
    have hparts := Toml.WritesArray.line hkey hblank hblank (.items .nil (.cons hfirst .nil hspace
      (.cons hsecond .nil hfold (.lastComma hthird .nil hcomment)))) (show Toml.AllGaps [] from rfl) (.head _)
    refine Eq.subst (motive := Toml.WritesArray "filter" texts) ?_ hparts
    decide +kernel
  obtain ⟨-, hgives, -, hpatterns, -, -⟩ := patterns_of_array "filter" texts
  refine ⟨hwritten, hgives _ hwritten, ?_⟩
  rw [hpatterns itemSeparator (.head _)]
  decide

end AgentRelay.Config
