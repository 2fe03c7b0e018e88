import AgentRelay.Config
import AgentRelay.Proofs.Options.Lookup
import AgentRelay.Proofs.Toml.Order
import AgentRelay.Proofs.Traversal
import AgentRelay.Proofs.Utf8.Order

set_option autoImplicit false

/-!
# From documents to options

A value becomes an option if it is a text, a number, a truth value or an array of texts.  `HasText` is the text of such
a value, and `Offends` what is said of another one.  The text of a float leads back to it (`Toml.floatOf_text`).

A document becomes options key by key, in the order of its keys, until a value cannot be an option.  So the text of a
document is refused because of the first such key in the order of bytes, and otherwise every key becomes an option.
Neither the order in which the document lists its keys nor the order of keys anywhere below them matters
(`ofToml_of_document`).
-/

namespace AgentRelay.Config

/-! ## Values -/

/-- The values that can be an option. -/
def Flattens : Toml.Value → Prop
  | .string _ | .integer _ | .float _ | .boolean _ => True
  | .array items => ∀ item ∈ items, item.kind = .string
  | .datetime _ | .table _ => False

instance : DecidablePred Flattens
  | .string _ | .integer _ | .float _ | .boolean _ => .isTrue trivial
  | .array items => inferInstanceAs (Decidable (∀ item ∈ items, item.kind = .string))
  | .datetime _ | .table _ => .isFalse id

/-- The text of a value that can be an option. -/
inductive HasText : Toml.Value → String → Prop where
  | string (text : String) : HasText (.string text) text
  | integer (n : Int) : HasText (.integer n) (toString n)
  | float (x : Binary64) : HasText (.float x) x.text
  | true : HasText (.boolean true) "true"
  | false : HasText (.boolean false) "false"
  | array (texts : List String) : HasText (.array (texts.map .string)) (itemSeparator.intercalate texts)

/-- The wording for the value of a key that cannot be an option.  Of an array it names the first item that is not a
text. -/
inductive Offends (key : String) : Toml.Value → String → Prop where
  | datetime (written : String) :
      Offends key (.datetime written) ("Unsupported value for '" ++ key ++ "': datetime")
  | table (entries : List (String × Toml.Value)) :
      Offends key (.table entries) ("Unsupported value for '" ++ key ++ "': table")
  | array (texts : List String) {item : Toml.Value} (rest : List Toml.Value) : item.kind ≠ .string →
      Offends key (.array (texts.map .string ++ item :: rest))
        ("Array '" ++ key ++ "' must contain only strings, found " ++ item.kind.name)

theorem itemText_eq_ok_iff (key : String) (item : Toml.Value) (text : String) :
    itemText key item = .ok text ↔ item = .string text := by
  cases item <;> simp [itemText]

theorem itemText_eq_error_iff (key : String) (item : Toml.Value) (fault : Fault) :
    itemText key item = .error fault ↔ item.kind ≠ .string ∧ fault = .config (.mixedArray key item.kind) := by
  cases item <;> simp [itemText, Toml.Value.kind, eq_comm]

/-- The items of an array have a text each exactly when they are texts. -/
theorem mapM_itemText_eq_ok_iff (key : String) (items : List Toml.Value) (texts : List String) :
    items.mapM (itemText key) = .ok texts ↔ items = texts.map .string :=
  mapM_eq_ok_iff_eq_map (itemText_eq_ok_iff key)

/-- A value is read as its text. -/
theorem valueText_eq_ok_iff (key : String) (v : Toml.Value) (text : String) :
    valueText key v = .ok text ↔ HasText v text := by
  constructor
  · intro h
    cases v with
    | string s =>
      obtain rfl := Except.ok.inj h
      exact .string s
    | integer n =>
      obtain rfl := Except.ok.inj h
      exact .integer n
    | float x =>
      obtain rfl := Except.ok.inj h
      exact .float x
    | boolean b =>
      obtain rfl := Except.ok.inj h
      cases b with
      | true => exact .true
      | false => exact .false
    | datetime written => cases h
    | array items =>
      obtain ⟨texts, htexts, rfl⟩ := (map_eq_ok_iff ..).1 h
      obtain rfl := (mapM_itemText_eq_ok_iff ..).1 htexts
      exact .array texts
    | table entries => cases h
  · intro h
    cases h with
    | array texts => exact (map_eq_ok_iff ..).2 ⟨texts, (mapM_itemText_eq_ok_iff ..).2 rfl, rfl⟩
    | _ => rfl

theorem message_unsupported (key : String) (found : Toml.Kind) :
    (ConfigFault.unsupported key found).message = "Unsupported value for '" ++ key ++ ("': " ++ found.name) :=
  String.append_assoc

/-- A value that has no text is refused, and the wording says why. -/
theorem offends_of_valueText {key : String} {v : Toml.Value} {fault : Fault} (h : valueText key v = .error fault) :
    ∃ cause, fault = .config cause ∧ Offends key v cause.message := by
  cases v with
  | datetime written =>
    obtain rfl := Except.error.inj h
    exact ⟨_, rfl, message_unsupported key .datetime ▸ .datetime written⟩
  | table entries =>
    obtain rfl := Except.error.inj h
    exact ⟨_, rfl, message_unsupported key .table ▸ .table entries⟩
  | array items =>
    obtain ⟨before, texts, item, after, rfl, htexts, hitem⟩ := mapM_eq_error_iff.1 ((map_eq_error_iff ..).1 h)
    obtain rfl := (mapM_itemText_eq_ok_iff ..).1 htexts
    obtain ⟨hkind, rfl⟩ := (itemText_eq_error_iff ..).1 hitem
    exact ⟨_, rfl, .array texts after hkind⟩
  | string | integer | float | boolean => cases h

/-- A value with a wording is refused with it, so there is only one. -/
theorem valueText_of_offends {key message : String} {v : Toml.Value} (h : Offends key v message) :
    ∃ cause, valueText key v = .error (.config cause) ∧ cause.message = message := by
  cases h with
  | datetime written => exact ⟨_, rfl, message_unsupported key .datetime⟩
  | table entries => exact ⟨_, rfl, message_unsupported key .table⟩
  | @array texts item rest hkind =>
    have hread : (texts.map Toml.Value.string ++ item :: rest).mapM (itemText key) =
        .error (.config (.mixedArray key item.kind)) :=
      mapM_eq_error_iff.2 ⟨_, texts, item, rest, rfl, (mapM_itemText_eq_ok_iff ..).2 rfl,
        (itemText_eq_error_iff ..).2 ⟨hkind, rfl⟩⟩
    exact ⟨_, (map_eq_error_iff ..).2 hread, rfl⟩

theorem flattens_of_hasText {v : Toml.Value} {text : String} (h : HasText v text) : Flattens v := by
  cases h with
  | array texts => simp [Flattens, Toml.Value.kind]
  | _ => trivial

theorem not_flattens_of_offends {key message : String} {v : Toml.Value} (h : Offends key v message) : ¬Flattens v := by
  cases h with
  | datetime | table => exact id
  | array texts rest hkind => exact fun h => hkind (h _ (by simp))

/-! ## Documents -/

/-- The pairs that a document becomes: its keys in order, each with the text of its value. -/
def BecomesPairs (document : Toml.Document) (pairs : List Pair) : Prop :=
  List.Forall₂ (fun entry pair => pair.1 = entry.1 ∧ HasText entry.2 pair.2) document pairs

/-- The key that comes first, in the order of bytes, among those whose value cannot be an option. -/
structure IsLeastOffender (document : Toml.Document) (entry : String × Toml.Value) : Prop where
  mem : entry ∈ document
  offends : ¬Flattens entry.2
  least : ∀ other ∈ document, ¬Flattens other.2 → Utf8.encode entry.1 ≤ Utf8.encode other.1

/-- A pair is a key with the text of its value. -/
theorem pairOf_eq_ok_iff (entry : String × Toml.Value) (pair : Pair) :
    pairOf entry = .ok pair ↔ pair.1 = entry.1 ∧ HasText entry.2 pair.2 := by
  rw [pairOf, map_eq_ok_iff]
  simp only [valueText_eq_ok_iff]
  constructor
  · rintro ⟨text, htext, rfl⟩
    exact ⟨rfl, htext⟩
  · rintro ⟨hkey, htext⟩
    exact ⟨pair.2, htext, Prod.ext hkey.symm rfl⟩

/-- No pair is made where the value has no text. -/
theorem pairOf_eq_error_iff (entry : String × Toml.Value) (fault : Fault) :
    pairOf entry = .error fault ↔ valueText entry.1 entry.2 = .error fault := by
  rw [pairOf, map_eq_error_iff]

theorem mapM_pairOf_eq_ok_iff (document : Toml.Document) (pairs : List Pair) :
    document.mapM pairOf = .ok pairs ↔ BecomesPairs document pairs := by
  simp only [mapM_eq_ok_iff, pairOf_eq_ok_iff, BecomesPairs]

theorem BecomesPairs.keys_eq {document : Toml.Document} {pairs : List Pair} (h : BecomesPairs document pairs) :
    pairs.map Prod.fst = document.map Prod.fst := by
  induction h with
  | nil => rfl
  | cons hpair _ ih => exact congrArg₂ List.cons hpair.1 ih

theorem BecomesPairs.flattens {document : Toml.Document} {pairs : List Pair} (h : BecomesPairs document pairs) :
    ∀ entry ∈ document, Flattens entry.2 := by
  intro entry hentry
  obtain ⟨pair, -, -, htext⟩ := exists_mem_of_forall₂ h hentry
  exact flattens_of_hasText htext

/-- Of a sorted document the least offender is named. -/
theorem exists_leastOffender {document : Toml.Document} {fault : Fault}
    (hsorted : document.Pairwise fun a b => Utf8.encode a.1 < Utf8.encode b.1)
    (h : document.mapM pairOf = .error fault) :
    ∃ entry cause, IsLeastOffender document entry ∧ fault = .config cause ∧ Offends entry.1 entry.2 cause.message := by
  obtain ⟨before, pairs, entry, after, rfl, hbefore, hentry⟩ := mapM_eq_error_iff.1 h
  obtain ⟨cause, rfl, hoffends⟩ := offends_of_valueText ((pairOf_eq_error_iff ..).1 hentry)
  have hflattens := ((mapM_pairOf_eq_ok_iff ..).1 hbefore).flattens
  have hafter := (List.pairwise_cons.1 (List.pairwise_append.1 hsorted).2.1).1
  refine ⟨entry, cause, ⟨by simp, not_flattens_of_offends hoffends, fun other hother hnot => ?_⟩, rfl, hoffends⟩
  rcases List.mem_append.1 hother with hother | hother
  · exact absurd (hflattens other hother) hnot
  · rcases List.mem_cons.1 hother with rfl | hother
    · exact List.le_refl _
    · exact List.le_of_lt (hafter other hother)

/-- A text that holds a document is read as the options of the pairs. -/
theorem ofToml_of_parse {text : String} {document : Toml.Document} (h : Toml.Document.parse text = some document) :
    ofToml text = (document.mapM pairOf).map fun pairs => ⟨none, Options.ofPairs pairs⟩ := by
  rw [ofToml, h]
  change ((document.mapM pairOf).map Options.ofPairs).map _ = _
  cases document.mapM pairOf with
  | ok pairs => rfl
  | error fault => rfl

theorem ofToml_eq_ok_iff_of_parse {text : String} {document : Toml.Document}
    (h : Toml.Document.parse text = some document) (config : Config) :
    ofToml text = .ok config ↔ config.source = none ∧ BecomesPairs document config.options.entries := by
  rw [ofToml_of_parse h, map_eq_ok_iff]
  simp only [mapM_pairOf_eq_ok_iff]
  constructor
  · rintro ⟨pairs, hpairs, rfl⟩
    rw [Options.entries_ofPairs (hpairs.keys_eq ▸ Toml.nodup_of_parse h)]
    exact ⟨rfl, hpairs⟩
  · obtain ⟨source, options⟩ := config
    rintro ⟨rfl, hpairs⟩
    exact ⟨_, hpairs, by rw [Options.ofPairs_entries]⟩

theorem ofToml_eq_error_iff_of_parse {text : String} {document : Toml.Document}
    (h : Toml.Document.parse text = some document) (fault : Fault) :
    ofToml text = .error fault ↔ document.mapM pairOf = .error fault := by
  rw [ofToml_of_parse h, map_eq_error_iff]

/-! ## The order of keys -/

/-- Values that differ at most in the order of keys, in tables at any depth. -/
inductive SameUpToOrder : Toml.Value → Toml.Value → Prop where
  | refl (v : Toml.Value) : SameUpToOrder v v
  | array {items items' : List Toml.Value} : List.Forall₂ SameUpToOrder items items' →
      SameUpToOrder (.array items) (.array items')
  | table {entries reordered entries' : List (String × Toml.Value)} : entries.Perm reordered →
      reordered.map Prod.fst = entries'.map Prod.fst →
      List.Forall₂ SameUpToOrder (reordered.map Prod.snd) (entries'.map Prod.snd) →
      SameUpToOrder (.table entries) (.table entries')

theorem SameUpToOrder.itemText_eq {v v' : Toml.Value} (h : SameUpToOrder v v') (key : String) :
    itemText key v = itemText key v' := by
  cases h <;> rfl

/-- The order of keys below a key does not matter. -/
theorem SameUpToOrder.valueText_eq {v v' : Toml.Value} (h : SameUpToOrder v v') (key : String) :
    valueText key v = valueText key v' := by
  cases h with
  | refl | table => rfl
  | array hitems =>
    rw [valueText, valueText, mapM_congr_of_forall₂ (hitems.imp fun _ _ hitem => hitem.itemText_eq key)]

/-- Sorted documents that differ at most in the order of keys become the same pairs, or are refused alike. -/
theorem SameUpToOrder.mapM_pairOf_eq {document document' : Toml.Document}
    (h : SameUpToOrder (.table document) (.table document'))
    (hsorted : document.Pairwise fun a b => a.1 < b.1) (hsorted' : document'.Pairwise fun a b => a.1 < b.1) :
    document.mapM pairOf = document'.mapM pairOf := by
  cases h with
  | refl => rfl
  | @table _ reordered _ hperm hkeys hvalues =>
    -- the reordered entries are sorted as well, so they are in the order of the document
    have hsortedKeys := List.pairwise_map.2 hsorted'
    rw [← hkeys, List.pairwise_map] at hsortedKeys
    obtain rfl : document = reordered :=
      hperm.eq_of_pairwise (fun _ _ _ _ hlt hgt => absurd hgt (lt_asymm hlt)) hsorted hsortedKeys
    rw [← forall₂_map_map_eq_iff] at hkeys
    rw [List.forall₂_map_left_iff, List.forall₂_map_right_iff] at hvalues
    refine mapM_congr_of_forall₂ (.mp (fun entry entry' hkey hvalue => ?_) hkeys hvalues)
    rw [pairOf, pairOf, hkey, hvalue.valueText_eq]

/-- A text that holds a document is read if and only if each value of the document can be an option, and then the options
are the keys of the document in the order of their bytes, each with the text of its value.  Otherwise the fault names the
least key whose value cannot be an option, and what this value is.  The text can be rearranged, and is then read alike;
so is any text whose document differs at most in the order of keys. -/
theorem ofToml_of_document {text : String} {document : Toml.Document}
    (h : Toml.Document.parse text = some document) :
    document.Pairwise (fun a b => Utf8.encode a.1 < Utf8.encode b.1) ∧
      ((∃ config, ofToml text = .ok config) ↔ ∀ entry ∈ document, Flattens entry.2) ∧
      (∀ config, ofToml text = .ok config ↔ config.source = none ∧ BecomesPairs document config.options.entries) ∧
      (∀ fault, ofToml text = .error fault → ∃ entry cause,
        IsLeastOffender document entry ∧ fault = .config cause ∧ Offends entry.1 entry.2 cause.message) ∧
      (∃ layout : Toml.Layout, Toml.statements text = some layout.statements) ∧
      (∀ text', Toml.Rearranged text text' → ofToml text' = ofToml text) ∧
      ∀ text' document', Toml.Document.parse text' = some document' →
        SameUpToOrder (.table document) (.table document') → ofToml text' = ofToml text := by
  have hsorted := Toml.sorted_of_parse h
  have hbytes : document.Pairwise fun a b => Utf8.encode a.1 < Utf8.encode b.1 :=
    hsorted.imp fun hlt => (Utf8.encode_lt_iff _ _).2 hlt
  have hok := ofToml_eq_ok_iff_of_parse h
  have hrefused : ∀ fault, ofToml text = .error fault → ∃ entry cause,
      IsLeastOffender document entry ∧ fault = .config cause ∧ Offends entry.1 entry.2 cause.message :=
    fun fault hfault => exists_leastOffender hbytes ((ofToml_eq_error_iff_of_parse h fault).1 hfault)
  refine ⟨hbytes, ⟨?_, fun hflattens => ?_⟩, hok, hrefused, ?_, ?_, ?_⟩
  · rintro ⟨config, hconfig⟩
    exact ((hok config).1 hconfig).2.flattens
  · cases houtcome : ofToml text with
    | ok config => exact ⟨config, rfl⟩
    | error fault =>
      obtain ⟨entry, -, hleast, -⟩ := hrefused fault houtcome
      exact absurd (hflattens entry hleast.mem) hleast.offends
  · obtain ⟨sts, -, -, hsts, -⟩ := (Toml.parse_eq_some_iff ..).1 h
    obtain ⟨layout, rfl⟩ := Toml.exists_layout hsts
    exact ⟨layout, hsts⟩
  · intro text' hrearranged
    rw [ofToml, hrearranged.parse_eq, ofToml]
  · intro text' document' hparse hsame
    rw [ofToml_of_parse h, ofToml_of_parse hparse, hsame.mapM_pairOf_eq hsorted (Toml.sorted_of_parse hparse)]

/-- Two keys that cannot be options.  The first one in the order of bytes is named, whichever the text lists first. -/
theorem ofToml_of_document_refused :
    let text := "b.c = {}\na = ['', 1]\n"
    let text' := "a = ['', 1]\nb.c = {}\n"
    Toml.Document.parse text = some [("a", .array [.string "", .integer 1]), ("b", .table [("c", .table [])])] ∧
      ∃ cause : ConfigFault, ofToml text = .error (.config cause) ∧ ofToml text' = .error (.config cause) ∧
        cause.message = "Array 'a' must contain only strings, found integer" := by
  intro text text'
  have htext : Toml.statements "b.c = {}\na = ['', 1]\n" = some
      (Toml.Layout.statements ⟨[⟨"b", ["c"], .table []⟩, ⟨"a", [], .array [.string "", .integer 1]⟩], []⟩) := by rfl
  have htext' : Toml.statements "a = ['', 1]\nb.c = {}\n" = some
      (Toml.Layout.statements ⟨[⟨"a", [], .array [.string "", .integer 1]⟩, ⟨"b", ["c"], .table []⟩], []⟩) := by rfl
  have hparse : Toml.Document.parse text =
      some [("a", .array [.string "", .integer 1]), ("b", .table [("c", .table [])])] :=
    (Toml.parse_eq_some_iff ..).2 ⟨_, _, _, htext, rfl, rfl,
      (Toml.mergeSort_eq_of_sorted (by decide) (.swap _ _ _) (by decide)).symm⟩
  have hrearranged : Toml.Rearranged text text' := by
    refine ⟨_, _, htext, htext', fun key => ?_⟩
    by_cases hkey : "a" = key
    · subst hkey
      rfl
    · simp [Toml.Layout.about, List.filter_cons, hkey]
  obtain ⟨-, hok, -, hrefused, -, hsame, -⟩ := ofToml_of_document hparse
  refine ⟨hparse, ?_⟩
  cases houtcome : ofToml text with
  | ok config => exact absurd (hok.1 ⟨config, houtcome⟩) (by decide)
  | error fault =>
    obtain ⟨entry, cause, hleast, rfl, hoffends⟩ := hrefused fault houtcome
    have ha := hleast.least _ (.head _) (by decide)
    rcases List.mem_cons.1 hleast.mem with rfl | hmem
    · obtain ⟨cause', hread, hmessage⟩ := valueText_of_offends hoffends
      obtain rfl : ConfigFault.mixedArray "a" .integer = cause' := by cases hread; rfl
      exact ⟨cause, rfl, (hsame _ hrearranged).trans houtcome, hmessage.symm⟩
    · obtain rfl := List.mem_singleton.1 hmem
      exact absurd ha (by decide)

end AgentRelay.Config
