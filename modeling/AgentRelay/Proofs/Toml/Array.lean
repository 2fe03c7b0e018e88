import AgentRelay.Proofs.Toml.Flat

set_option autoImplicit false

/-!
# Arrays of texts

An array of texts can be written on many lines, with blanks and comments between its items and a comma behind the last
one.  `SpellsArray` is the grammar of these ways; an item is written like a key between quotation marks.

In whatever way it is written, the array is read completely, up to its closing bracket (`value_of_spellsArray`).  So a
document that holds one key with such an array has the table of this key (`parse_of_writesArray`), and there is such a
document for every key and all texts (`exists_writesArray`).
-/

namespace AgentRelay.Toml

/-! ## The grammar -/

/-- What may stand between the parts of an array: blanks, line ends, and comments up to the end of their lines. -/
inductive Spaces : List Char → Prop where
  | nil : Spaces []
  | gap {c : Char} {rest : List Char} : isGap c = true → Spaces rest → Spaces (c :: rest)
  | lineEnd {ending rest : List Char} : ending ∈ lineEnds → Spaces rest → Spaces (ending ++ rest)
  | comment {words ending rest : List Char} : words.all isVisible = true → ending ∈ lineEnds → Spaces rest →
      Spaces ('#' :: (words ++ (ending ++ rest)))

/-- The ways to write the items of an array up to its closing bracket, at least one. -/
inductive SpellsItems : List String → List Char → Prop where
  | last {text : String} {spelled after : List Char} : SpellsKey text spelled → Spaces after →
      SpellsItems [text] (spelled ++ (after ++ [']']))
  | lastComma {text : String} {spelled after behind : List Char} : SpellsKey text spelled → Spaces after →
      Spaces behind → SpellsItems [text] (spelled ++ (after ++ ',' :: (behind ++ [']'])))
  | cons {text : String} {texts : List String} {spelled after before items : List Char} : SpellsKey text spelled →
      Spaces after → Spaces before → SpellsItems texts items →
      SpellsItems (text :: texts) (spelled ++ (after ++ ',' :: (before ++ items)))

/-- The ways to write an array of texts. -/
inductive SpellsArray : List String → List Char → Prop where
  | empty {inside : List Char} : Spaces inside → SpellsArray [] ('[' :: (inside ++ [']']))
  | items {texts : List String} {before items : List Char} : Spaces before → SpellsItems texts items →
      SpellsArray texts ('[' :: (before ++ items))

/-- The documents that hold one key with an array of texts. -/
inductive WritesArray (key : String) (texts : List String) : List Char → Prop where
  | line {spelledKey before after spelled behind ending : List Char} : SpellsKey key spelledKey → AllGaps before →
      AllGaps after → SpellsArray texts spelled → AllGaps behind → ending ∈ lineEnds →
      WritesArray key texts (spelledKey ++ before ++ '=' :: (after ++ (spelled ++ (behind ++ ending))))

/-- There is a way to write every text between quotation marks. -/
theorem exists_spellsKey (text : String) : ∃ spelled, SpellsKey text spelled :=
  ⟨_, .basic (spellsText_spelling text.toList)⟩

/-- There is a way to write all items. -/
theorem exists_spellsItems (text : String) (texts : List String) : ∃ items, SpellsItems (text :: texts) items := by
  induction texts generalizing text with
  | nil =>
    obtain ⟨spelled, hspelled⟩ := exists_spellsKey text
    exact ⟨_, .last hspelled .nil⟩
  | cons next rest ih =>
    obtain ⟨spelled, hspelled⟩ := exists_spellsKey text
    obtain ⟨items, hitems⟩ := ih next
    exact ⟨_, .cons hspelled .nil .nil hitems⟩

/-- There is a document for every key and all texts. -/
theorem exists_writesArray (key : String) (texts : List String) : ∃ document, WritesArray key texts document := by
  obtain ⟨spelledKey, hkey⟩ := exists_spellsKey key
  have hnone : AllGaps [] := rfl
  cases texts with
  | nil => exact ⟨_, .line hkey hnone hnone (.empty .nil) hnone (.head _)⟩
  | cons text rest =>
    obtain ⟨items, hitems⟩ := exists_spellsItems text rest
    exact ⟨_, .line hkey hnone hnone (.items .nil hitems) hnone (.head _)⟩

/-! ## Between the items -/

/-- A comment is passed over up to the end of its line. -/
theorem skipLinesFrom_comment {words ending : List Char} (hwords : words.all isVisible = true)
    (hending : ending ∈ lineEnds) (rest : List Char) :
    skipLinesFrom true (words ++ (ending ++ rest)) = skipLinesFrom false rest := by
  induction words with
  | nil =>
    simp only [lineEnds, List.mem_cons, List.not_mem_nil, or_false] at hending
    rcases hending with rfl | rfl <;> simp [skipLinesFrom]
  | cons c words ih =>
    rw [List.all_cons, Bool.and_eq_true] at hwords
    obtain ⟨hc, hwords⟩ := hwords
    rw [List.cons_append, skipLinesFrom]
    · rw [if_pos rfl, if_pos hc, ih hwords]
    · rintro rfl
      exact absurd hc (by decide)
    · rintro _ rfl _
      exact absurd hc (by decide)

/-- What stands between the parts of an array is passed over. -/
theorem skipLines_append {spaces : List Char} (h : Spaces spaces) (rest : List Char) :
    skipLines (spaces ++ rest) = skipLines rest := by
  rw [skipLines]
  induction h with
  | nil => rfl
  | @gap c spaces hc _ ih =>
    simp only [isGap, Bool.or_eq_true, beq_iff_eq] at hc
    rw [← ih, List.cons_append]
    rcases hc with rfl | rfl <;> simp [skipLinesFrom, isGap]
  | lineEnd hending _ ih =>
    simp only [lineEnds, List.mem_cons, List.not_mem_nil, or_false] at hending
    rw [← ih]
    rcases hending with rfl | rfl <;> simp [skipLinesFrom]
  | comment hwords hending _ ih =>
    rw [List.cons_append, List.append_assoc, List.append_assoc, ← ih]
    exact skipLinesFrom_comment hwords hending _

/-- The delimiters behind an item. -/
def itemEnds : List Char := [',', ']']

/-- A delimiter is not passed over. -/
theorem skipLines_itemEnd {c : Char} (hc : c ∈ itemEnds) (rest : List Char) : skipLines (c :: rest) = c :: rest := by
  simp only [itemEnds, List.mem_cons, List.not_mem_nil, or_false] at hc
  rcases hc with rfl | rfl <;> rfl

/-- Nothing up to the delimiter behind an item begins like a text. -/
theorem head?_spaces {spaces : List Char} (h : Spaces spaces) {c mark : Char} (hc : c ∈ itemEnds)
    (hmark : mark = '"' ∨ mark = '\'') (rest : List Char) : (spaces ++ c :: rest).head? ≠ some mark := by
  have hgap : isGap mark = false := by rcases hmark with rfl | rfl <;> rfl
  have hother : mark ∉ itemEnds ∧ mark ≠ '\n' ∧ mark ≠ '\r' ∧ mark ≠ '#' := by rcases hmark with rfl | rfl <;> decide
  obtain ⟨hdelimiter, hfeed, hreturn, hcomment⟩ := hother
  intro hhead
  cases h with
  | nil => exact hdelimiter (Option.some.inj hhead ▸ hc)
  | gap hgapped _ =>
    rw [Option.some.inj hhead, hgap] at hgapped
    cases hgapped
  | lineEnd hending _ =>
    simp only [lineEnds, List.mem_cons, List.not_mem_nil, or_false] at hending
    rcases hending with rfl | rfl
    · exact hfeed (Option.some.inj hhead).symm
    · exact hreturn (Option.some.inj hhead).symm
  | comment _ _ _ => exact hcomment (Option.some.inj hhead).symm

/-! ## Items -/

/-- A text between single quotation marks does not begin like one of several lines: it holds no such mark, and none
follows the one that closes it. -/
theorem no_mark_of_isLiteral {text rest : List Char} (h : text.all isLiteral = true) (hrest : rest.head? ≠ some '\'')
    (others : List Char) : text ++ '\'' :: rest ≠ '\'' :: '\'' :: others := by
  intro heq
  cases text with
  | nil =>
    obtain rfl : rest = '\'' :: others := by simpa using heq
    exact hrest rfl
  | cons c text =>
    obtain rfl : c = '\'' := by simpa using congrArg List.head? heq
    rw [List.all_cons, Bool.and_eq_true] at h
    exact absurd h.1 (by decide)

theorem stringToken_of_spellsKey {text : String} {spelled rest : List Char} (h : SpellsKey text spelled)
    (hrest : ∀ mark, mark = '"' ∨ mark = '\'' → rest.head? ≠ some mark) :
    stringToken (spelled ++ rest) = some (text, rest) := by
  cases h with
  | basic htext =>
    rw [List.cons_append, List.append_assoc, List.singleton_append]
    exact stringToken_of_spellsText htext (hrest _ (.inl rfl))
  | literal hliteral =>
    rw [List.cons_append, List.append_assoc, List.singleton_append, stringToken]
    · rw [literalString_append hliteral, asString, Option.map_some, String.ofList_toList]
    · exact no_mark_of_isLiteral hliteral (hrest _ (.inr rfl))

/-- A text is read as an item, however deep the array stands. -/
theorem nestedValue_of_spellsKey {text : String} {spelled rest : List Char} (h : SpellsKey text spelled)
    (hrest : ∀ mark, mark = '"' ∨ mark = '\'' → rest.head? ≠ some mark) (allowance : Nat) :
    nestedValue allowance (spelled ++ rest) = some (.string text, rest) := by
  have htoken := stringToken_of_spellsKey h hrest
  obtain ⟨mark, others, rfl, hmark⟩ := exists_mark_of_spellsKey h
  have hflat : flatValue (mark :: others ++ rest) = some (.string text, rest) := by
    have hhead : (mark :: others ++ rest).head? = some '"' ∨ (mark :: others ++ rest).head? = some '\'' := by
      rcases hmark with rfl | rfl
      · exact .inl rfl
      · exact .inr rfl
    rw [flatValue, if_pos hhead, htoken, Option.map_some]
  have hbracket : mark ≠ '[' ∧ mark ≠ '\x7b' := by rcases hmark with rfl | rfl <;> decide
  cases allowance with
  | zero =>
    rw [nestedValue, if_neg, hflat]
    rintro (hopen | hopen)
    · exact hbracket.1 (Option.some.inj hopen)
    · exact hbracket.2 (Option.some.inj hopen)
  | succ allowance =>
    rw [List.cons_append, nestedValue, if_neg hbracket.1, if_neg hbracket.2]
    exact hflat

/-- Each item takes at least one character. -/
theorem length_le_of_spellsItems {texts : List String} {items : List Char} (h : SpellsItems texts items) :
    texts.length ≤ items.length := by
  induction h with
  | last _ _ =>
    simp only [List.length_cons, List.length_nil, List.length_append]
    omega
  | lastComma _ _ _ =>
    simp only [List.length_cons, List.length_nil, List.length_append]
    omega
  | cons _ _ _ _ ih =>
    simp only [List.length_cons, List.length_append]
    omega

/-- Items begin with the quotation mark of the first one. -/
theorem exists_mark_of_spellsItems {texts : List String} {items : List Char} (h : SpellsItems texts items) :
    ∃ mark others, items = mark :: others ∧ (mark = '"' ∨ mark = '\'') := by
  have hkey : ∃ text spelled others, SpellsKey text spelled ∧ items = spelled ++ others := by
    cases h with
    | last hspelled _ => exact ⟨_, _, _, hspelled, rfl⟩
    | lastComma hspelled _ _ => exact ⟨_, _, _, hspelled, rfl⟩
    | cons hspelled _ _ _ => exact ⟨_, _, _, hspelled, rfl⟩
  obtain ⟨text, spelled, others, hspelled, rfl⟩ := hkey
  obtain ⟨mark, behind, rfl, hmark⟩ := exists_mark_of_spellsKey hspelled
  exact ⟨mark, behind ++ others, rfl, hmark⟩

/-- Nothing stands in front of items. -/
theorem skipLines_of_spellsItems {texts : List String} {items : List Char} (h : SpellsItems texts items)
    (rest : List Char) : skipLines (items ++ rest) = items ++ rest := by
  obtain ⟨mark, others, rfl, hmark⟩ := exists_mark_of_spellsItems h
  rcases hmark with rfl | rfl <;> rfl

/-- Items do not begin like the end of an array. -/
theorem items_ne_bracket {texts : List String} {items : List Char} (h : SpellsItems texts items)
    (rest others : List Char) : items ++ rest ≠ ']' :: others := by
  obtain ⟨mark, behind, rfl, hmark⟩ := exists_mark_of_spellsItems h
  rcases hmark with rfl | rfl <;> simp

/-- An item is read up to what stands between it and its delimiter. -/
theorem item_of_spellsKey {text : String} {spelled after : List Char} (hspelled : SpellsKey text spelled)
    (hafter : Spaces after) {c : Char} (hc : c ∈ itemEnds) (allowance : Nat) (rest : List Char) :
    nestedValue allowance (spelled ++ (after ++ c :: rest)) = some (.string text, after ++ c :: rest) ∧
      skipLines (after ++ c :: rest) = c :: rest := by
  constructor
  · exact nestedValue_of_spellsKey hspelled (fun mark hmark => head?_spaces hafter hc hmark rest) allowance
  · rw [skipLines_append hafter, skipLines_itemEnd hc]

theorem arrayItems_of_spellsItems {texts : List String} {items : List Char} (h : SpellsItems texts items)
    (allowance : Nat) (rest : List Char) :
    ∀ fuel, texts.length ≤ fuel →
      arrayItems (nestedValue allowance) fuel (items ++ rest) = some (texts.map .string, rest) := by
  have hcomma : ',' ∈ itemEnds := by decide
  have hbracket : ']' ∈ itemEnds := by decide
  induction h with
  | last hspelled hafter =>
    intro fuel hfuel
    obtain ⟨n, rfl⟩ := Nat.exists_eq_add_one_of_ne_zero (Nat.ne_of_gt hfuel)
    obtain ⟨hitem, hend⟩ := item_of_spellsKey hspelled hafter hbracket allowance rest
    simp only [List.append_assoc, List.singleton_append]
    rw [arrayItems, hitem]
    simp only [hend, List.map_singleton]
  | @lastComma text spelled after behind hspelled hafter hbehind =>
    intro fuel hfuel
    obtain ⟨n, rfl⟩ := Nat.exists_eq_add_one_of_ne_zero (Nat.ne_of_gt hfuel)
    obtain ⟨hitem, hend⟩ := item_of_spellsKey hspelled hafter hcomma allowance (behind ++ ']' :: rest)
    have hclose : skipLines (behind ++ ']' :: rest) = ']' :: rest := by
      rw [skipLines_append hbehind, skipLines_itemEnd hbracket]
    simp only [List.append_assoc, List.cons_append, List.nil_append]
    rw [arrayItems, hitem]
    simp only [hend, hclose, List.map_singleton]
  | @cons text texts spelled after before items hspelled hafter hbefore hitems ih =>
    intro fuel hfuel
    obtain ⟨n, rfl⟩ := Nat.exists_eq_add_one_of_ne_zero (Nat.ne_of_gt (Nat.zero_lt_of_lt hfuel))
    obtain ⟨hitem, hend⟩ := item_of_spellsKey hspelled hafter hcomma allowance (before ++ (items ++ rest))
    have hnext : skipLines (before ++ (items ++ rest)) = items ++ rest := by
      rw [skipLines_append hbefore, skipLines_of_spellsItems hitems]
    have hrest := ih n (by simpa using hfuel)
    simp only [List.append_assoc, List.cons_append]
    rw [arrayItems, hitem]
    simp only [hend, hnext]
    split
    · next heq => exact absurd heq (items_ne_bracket hitems rest _)
    · rw [hrest, Option.map_some, List.map_cons]

/-! ## Arrays -/

/-- An array of texts is read up to its closing bracket. -/
theorem value_of_spellsArray {texts : List String} {spelled : List Char} (h : SpellsArray texts spelled)
    (rest : List Char) : value (spelled ++ rest) = some (.array (texts.map .string), rest) := by
  rw [value, depthLimit_sub_one]
  cases h with
  | @empty inside hinside =>
    have hclose : skipLines (inside ++ ']' :: rest) = ']' :: rest := by
      rw [skipLines_append hinside]
      rfl
    simp only [List.append_assoc, List.cons_append, List.nil_append]
    rw [nestedValue, if_pos rfl, arrayRest]
    simp only [hclose, List.map_nil]
  | @items texts before items hbefore hitems =>
    have hfirst : skipLines (before ++ (items ++ rest)) = items ++ rest := by
      rw [skipLines_append hbefore, skipLines_of_spellsItems hitems]
    have hlength : texts.length ≤ (items ++ rest).length := by
      rw [List.length_append]
      exact Nat.le_add_right_of_le (length_le_of_spellsItems hitems)
    have hread := arrayItems_of_spellsItems hitems (depthLimit - 2) rest _ hlength
    simp only [List.append_assoc, List.cons_append]
    rw [nestedValue, if_pos rfl, arrayRest]
    simp only [hfirst]
    split
    · next heq => exact absurd heq (items_ne_bracket hitems rest _)
    · rw [hread, Option.map_some]

/-! ## Documents -/

/-- An array begins with its bracket, so no blank of its line is left in front of it. -/
theorem skipGaps_of_spellsArray {texts : List String} {after spelled : List Char} (hafter : AllGaps after)
    (h : SpellsArray texts spelled) (rest : List Char) :
    skipGaps (after ++ (spelled ++ rest)) = spelled ++ rest := by
  rw [skipGaps_append hafter]
  cases h with
  | empty _ => exact skipGaps_cons rfl _
  | items _ _ => exact skipGaps_cons rfl _

/-- A document that holds one key with an array of texts is one statement. -/
theorem statements_of_writesArray {key : String} {texts : List String} {text : String}
    (h : WritesArray key texts text.toList) :
    statements text = some [.pair [key] (.array (texts.map .string))] := by
  rw [statements]
  generalize text.toList = document at h
  cases h with
  | @line spelledKey before after spelled behind ending hkey hbefore hafter hspelled hbehind hending =>
    have hend : lineEnd? (behind ++ ending) = some [] := by simpa using lineEnd?_append hbehind hending []
    have hvalue : value (skipGaps (after ++ (spelled ++ (behind ++ ending)))) =
        some (.array (texts.map .string), behind ++ ending) := by
      rw [skipGaps_of_spellsArray hafter hspelled, value_of_spellsArray hspelled]
    have hstatement := statement_of_value hkey hbefore hvalue
    obtain ⟨mark, others, rfl, hmark⟩ := exists_mark_of_spellsKey hkey
    have hfront : ∀ tail, skipByteOrderMark (mark :: tail) = mark :: tail := by
      intro tail
      rcases hmark with rfl | rfl <;> rfl
    simp only [List.cons_append] at hstatement ⊢
    rw [hfront, statementsFrom_of_statement hmark hstatement hend]
    rfl

theorem itemsWithMoments_texts (texts : List String) :
    itemsWithMoments (texts.map .string) = some (texts.map .string) := by
  induction texts with
  | nil => rfl
  | cons text rest ih =>
    rw [List.map_cons, itemsWithMoments, ih]
    rfl

/-- A document that holds one key with an array of texts has the table of this key. -/
theorem parse_of_writesArray {key : String} {texts : List String} {text : String}
    (h : WritesArray key texts text.toList) : Document.parse text = some [(key, .array (texts.map .string))] := by
  have hclosed : ([Statement.pair [key] (.array (texts.map .string))].foldlM Draft.add Draft.start).bind Draft.close =
      some [(key, .leaf (.array (texts.map .string)))] := by
    rw [List.foldlM_cons, Draft.add, setKey_singleton]
    rfl
  have hmoments : entriesWithMoments [(key, .array (texts.map .string))] =
      some [(key, .array (texts.map .string))] := by
    rw [entriesWithMoments, Value.withMoments, itemsWithMoments_texts]
    rfl
  exact (parse_eq_some_iff ..).2
    ⟨_, _, _, statements_of_writesArray h, hclosed, hmoments, (List.mergeSort_singleton _).symm⟩

end AgentRelay.Toml
