import AgentRelay.Proofs.Toml.Keys
import AgentRelay.Proofs.Toml.Spelling

set_option autoImplicit false

/-!
# Documents of texts

The simplest documents have one pair on each line, a key between quotation marks and a text between double ones.
`Writes` is their grammar: it leaves open how each character is written, which blanks stand around the parts of a line
and how the line ends.

Such a document is read completely, in the order in which it was written (`statements_of_writes`).  If no key occurs
twice, its table holds the pairs in the increasing order of their keys, whatever order they were written in
(`parse_of_writes`).
-/

namespace AgentRelay.Toml

/-! ## The grammar -/

/-- The ways to write a key between quotation marks.  Between single ones every character stands for itself. -/
inductive SpellsKey : String → List Char → Prop where
  | basic {key : String} {spelled : List Char} : SpellsText key.toList spelled →
      SpellsKey key ('"' :: (spelled ++ ['"']))
  | literal {key : String} : key.toList.all isLiteral = true → SpellsKey key ('\'' :: (key.toList ++ ['\'']))

/-- Nothing but blanks. -/
def AllGaps (s : List Char) : Prop := s.all isGap = true

/-- The ends of a line. -/
def lineEnds : List (List Char) := [['\n'], ['\r', '\n']]

/-- The lines that hold a pair of a key and a text. -/
inductive WritesLine : String × String → List Char → Prop where
  | line {key text : String} {spelledKey before after spelled behind ending : List Char} :
      SpellsKey key spelledKey → AllGaps before → AllGaps after → SpellsText text.toList spelled → AllGaps behind →
      ending ∈ lineEnds →
      WritesLine (key, text) (spelledKey ++ before ++ '=' :: (after ++ '"' :: (spelled ++ '"' :: (behind ++ ending))))

/-- The documents that hold pairs of a key and a text, one on each line, in this order. -/
inductive Writes : List (String × String) → List Char → Prop where
  | nil : Writes [] []
  | cons {pair : String × String} {pairs : List (String × String)} {line rest : List Char} :
      WritesLine pair line → Writes pairs rest → Writes (pair :: pairs) (line ++ rest)

/-- There is a document for all pairs of texts. -/
theorem exists_writes (pairs : List (String × String)) : ∃ text : List Char, Writes pairs text := by
  induction pairs with
  | nil => exact ⟨[], .nil⟩
  | cons pair rest ih =>
    obtain ⟨text, htext⟩ := ih
    have hnone : AllGaps [] := rfl
    exact ⟨_, .cons (.line (.basic (spellsText_spelling pair.1.toList)) hnone hnone
      (spellsText_spelling pair.2.toList) hnone (.head _)) htext⟩

/-! ## Blanks and line ends -/

theorem skipGaps_append {gaps : List Char} (h : AllGaps gaps) (rest : List Char) :
    skipGaps (gaps ++ rest) = skipGaps rest := List.dropWhile_append_of_pos (List.all_eq_true.1 h)

theorem skipGaps_cons {c : Char} (h : isGap c = false) (rest : List Char) : skipGaps (c :: rest) = c :: rest :=
  List.dropWhile_cons_of_neg (by simp [h])

/-- Behind the value of a line nothing is left of it. -/
theorem lineEnd?_append {behind ending : List Char} (hbehind : AllGaps behind) (hending : ending ∈ lineEnds)
    (rest : List Char) : lineEnd? (behind ++ ending ++ rest) = some rest := by
  simp only [lineEnds, List.mem_cons, List.not_mem_nil, or_false] at hending
  rw [lineEnd?, List.append_assoc, skipGaps_append hbehind]
  rcases hending with rfl | rfl <;> rfl

/-- What stands behind the value of a line begins with no quotation mark. -/
theorem head?_behind {behind ending : List Char} (hbehind : AllGaps behind) (hending : ending ∈ lineEnds)
    (rest : List Char) : (behind ++ ending ++ rest).head? ≠ some '"' := by
  cases behind with
  | nil =>
    simp only [lineEnds, List.mem_cons, List.not_mem_nil, or_false] at hending
    rcases hending with rfl | rfl <;> simp
  | cons c gaps =>
    have hc : isGap c = true := List.all_eq_true.1 hbehind c (.head _)
    rintro h
    obtain rfl : c = '"' := by simpa using h
    exact absurd hc (by decide)

/-! ## Keys -/

theorem literalString_append {text : List Char} (h : text.all isLiteral = true) (rest : List Char) :
    literalString (text ++ '\'' :: rest) = some (text, rest) := by
  induction text with
  | nil => rfl
  | cons c text ih =>
    rw [List.all_cons, Bool.and_eq_true] at h
    obtain ⟨hc, htext⟩ := h
    have hmark : c ≠ '\'' := by
      rintro rfl
      exact absurd hc (by decide)
    rw [List.cons_append, literalString, if_neg hmark, if_pos hc, ih htext]
    rfl

/-- A key begins with a quotation mark. -/
theorem exists_mark_of_spellsKey {key : String} {spelled : List Char} (h : SpellsKey key spelled) :
    ∃ mark rest, spelled = mark :: rest ∧ (mark = '"' ∨ mark = '\'') := by
  cases h with
  | basic _ => exact ⟨_, _, rfl, .inl rfl⟩
  | literal _ => exact ⟨_, _, rfl, .inr rfl⟩

theorem keyPart_of_spellsKey {key : String} {spelled : List Char} (h : SpellsKey key spelled) (rest : List Char) :
    keyPart (spelled ++ rest) = some (key, rest) := by
  cases h with
  | basic htext =>
    have hread := basicString_of_spellsText htext rest
    simp only [List.cons_append, List.append_assoc, List.nil_append, keyPart, hread, asString, Option.map_some,
      String.ofList_toList]
  | literal hliteral =>
    have hread := literalString_append hliteral rest
    simp only [List.cons_append, List.append_assoc, List.nil_append, keyPart, hread, asString, Option.map_some,
      String.ofList_toList]

/-- A single key is read up to the sign between key and value. -/
theorem dottedKey_of_spellsKey {key : String} {spelled before : List Char} (h : SpellsKey key spelled)
    (hbefore : AllGaps before) (rest : List Char) :
    dottedKey (spelled ++ before ++ '=' :: rest) = some ([key], '=' :: rest) := by
  obtain ⟨mark, others, hmark, hquote⟩ := exists_mark_of_spellsKey h
  have hfirst : isGap mark = false := by rcases hquote with rfl | rfl <;> rfl
  have hfront : skipGaps (spelled ++ (before ++ '=' :: rest)) = spelled ++ (before ++ '=' :: rest) := by
    rw [hmark]
    exact skipGaps_cons hfirst _
  have hbehind : skipGaps (before ++ '=' :: rest) = '=' :: rest := by
    rw [skipGaps_append hbefore, skipGaps_cons rfl]
  rw [dottedKey, depthLimit_sub_one, keyParts, List.append_assoc, hfront, keyPart_of_spellsKey h]
  simp only [hbehind]
  rfl

/-! ## Values -/

/-- A text on one line does not begin like one of several lines: a mark in it has a backslash in front, and no mark
follows the one that closes it. -/
theorem no_mark_of_spellsText {text spelled rest : List Char} (h : SpellsText text spelled)
    (hrest : rest.head? ≠ some '"') (others : List Char) : spelled ++ '"' :: rest ≠ '"' :: '"' :: others := by
  intro heq
  cases h with
  | nil =>
    obtain rfl : rest = '"' :: others := by simpa using heq
    exact hrest rfl
  | cons hchar _ =>
    cases hchar with
    | plain hbasic =>
      simp only [List.cons_append, List.cons.injEq] at heq
      rw [heq.1] at hbasic
      exact absurd hbasic (by decide)
    | letter _ => simp at heq
    | number _ _ _ => simp at heq

theorem stringToken_of_spellsText {text : String} {spelled rest : List Char} (h : SpellsText text.toList spelled)
    (hrest : rest.head? ≠ some '"') : stringToken ('"' :: (spelled ++ '"' :: rest)) = some (text, rest) := by
  rw [stringToken]
  · rw [basicString_of_spellsText h, asString, Option.map_some, String.ofList_toList]
  · exact no_mark_of_spellsText h hrest

theorem value_of_spellsText {text : String} {spelled rest : List Char} (h : SpellsText text.toList spelled)
    (hrest : rest.head? ≠ some '"') : value ('"' :: (spelled ++ '"' :: rest)) = some (.string text, rest) := by
  have hbracket : '"' ≠ '[' := by decide
  have hbrace : '"' ≠ '\x7b' := by decide
  rw [value, depthLimit_sub_one, nestedValue, if_neg hbracket, if_neg hbrace, flatValue, List.head?_cons, if_pos (.inl rfl),
    stringToken_of_spellsText h hrest]
  rfl

/-! ## Lines -/

/-- A key between quotation marks, the sign behind it and a value are read as a pair. -/
theorem statement_of_value {key : String} {spelledKey before behindSign rest : List Char} {v : Value}
    (hkey : SpellsKey key spelledKey) (hbefore : AllGaps before) (hvalue : value (skipGaps behindSign) = some (v, rest)) :
    statement (spelledKey ++ before ++ '=' :: behindSign) = some (.pair [key] v, rest) := by
  have hread := dottedKey_of_spellsKey hkey hbefore behindSign
  -- a bracket in front would announce a header
  have hbracket : ∀ others, spelledKey ++ before ++ '=' :: behindSign ≠ '[' :: others := by
    obtain ⟨mark, others, rfl, hquote⟩ := exists_mark_of_spellsKey hkey
    rcases hquote with rfl | rfl <;> simp
  rw [statement]
  · simp only [hread, hvalue, Option.map_some]
  · exact fun others => hbracket _
  · exact hbracket

/-- A line is read as its pair, up to what stands behind the value. -/
theorem statement_of_writesLine {pair : String × String} {line : List Char} (h : WritesLine pair line)
    (rest : List Char) :
    ∃ behind : List Char, statement (line ++ rest) = some (.pair [pair.1] (.string pair.2), behind) ∧
      lineEnd? behind = some rest := by
  cases h with
  | @line key text spelledKey before after spelled behind ending hkey hbefore hafter htext hbehind hending =>
    refine ⟨behind ++ ending ++ rest, ?_, lineEnd?_append hbehind hending rest⟩
    have hgaps : skipGaps (after ++ '"' :: (spelled ++ '"' :: (behind ++ ending ++ rest))) =
        '"' :: (spelled ++ '"' :: (behind ++ ending ++ rest)) := by
      rw [skipGaps_append hafter, skipGaps_cons rfl]
    have hvalue := value_of_spellsText htext (head?_behind hbehind hending rest)
    rw [← hgaps] at hvalue
    have hread := statement_of_value hkey hbefore hvalue
    simp only [List.append_assoc, List.cons_append] at hread ⊢
    exact hread

/-- A line begins with the quotation mark of its key. -/
theorem exists_mark_of_writesLine {pair : String × String} {line : List Char} (h : WritesLine pair line) :
    ∃ mark others, line = mark :: others ∧ (mark = '"' ∨ mark = '\'') := by
  obtain ⟨hkey, -, -, -, -, -⟩ := h
  obtain ⟨mark, others, rfl, hquote⟩ := exists_mark_of_spellsKey hkey
  exact ⟨mark, _, rfl, hquote⟩

/-! ## Documents -/

/-- The statement of a line that begins with a quotation mark comes before those of the lines behind it. -/
theorem statementsFrom_of_statement {mark : Char} {others behind next : List Char} {st : Statement}
    (hmark : mark = '"' ∨ mark = '\'') (hstatement : statement (mark :: others) = some (st, behind))
    (hend : lineEnd? behind = some next) (fuel : Nat) :
    statementsFrom (fuel + 1) (mark :: others) = (statementsFrom fuel next).map (st :: ·) := by
  have hfront : skipLines (mark :: others) = mark :: others := by rcases hmark with rfl | rfl <;> rfl
  rw [statementsFrom, hfront]
  simp only [hstatement, hend]

/-- The statement of a pair. -/
def pairStatement (pair : String × String) : Statement := .pair [pair.1] (.string pair.2)

theorem statementsFrom_of_writes {pairs : List (String × String)} {text : List Char} (h : Writes pairs text) :
    ∀ fuel, pairs.length < fuel → statementsFrom fuel text = some (pairs.map pairStatement) := by
  induction h with
  | nil =>
    intro fuel hfuel
    obtain ⟨n, rfl⟩ := Nat.exists_eq_succ_of_ne_zero (Nat.ne_of_gt hfuel)
    rfl
  | @cons pair pairs line rest hline _ ih =>
    intro fuel hfuel
    obtain ⟨n, rfl⟩ := Nat.exists_eq_add_one_of_ne_zero (Nat.ne_of_gt (Nat.zero_lt_of_lt hfuel))
    obtain ⟨behind, hstatement, hend⟩ := statement_of_writesLine hline rest
    obtain ⟨mark, others, rfl, hmark⟩ := exists_mark_of_writesLine hline
    have hrest := ih n (by simpa using hfuel)
    rw [List.cons_append] at hstatement ⊢
    rw [statementsFrom_of_statement hmark hstatement hend, hrest, Option.map_some, List.map_cons, pairStatement]

/-- Each line takes at least one character. -/
theorem length_le_of_writes {pairs : List (String × String)} {text : List Char} (h : Writes pairs text) :
    pairs.length ≤ text.length := by
  induction h with
  | nil => exact Nat.le_refl _
  | cons hline _ ih =>
    obtain ⟨mark, others, rfl, -⟩ := exists_mark_of_writesLine hline
    simp only [List.length_cons, List.cons_append, List.length_append]
    omega

/-- A document begins with a line, not with a byte order mark. -/
theorem skipByteOrderMark_of_writes {pairs : List (String × String)} {text : List Char} (h : Writes pairs text) :
    skipByteOrderMark text = text := by
  cases h with
  | nil => rfl
  | cons hline _ =>
    obtain ⟨mark, others, rfl, hquote⟩ := exists_mark_of_writesLine hline
    rcases hquote with rfl | rfl <;> rfl

/-- The statements of a document are its pairs, in the order in which they were written. -/
theorem statements_of_writes {pairs : List (String × String)} {text : String} (h : Writes pairs text.toList) :
    statements text = some (pairs.map pairStatement) := by
  rw [statements, skipByteOrderMark_of_writes h]
  exact statementsFrom_of_writes h _ (Nat.lt_succ_of_le (length_le_of_writes h))

/-! ## Tables -/

/-- A key of one part is set in the table itself. -/
theorem setKey_singleton (key : String) (v : Value) (entries : Entries) :
    setKey [key] v entries = entries.put key (.leaf v) := by
  simp only [setKey, List.getLast?_singleton, List.dropLast_singleton, Entries.setValue, Entries.modify,
    Entries.visit, List.isEmpty_nil, Bool.not_true, Bool.false_and, Bool.false_eq_true, if_false, Option.map_map]
  exact Option.map_id_fun' ▸ rfl

/-- The entries that pairs of texts leave in a table. -/
def leaves (pairs : List (String × String)) : Entries := pairs.map fun pair => (pair.1, .leaf (.string pair.2))

/-- The values of these entries. -/
def texts (pairs : List (String × String)) : List (String × Value) := pairs.map fun pair => (pair.1, .string pair.2)

/-- Pairs whose keys are new and distinct are added one after the other. -/
theorem foldlM_add {pairs : List (String × String)} (hdistinct : (pairs.map Prod.fst).Nodup) (draft : Draft)
    (hnew : ∀ key ∈ pairs.map Prod.fst, draft.opened.lookup key = none) :
    (pairs.map pairStatement).foldlM Draft.add draft =
      some { draft with opened := draft.opened ++ leaves pairs } := by
  induction pairs generalizing draft with
  | nil => simp [leaves]
  | cons pair rest ih =>
    obtain ⟨hpair, hrest⟩ := List.nodup_cons.1 hdistinct
    have hadd : draft.add (pairStatement pair) =
        some { draft with opened := draft.opened ++ [(pair.1, .leaf (.string pair.2))] } := by
      rw [pairStatement, Draft.add, setKey_singleton, Entries.put, hnew pair.1 (.head _)]
      rfl
    have hstillNew : ∀ key ∈ rest.map Prod.fst,
        (draft.opened ++ [(pair.1, Node.leaf (.string pair.2))]).lookup key = none := by
      intro key hkey
      have hne : key ≠ pair.1 := fun e => hpair (e ▸ hkey)
      rw [List.lookup_append, hnew key (.tail _ hkey), Option.none_or, List.lookup_eq_none_iff]
      simpa using hne
    rw [List.map_cons, List.foldlM_cons, hadd]
    change List.foldlM Draft.add _ (rest.map pairStatement) = _
    rw [ih hrest _ hstillNew]
    simp [leaves]

theorem entryValues_leaves (pairs : List (String × String)) : Node.entryValues (leaves pairs) = texts pairs := by
  rw [entryValues_eq_map, leaves, List.map_map]
  rfl

/-- A text is no point in time. -/
theorem entriesWithMoments_texts (pairs : List (String × String)) :
    entriesWithMoments (texts pairs) = some (texts pairs) := by
  induction pairs with
  | nil => rfl
  | cons pair rest ih =>
    change entriesWithMoments ((pair.1, Value.string pair.2) :: texts rest) = _
    rw [entriesWithMoments, ih]
    rfl

/-- Entries whose keys are distinct can be sorted in one way only. -/
theorem mergeSort_eq_of_sorted {β : Type} {entries sorted : List (String × β)}
    (hdistinct : (entries.map Prod.fst).Nodup) (hperm : sorted.Perm entries)
    (hsorted : sorted.Pairwise fun a b => a.1 ≤ b.1) :
    entries.mergeSort (fun a b => decide (a.1 ≤ b.1)) = sorted := by
  have hmergedPerm := List.mergeSort_perm entries fun a b => decide (a.1 ≤ b.1)
  refine List.Perm.eq_of_pairwise ?_ (le_mergeSort entries) hsorted (hmergedPerm.trans hperm.symm)
  intro a b ha hb hab hba
  exact List.inj_on_of_nodup_map hdistinct (hmergedPerm.mem_iff.1 ha) (hperm.mem_iff.1 hb) (le_antisymm hab hba)

/-- A document of texts whose keys are distinct is read as the table that is sorted by its keys. -/
theorem parse_of_writes {pairs sorted : List (String × String)} {text : String} (h : Writes pairs text.toList)
    (hdistinct : (pairs.map Prod.fst).Nodup) (hperm : sorted.Perm pairs)
    (hsorted : sorted.Pairwise fun a b => a.1 ≤ b.1) : Document.parse text = some (texts sorted) := by
  have hclosed : ((pairs.map pairStatement).foldlM Draft.add Draft.start).bind Draft.close = some (leaves pairs) := by
    rw [foldlM_add hdistinct Draft.start fun _ _ => rfl]
    rfl
  have hmade : entriesWithMoments (Node.entryValues (leaves pairs)) = some (texts pairs) := by
    rw [entryValues_leaves, entriesWithMoments_texts]
  refine (parse_eq_some_iff ..).2 ⟨_, _, _, statements_of_writes h, hclosed, hmade, Eq.symm ?_⟩
  apply mergeSort_eq_of_sorted
  · rw [texts, List.map_map]
    exact hdistinct
  · exact hperm.map _
  · exact hsorted.map _ fun _ _ h => h

end AgentRelay.Toml
