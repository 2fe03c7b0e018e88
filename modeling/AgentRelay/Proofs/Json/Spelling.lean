import AgentRelay.Json.Quoted
import AgentRelay.Proofs.Utf8
import Mathlib.Data.List.TakeWhile

set_option autoImplicit false

/-!
# Ways to write strings and arrays of strings in JSON

A character can stand between the quotation marks as it is, unless it is a control character, the mark itself or the
backslash; it can be written by a letter after a backslash, by its number, or, beyond the basic plane, by the numbers of
two surrogates.  `Spells` is the grammar of these ways, `SpellsArray` that of arrays of strings with blanks between
their parts.  Neither mentions the reader or the writer.

The reader accepts what the grammar writes and nothing else, and what it reads is what was written
(`strings?_eq_some_iff`).  The writer chooses one of the ways (`spellsArray_quoteAll`).
-/

namespace AgentRelay.Json

/-! ## The grammar -/

/-- The characters that a letter after a backslash stands for. -/
def letterEscapes : List (Char × Char) :=
  [('"', '"'), ('\\', '\\'), ('/', '/'), ('b', '\x08'), ('f', '\x0C'), ('n', '\n'), ('r', '\r'), ('t', '\t')]

/-- Four digits to base 16, and their number. -/
inductive SpellsUnit : Nat → List Char → Prop where
  | digits {a b c d : Char} {i j k l : Nat} : hexValue? a = some i → hexValue? b = some j → hexValue? c = some k →
      hexValue? d = some l → SpellsUnit (i * 4096 + j * 256 + k * 16 + l) [a, b, c, d]

/-- The ways to write a character between quotation marks. -/
inductive Spells : Char → List Char → Prop where
  | plain {c : Char} : 0x20 ≤ c.toNat → c ≠ '"' → c ≠ '\\' → Spells c [c]
  | letter {c letter : Char} : (letter, c) ∈ letterEscapes → Spells c ['\\', letter]
  | unit {c : Char} {digits : List Char} : SpellsUnit c.toNat digits → Spells c ('\\' :: 'u' :: digits)
  | surrogates {c : Char} {high low : Nat} {digits digits' : List Char} : SpellsUnit high digits →
      SpellsUnit low digits' → 0xD800 ≤ high → high ≤ 0xDBFF → 0xDC00 ≤ low → low ≤ 0xDFFF →
      c.toNat = 0x10000 + (high - 0xD800) * 1024 + (low - 0xDC00) →
      Spells c ('\\' :: 'u' :: (digits ++ '\\' :: 'u' :: digits'))

/-- The ways to write the characters of a string, each in its own way. -/
inductive SpellsText : List Char → List Char → Prop where
  | nil : SpellsText [] []
  | cons {c : Char} {text spelled rest : List Char} : Spells c spelled → SpellsText text rest →
      SpellsText (c :: text) (spelled ++ rest)

/-- The ways to write a string. -/
inductive SpellsString : String → List Char → Prop where
  | marks {text : String} {spelled : List Char} : SpellsText text.toList spelled →
      SpellsString text ('"' :: (spelled ++ ['"']))

/-- The blanks that may stand between the parts of a document. -/
def AllGaps (cs : List Char) : Prop := cs.all isGap = true

/-- The ways to write the items of an array up to its closing bracket, at least one. -/
inductive SpellsItems : List String → List Char → Prop where
  | last {text : String} {spelled after : List Char} : SpellsString text spelled → AllGaps after →
      SpellsItems [text] (spelled ++ (after ++ [']']))
  | cons {text : String} {texts : List String} {spelled after before items : List Char} : SpellsString text spelled →
      AllGaps after → AllGaps before → SpellsItems texts items →
      SpellsItems (text :: texts) (spelled ++ (after ++ ',' :: (before ++ items)))

/-- The ways to write an array of strings. -/
inductive SpellsArray : List String → List Char → Prop where
  | empty {inside : List Char} : AllGaps inside → SpellsArray [] ('[' :: (inside ++ [']']))
  | items {texts : List String} {before items : List Char} : AllGaps before → SpellsItems texts items →
      SpellsArray texts ('[' :: (before ++ items))

/-- The documents that hold an array of strings. -/
inductive SpellsDocument : List String → List Char → Prop where
  | around {texts : List String} {before spelled after : List Char} : AllGaps before → SpellsArray texts spelled →
      AllGaps after → SpellsDocument texts (before ++ (spelled ++ after))

/-! ## Numbers of four digits -/

theorem hexValue?_lt {c : Char} {n : Nat} (h : hexValue? c = some n) : n < 16 := by
  have hle : ∀ d d' : Char, d ≤ d' ↔ d.toNat ≤ d'.toNat := fun d d' => Iff.rfl
  rw [hexValue?] at h
  split at h
  · next hdigit =>
    simp only [Char.isDigit, Bool.and_eq_true, decide_eq_true_eq, ge_iff_le] at hdigit
    have hhigh : c.toNat ≤ '9'.toNat := hdigit.2
    obtain rfl := Option.some.inj h
    have hzero : '0'.toNat = 48 := rfl
    have hnine : '9'.toNat = 57 := rfl
    omega
  · split at h
    · next hsmall =>
      obtain rfl := Option.some.inj h
      rw [hle, hle] at hsmall
      have ha : 'a'.toNat = 97 := rfl
      have hf : 'f'.toNat = 102 := rfl
      omega
    · split at h
      · next hcapital =>
        obtain rfl := Option.some.inj h
        rw [hle, hle] at hcapital
        have ha : 'A'.toNat = 65 := rfl
        have hf : 'F'.toNat = 70 := rfl
        omega
      · cases h

theorem SpellsUnit.lt {n : Nat} {digits : List Char} (h : SpellsUnit n digits) : n < 0x10000 := by
  cases h with
  | digits ha hb hc hd =>
    have := hexValue?_lt ha
    have := hexValue?_lt hb
    have := hexValue?_lt hc
    have := hexValue?_lt hd
    omega

theorem unit?_of_spellsUnit {n : Nat} {digits : List Char} (h : SpellsUnit n digits) (rest : List Char) :
    unit? (digits ++ rest) = some (n, rest) := by
  cases h with
  | digits ha hb hc hd => simp [unit?, ha, hb, hc, hd]

theorem spellsUnit_of_unit? {s rest : List Char} {n : Nat} (h : unit? s = some (n, rest)) :
    ∃ digits, s = digits ++ rest ∧ SpellsUnit n digits := by
  unfold unit? at h
  split at h
  · next a b c d rest' =>
    simp only [Option.bind_eq_bind, Option.bind_eq_some_iff, Option.pure_def, Option.some.injEq, Prod.mk.injEq] at h
    obtain ⟨i, hi, j, hj, k, hk, l, hl, rfl, rfl⟩ := h
    exact ⟨[a, b, c, d], rfl, .digits hi hj hk hl⟩
  · cases h

/-! ## Escapes -/

/-- The number of a character is read as the character. -/
theorem numbered?_of_spellsUnit {c : Char} {digits : List Char} (h : SpellsUnit c.toNat digits) (rest : List Char) :
    numbered? (digits ++ rest) = some (c, rest) := by
  have hvalid : c.toNat.isValidChar := c.valid
  simp only [numbered?, unit?_of_spellsUnit h, Option.bind_eq_bind, Option.bind_some, hvalid, if_true, Char.ofNat_toNat,
    Option.pure_def]

/-- The numbers of two surrogates are read as the character that they stand for. -/
theorem numbered?_of_surrogates {c : Char} {high low : Nat} {digits digits' : List Char}
    (hdigits : SpellsUnit high digits) (hdigits' : SpellsUnit low digits') (hhigh : 0xD800 ≤ high)
    (hhigh' : high ≤ 0xDBFF) (hlow : 0xDC00 ≤ low) (hlow' : low ≤ 0xDFFF)
    (hc : c.toNat = 0x10000 + (high - 0xD800) * 1024 + (low - 0xDC00)) (rest : List Char) :
    numbered? (digits ++ '\\' :: 'u' :: digits' ++ rest) = some (c, rest) := by
  have hvalid : ¬ high.isValidChar := by
    rw [Nat.isValidChar]
    omega
  have hleading : high < 0xDC00 := by omega
  rw [List.append_assoc, numbered?, unit?_of_spellsUnit hdigits]
  simp only [Option.bind_eq_bind, Option.bind_some, hvalid, if_false, hleading, if_true, List.cons_append,
    unit?_of_spellsUnit hdigits', hlow, hlow', and_self, Option.pure_def, ← hc, Char.ofNat_toNat]

theorem spells_of_numbered? {s rest : List Char} {c : Char} (h : numbered? s = some (c, rest)) :
    ∃ spelled, s = spelled ++ rest ∧ Spells c ('\\' :: 'u' :: spelled) := by
  simp only [numbered?, Option.bind_eq_bind, Option.bind_eq_some_iff] at h
  obtain ⟨⟨n, after⟩, hunit, h⟩ := h
  obtain ⟨digits, rfl, hdigits⟩ := spellsUnit_of_unit? hunit
  have hn := hdigits.lt
  simp only at h
  split at h
  · next hvalid =>
    simp only [Option.pure_def, Option.some.injEq, Prod.mk.injEq] at h
    obtain ⟨rfl, rfl⟩ := h
    refine ⟨digits, rfl, .unit ?_⟩
    rw [Utf8.toNat_ofNat hvalid]
    exact hdigits
  · next hvalid =>
    split at h
    · next hleading =>
      rw [Nat.isValidChar] at hvalid
      split at h
      · next after' =>
        simp only [Option.bind_eq_some_iff] at h
        obtain ⟨⟨low, behind⟩, hunit', h⟩ := h
        obtain ⟨digits', rfl, hdigits'⟩ := spellsUnit_of_unit? hunit'
        simp only at h
        split at h
        · next htrailing =>
          simp only [Option.pure_def, Option.some.injEq, Prod.mk.injEq] at h
          obtain ⟨rfl, rfl⟩ := h
          refine ⟨digits ++ '\\' :: 'u' :: digits', by simp, ?_⟩
          refine .surrogates hdigits hdigits' (by omega) (by omega) htrailing.1 htrailing.2 ?_
          have hplane : (0x10000 + (n - 0xD800) * 1024 + (low - 0xDC00)).isValidChar := by
            rw [Nat.isValidChar]
            omega
          exact Utf8.toNat_ofNat hplane
        · cases h
      · cases h
    · cases h

/-- An escape is read as the character that it stands for. -/
theorem unescape?_of_spells {c : Char} {spelled : List Char} (h : Spells c ('\\' :: spelled)) (rest : List Char) :
    unescape? (spelled ++ rest) = some (c, rest) := by
  cases h with
  | plain _ _ hbackslash => exact absurd rfl hbackslash
  | letter h =>
    simp only [letterEscapes, List.mem_cons, List.not_mem_nil, or_false, Prod.mk.injEq] at h
    rcases h with ⟨rfl, rfl⟩ | ⟨rfl, rfl⟩ | ⟨rfl, rfl⟩ | ⟨rfl, rfl⟩ | ⟨rfl, rfl⟩ | ⟨rfl, rfl⟩ | ⟨rfl, rfl⟩ |
      ⟨rfl, rfl⟩ <;> rfl
  | unit hdigits => exact numbered?_of_spellsUnit hdigits rest
  | surrogates hdigits hdigits' hhigh hhigh' hlow hlow' hc =>
    exact numbered?_of_surrogates hdigits hdigits' hhigh hhigh' hlow hlow' hc rest

theorem spells_of_unescape? {s rest : List Char} {c : Char} (h : unescape? s = some (c, rest)) :
    ∃ spelled, s = spelled ++ rest ∧ Spells c ('\\' :: spelled) := by
  unfold unescape? at h
  split at h
  case h_9 after =>
    obtain ⟨spelled, rfl, hspelled⟩ := spells_of_numbered? h
    exact ⟨'u' :: spelled, rfl, hspelled⟩
  case h_10 => cases h
  all_goals
    simp only [Option.some.injEq, Prod.mk.injEq] at h
    obtain ⟨rfl, rfl⟩ := h
    exact ⟨[_], rfl, .letter (by decide)⟩

/-! ## Strings -/

theorem stringRest_mark (rest : List Char) : stringRest ('"' :: rest) = some ([], rest) := by
  rw [stringRest, if_pos rfl]

/-- In whatever way a character is written, it is read as itself. -/
theorem stringRest_of_spells {c : Char} {spelled : List Char} (h : Spells c spelled) (rest : List Char) :
    stringRest (spelled ++ rest) = (stringRest rest).map fun read => (c :: read.1, read.2) := by
  -- every way but the first begins with a backslash
  have hescape : ∀ {after : List Char}, Spells c ('\\' :: after) →
      stringRest ('\\' :: (after ++ rest)) = (stringRest rest).map fun read => (c :: read.1, read.2) := by
    intro after hspelled
    have hread := unescape?_of_spells hspelled rest
    rw [stringRest, if_neg (by decide), if_pos rfl]
    split
    · next d behind heq =>
      obtain ⟨rfl, rfl⟩ := Prod.mk.inj (Option.some.inj (hread.symm.trans heq))
      rfl
    · next heq =>
      rw [hread] at heq
      cases heq
  cases h with
  | plain hlarge hmark hbackslash =>
    rw [List.singleton_append, stringRest, if_neg hmark, if_neg hbackslash, if_neg (by omega)]
  | letter h => exact hescape (.letter h)
  | unit h => exact hescape (.unit h)
  | surrogates h h' hhigh hhigh' hlow hlow' hc => exact hescape (.surrogates h h' hhigh hhigh' hlow hlow' hc)

/-- In whatever way a string is written, it is read up to the closing mark. -/
theorem stringRest_of_spellsText {text spelled : List Char} (h : SpellsText text spelled) (rest : List Char) :
    stringRest (spelled ++ '"' :: rest) = some (text, rest) := by
  induction h with
  | nil => exact stringRest_mark rest
  | cons hchar _ ih => rw [List.append_assoc, stringRest_of_spells hchar, ih, Option.map_some]

theorem spellsText_of_stringRest {s text rest : List Char} (h : stringRest s = some (text, rest)) :
    ∃ spelled, s = spelled ++ '"' :: rest ∧ SpellsText text spelled := by
  fun_induction stringRest s generalizing text with
  | case1 => cases h
  | case2 after =>
    obtain ⟨rfl, rfl⟩ := Prod.mk.inj (Option.some.inj h)
    exact ⟨[], rfl, .nil⟩
  | case3 after c behind hescape _ ih =>
    obtain ⟨⟨text', rest'⟩, hread, hresult⟩ := Option.map_eq_some_iff.1 h
    obtain ⟨rfl, rfl⟩ := Prod.mk.inj hresult
    obtain ⟨escaped, rfl, hescaped⟩ := spells_of_unescape? hescape
    obtain ⟨spelled, rfl, hspelled⟩ := ih hread
    exact ⟨('\\' :: escaped) ++ spelled, by simp, .cons hescaped hspelled⟩
  | case4 => cases h
  | case5 => cases h
  | case6 c after hmark hbackslash hlarge ih =>
    obtain ⟨⟨text', rest'⟩, hread, hresult⟩ := Option.map_eq_some_iff.1 h
    obtain ⟨rfl, rfl⟩ := Prod.mk.inj hresult
    obtain ⟨spelled, rfl, hspelled⟩ := ih hread
    exact ⟨[c] ++ spelled, rfl, .cons (.plain (by omega) hmark hbackslash) hspelled⟩

theorem string?_of_spellsString {text : String} {spelled : List Char} (h : SpellsString text spelled)
    (rest : List Char) : string? (spelled ++ rest) = some (text, rest) := by
  cases h with
  | marks htext =>
    rw [List.cons_append, List.append_assoc, List.singleton_append, string?, stringRest_of_spellsText htext,
      Option.map_some, String.ofList_toList]

theorem spellsString_of_string? {s rest : List Char} {text : String} (h : string? s = some (text, rest)) :
    ∃ spelled, s = spelled ++ rest ∧ SpellsString text spelled := by
  unfold string? at h
  split at h
  · obtain ⟨⟨cs, rest'⟩, hread, hresult⟩ := Option.map_eq_some_iff.1 h
    obtain ⟨rfl, rfl⟩ := Prod.mk.inj hresult
    obtain ⟨spelled, rfl, hspelled⟩ := spellsText_of_stringRest hread
    refine ⟨'"' :: (spelled ++ ['"']), by simp, .marks ?_⟩
    rw [String.toList_ofList]
    exact hspelled
  · cases h

/-! ## Blanks -/

/-- Blanks are passed over up to a character that is none. -/
theorem skipGaps_append {gaps : List Char} (h : AllGaps gaps) {c : Char} (hc : isGap c = false) (rest : List Char) :
    skipGaps (gaps ++ c :: rest) = c :: rest := by
  rw [skipGaps, List.dropWhile_append_of_pos (List.all_eq_true.1 h),
    List.dropWhile_cons_of_neg (Bool.eq_false_iff.1 hc)]

/-- What is passed over are blanks. -/
theorem exists_gaps (s : List Char) : ∃ gaps, AllGaps gaps ∧ s = gaps ++ skipGaps s :=
  ⟨s.takeWhile isGap, List.all_takeWhile, List.takeWhile_append_dropWhile.symm⟩

/-! ## Arrays -/

theorem SpellsItems.exists_mark {texts : List String} {items : List Char} (h : SpellsItems texts items) :
    ∃ rest, items = '"' :: rest := by
  cases h with
  | last hspelled _ =>
    cases hspelled
    exact ⟨_, rfl⟩
  | cons hspelled _ _ _ =>
    cases hspelled
    exact ⟨_, rfl⟩

/-- The items are read up to the closing bracket, with as many steps as there are characters. -/
theorem stringItems_of_spellsItems {texts : List String} {items : List Char} (h : SpellsItems texts items) {fuel : Nat}
    (hfuel : items.length ≤ fuel) (rest : List Char) : stringItems fuel (items ++ rest) = some (texts, rest) := by
  induction h generalizing fuel with
  | @last text spelled after hspelled hafter =>
    cases fuel with
    | zero => simp at hfuel
    | succ fuel =>
      rw [List.append_assoc, List.append_assoc, List.singleton_append, stringItems, string?_of_spellsString hspelled]
      simp only [skipGaps_append hafter (show isGap ']' = false from rfl)]
  | @cons text texts spelled after before items hspelled hafter hbefore hitems ih =>
    cases fuel with
    | zero => simp at hfuel
    | succ fuel =>
      have hrest : items.length ≤ fuel := by
        simp only [List.length_append, List.length_cons] at hfuel
        omega
      have hfront : skipGaps (before ++ (items ++ rest)) = items ++ rest := by
        obtain ⟨inside, rfl⟩ := hitems.exists_mark
        exact skipGaps_append hbefore rfl (inside ++ rest)
      rw [List.append_assoc, List.append_assoc, List.cons_append, List.append_assoc, stringItems,
        string?_of_spellsString hspelled]
      simp only [skipGaps_append hafter (show isGap ',' = false from rfl), hfront, ih hrest, Option.map_some]

theorem spellsItems_of_stringItems {fuel : Nat} {s rest : List Char} {texts : List String}
    (h : stringItems fuel s = some (texts, rest)) : ∃ items, s = items ++ rest ∧ SpellsItems texts items := by
  induction fuel generalizing s texts with
  | zero => cases h
  | succ fuel ih =>
    rw [stringItems] at h
    split at h
    · cases h
    · next text after htext =>
      obtain ⟨spelled, rfl, hspelled⟩ := spellsString_of_string? htext
      obtain ⟨gaps, hgaps, hafter⟩ := exists_gaps after
      split at h
      · next rest' hskip =>
        obtain ⟨rfl, rfl⟩ := Prod.mk.inj (Option.some.inj h)
        rw [hskip] at hafter
        exact ⟨spelled ++ (gaps ++ [']']), by simp [hafter], .last hspelled hgaps⟩
      · next behind hskip =>
        obtain ⟨⟨texts', rest'⟩, hread, hresult⟩ := Option.map_eq_some_iff.1 h
        obtain ⟨rfl, rfl⟩ := Prod.mk.inj hresult
        obtain ⟨items, hitems, hspells⟩ := ih hread
        obtain ⟨gaps', hgaps', hbehind⟩ := exists_gaps behind
        rw [hskip, hbehind, hitems] at hafter
        exact ⟨spelled ++ (gaps ++ ',' :: (gaps' ++ items)), by simp [hafter], .cons hspelled hgaps hgaps' hspells⟩
      · cases h

/-- The items of an array and what follows it, after its opening bracket. -/
def arrayRest? (s : List Char) : Option (List String × List Char) :=
  match skipGaps s with
  | ']' :: after => some ([], after)
  | first => stringItems first.length first

theorem strings?_eq (document : String) :
    strings? document =
      match skipGaps document.toList with
      | '[' :: rest => (arrayRest? rest).bind fun read => if skipGaps read.2 = [] then some read.1 else none
      | _ => none := rfl

theorem arrayRest?_of_spellsArray {texts : List String} {spelled : List Char} (h : SpellsArray texts ('[' :: spelled))
    (rest : List Char) : arrayRest? (spelled ++ rest) = some (texts, rest) := by
  rw [arrayRest?]
  cases h with
  | empty hinside =>
    rw [List.append_assoc, List.singleton_append, skipGaps_append hinside rfl]
    rfl
  | @items _ before items hbefore hitems =>
    obtain ⟨inside, rfl⟩ := hitems.exists_mark
    have hfuel : ('"' :: inside).length ≤ ('"' :: (inside ++ rest)).length := by simp
    rw [List.append_assoc, List.cons_append, skipGaps_append hbefore rfl]
    exact stringItems_of_spellsItems hitems hfuel rest

theorem spellsArray_of_arrayRest? {s rest : List Char} {texts : List String} (h : arrayRest? s = some (texts, rest)) :
    ∃ spelled, s = spelled ++ rest ∧ SpellsArray texts ('[' :: spelled) := by
  obtain ⟨gaps, hgaps, hs⟩ := exists_gaps s
  rw [arrayRest?] at h
  split at h
  · next after hskip =>
    obtain ⟨rfl, rfl⟩ := Prod.mk.inj (Option.some.inj h)
    rw [hskip] at hs
    exact ⟨gaps ++ [']'], by simp [hs], .empty hgaps⟩
  · obtain ⟨items, hitems, hspells⟩ := spellsItems_of_stringItems h
    rw [hitems] at hs
    exact ⟨gaps ++ items, by simp [hs], .items hgaps hspells⟩

/-- The reader accepts the documents that hold an array of strings, and no others. -/
theorem strings?_eq_some_iff (document : String) (texts : List String) :
    strings? document = some texts ↔ SpellsDocument texts document.toList := by
  rw [strings?_eq]
  constructor
  · intro h
    obtain ⟨before, hbefore, hdocument⟩ := exists_gaps document.toList
    split at h
    · next rest hskip =>
      obtain ⟨⟨texts', after⟩, hread, h⟩ := Option.bind_eq_some_iff.1 h
      obtain ⟨spelled, hrest, hspelled⟩ := spellsArray_of_arrayRest? hread
      obtain ⟨gaps, hgaps, hafter⟩ := exists_gaps after
      split at h
      · next hend =>
        obtain rfl := Option.some.inj h
        rw [hend, List.append_nil] at hafter
        rw [hdocument, hskip, hrest, ← List.cons_append]
        exact .around hbefore hspelled (hafter ▸ hgaps)
      · cases h
    · cases h
  · intro h
    generalize document.toList = cs at h
    cases h with
    | @around before spelled after hbefore hspelled hafter =>
      have hend : skipGaps after = [] := List.dropWhile_eq_nil_iff.2 (List.all_eq_true.1 hafter)
      obtain ⟨inside, rfl⟩ : ∃ inside, spelled = '[' :: inside := by
        cases hspelled <;> exact ⟨_, rfl⟩
      rw [List.cons_append, skipGaps_append hbefore rfl]
      simp only [arrayRest?_of_spellsArray hspelled, Option.bind_some, hend, if_true]

/-! ## The writer -/

theorem hexValue?_hexDigit : ∀ n < 16, hexValue? (hexDigit n) = some n := by decide

theorem Spells.of_letter {c d letter : Char} (hc : c = d) (h : (letter, d) ∈ letterEscapes) :
    Spells c ['\\', letter] := .letter (hc ▸ h)

/-- The writer chooses one of the ways to write a character. -/
theorem spells_escape (c : Char) : Spells c (escape c) := by
  rw [escape]
  split_ifs with hmark hbackslash hb ht hn hf hr hcontrol
  · exact .of_letter hmark (by decide)
  · exact .of_letter hbackslash (by decide)
  · exact .of_letter hb (by decide)
  · exact .of_letter ht (by decide)
  · exact .of_letter hn (by decide)
  · exact .of_letter hf (by decide)
  · exact .of_letter hr (by decide)
  · have hdigits := SpellsUnit.digits (show hexValue? '0' = some 0 by decide) (show hexValue? '0' = some 0 by decide)
      (hexValue?_hexDigit (c.toNat / 16) (by omega)) (hexValue?_hexDigit (c.toNat % 16) (by omega))
    have hnumber : 0 * 4096 + 0 * 256 + c.toNat / 16 * 16 + c.toNat % 16 = c.toNat := by omega
    rw [hnumber] at hdigits
    exact .unit hdigits
  · exact .plain (by omega) hmark hbackslash

theorem spellsText_flatMap_escape (text : List Char) : SpellsText text (text.flatMap escape) := by
  induction text with
  | nil => exact .nil
  | cons c rest ih => exact .cons (spells_escape c) ih

theorem spellsString_quoteChars (text : String) : SpellsString text (quoteChars text.toList) :=
  .marks (spellsText_flatMap_escape text.toList)

theorem spellsItems_intercalate (text : String) (texts : List String) :
    SpellsItems (text :: texts) ([','].intercalate ((text :: texts).map fun t => quoteChars t.toList) ++ [']']) := by
  have hnone : AllGaps [] := rfl
  induction texts generalizing text with
  | nil =>
    rw [List.map_singleton, List.intercalate_singleton]
    exact .last (spellsString_quoteChars text) hnone
  | cons next rest ih =>
    have hitems := SpellsItems.cons (spellsString_quoteChars text) hnone hnone (ih next)
    simpa only [List.map_cons, List.intercalate_cons_cons, List.append_assoc, List.nil_append, List.singleton_append,
      List.cons_append] using hitems

/-- What the writer makes of some strings is an array of these strings. -/
theorem spellsArray_quoteAll (texts : List String) : SpellsArray texts (quoteAll texts).toList := by
  have hnone : AllGaps [] := rfl
  rw [quoteAll, String.toList_ofList, List.append_assoc, List.singleton_append]
  cases texts with
  | nil => exact .empty hnone
  | cons text rest => exact @SpellsArray.items _ [] _ hnone (spellsItems_intercalate text rest)

/-- What the writer makes of some strings is read as these strings. -/
theorem strings?_quoteAll (texts : List String) : strings? (quoteAll texts) = some texts := by
  have hnone : AllGaps [] := rfl
  have hdocument := SpellsDocument.around hnone (spellsArray_quoteAll texts) hnone
  rw [List.nil_append, List.append_nil] at hdocument
  exact (strings?_eq_some_iff _ _).2 hdocument

end AgentRelay.Json
