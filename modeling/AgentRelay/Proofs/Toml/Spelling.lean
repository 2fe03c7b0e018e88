import AgentRelay.Toml.Scalar
import Mathlib.Data.List.Basic

set_option autoImplicit false

/-!
# Texts between quotation marks

A character can be written between double quotation marks in several ways: as it is, if it may stand for itself, by
a letter after a backslash, or by its number.  `Spells` is the grammar of these ways and mentions no reader.

Whatever way is chosen for each character, the text is read back (`basicString_of_spellsText`).  And there is always
a way: a character that may not stand for itself is ASCII, and it has a number of four digits (`spellsText_spelling`).
-/

namespace AgentRelay.Toml

/-! ## Ways to write a character -/

/-- The characters that a letter after a backslash stands for. -/
def letterEscapes : List (Char × Char) :=
  [('b', '\x08'), ('t', '\t'), ('n', '\n'), ('f', '\x0C'), ('r', '\r'), ('"', '"'), ('\\', '\\')]

/-- The letters that announce the number of a character, and how many digits it has. -/
def numberEscapes : List (Char × Nat) := [('u', 4), ('U', 8)]

/-- The ways to write a character between double quotation marks. -/
inductive Spells : Char → List Char → Prop where
  | plain {c : Char} : isBasic c = true → Spells c [c]
  | letter {c letter : Char} : (letter, c) ∈ letterEscapes → Spells c ['\\', letter]
  | number {c letter : Char} {digits : List Char} : (letter, digits.length) ∈ numberEscapes →
      digits.all isHexDigit = true → numberOf 16 digits = c.toNat →
      Spells c ('\\' :: letter :: digits)

/-- The ways to write a text between double quotation marks, each character in its own way. -/
inductive SpellsText : List Char → List Char → Prop where
  | nil : SpellsText [] []
  | cons {c : Char} {text spelled rest : List Char} : Spells c spelled → SpellsText text rest →
      SpellsText (c :: text) (spelled ++ rest)

/-! ## Reading what was written -/

theorem basicString_mark (rest : List Char) : basicString ('"' :: rest) = some ([], rest) := by
  rw [basicString, if_pos rfl]

theorem basicString_plain {c : Char} (h : isBasic c = true) (rest : List Char) :
    basicString (c :: rest) = push c (basicString rest) := by
  have hmark : c ≠ '"' := by
    rintro rfl
    exact absurd h (by decide)
  have hbackslash : c ≠ '\\' := by
    rintro rfl
    exact absurd h (by decide)
  rw [basicString, if_neg hmark, if_neg hbackslash, if_pos h]

theorem basicString_escape {c : Char} {rest after : List Char} (h : escaped rest = some (c, after)) :
    basicString ('\\' :: rest) = push c (basicString after) := by
  have hmark : '\\' ≠ '"' := by decide
  rw [basicString, if_neg hmark, if_pos rfl]
  split
  · next d after' heq =>
    obtain ⟨rfl, rfl⟩ := Prod.mk.inj (Option.some.inj (h.symm.trans heq))
    rfl
  · next heq =>
    rw [h] at heq
    cases heq

/-- The digits of a number are read up to the last one. -/
theorem escapedScalar_digits {c : Char} {digits : List Char} (hdigits : digits.all isHexDigit = true)
    (hnumber : numberOf 16 digits = c.toNat) (rest : List Char) :
    escapedScalar digits.length (digits ++ rest) = some (c, rest) := by
  have hcode : digits.foldl (fun n c => n * 16 + hexValue c) 0 = c.toNat := hnumber
  have hvalid : c.toNat.isValidChar := c.valid
  simp only [escapedScalar, List.take_left, List.drop_left, hcode, hdigits, hvalid, and_self, if_true, Char.ofNat_toNat]

/-- An escape is read as the character that it stands for. -/
theorem escaped_of_spells {c : Char} {spelled : List Char} (h : Spells c ('\\' :: spelled)) (rest : List Char) :
    escaped (spelled ++ rest) = some (c, rest) := by
  cases h with
  | plain h => exact absurd h (by decide)
  | letter h =>
    simp only [letterEscapes, List.mem_cons, List.not_mem_nil, or_false, Prod.mk.injEq] at h
    rcases h with ⟨rfl, rfl⟩ | ⟨rfl, rfl⟩ | ⟨rfl, rfl⟩ | ⟨rfl, rfl⟩ | ⟨rfl, rfl⟩ | ⟨rfl, rfl⟩ | ⟨rfl, rfl⟩ <;> rfl
  | number h hdigits hnumber =>
    have hread := escapedScalar_digits hdigits hnumber rest
    simp only [numberEscapes, List.mem_cons, List.not_mem_nil, or_false, Prod.mk.injEq] at h
    rcases h with ⟨rfl, hlength⟩ | ⟨rfl, hlength⟩
    · rw [hlength] at hread
      exact hread
    · rw [hlength] at hread
      exact hread

/-- In whatever way a character is written, it is read as itself. -/
theorem basicString_of_spells {c : Char} {spelled : List Char} (h : Spells c spelled) (rest : List Char) :
    basicString (spelled ++ rest) = push c (basicString rest) := by
  cases h with
  | plain h => exact basicString_plain h rest
  | letter h => exact basicString_escape (escaped_of_spells (.letter h) rest)
  | number h hdigits hnumber => exact basicString_escape (escaped_of_spells (.number h hdigits hnumber) rest)

/-- In whatever way a text is written, it is read up to the closing mark. -/
theorem basicString_of_spellsText {text spelled : List Char} (h : SpellsText text spelled) (rest : List Char) :
    basicString (spelled ++ '"' :: rest) = some (text, rest) := by
  induction h with
  | nil => exact basicString_mark rest
  | cons hchar _ ih =>
    rw [List.append_assoc, basicString_of_spells hchar, ih]
    rfl

/-! ## A way to write every text -/

/-- A text whose characters may all stand for themselves is written as it is. -/
theorem spellsText_self {text : List Char} (h : text.all isBasic = true) : SpellsText text text := by
  induction text with
  | nil => exact .nil
  | cons c rest ih =>
    rw [List.all_cons, Bool.and_eq_true] at h
    exact .cons (.plain h.1) (ih h.2)

/-- The digit of a number below 16. -/
def hexDigit (n : Nat) : Char := "0123456789ABCDEF".toList.getD n '0'

/-- A character as it is, if it may stand for itself, and by its number otherwise. -/
def spelling (c : Char) : List Char :=
  if isBasic c then [c] else ['\\', 'u', '0', '0', hexDigit (c.toNat / 16), hexDigit (c.toNat % 16)]

theorem hexDigit_spec : ∀ n < 16, isHexDigit (hexDigit n) = true ∧ hexValue (hexDigit n) = n := by decide

/-- A character that may not stand for itself is ASCII. -/
theorem toNat_lt_of_not_isBasic {c : Char} (h : ¬ isBasic c = true) : c.toNat < 0x80 := by
  by_contra hlarge
  have hbeyond : isBeyondAscii c = true := decide_eq_true (by omega)
  have hmark : c ≠ '"' := by
    rintro rfl
    exact hlarge (by decide)
  have hbackslash : c ≠ '\\' := by
    rintro rfl
    exact hlarge (by decide)
  exact h (by simp [isBasic, isVisible, hbeyond, hmark, hbackslash])

theorem spells_spelling (c : Char) : Spells c (spelling c) := by
  rw [spelling]
  split
  · next h => exact .plain h
  · next h =>
    have hsmall := toNat_lt_of_not_isBasic h
    obtain ⟨hhigh, hhighValue⟩ := hexDigit_spec (c.toNat / 16) (by omega)
    obtain ⟨hlow, hlowValue⟩ := hexDigit_spec (c.toNat % 16) (by omega)
    refine .number (.head _) ?_ ?_
    · have hzero : isHexDigit '0' = true := by decide
      simp only [List.all_cons, List.all_nil, hzero, hhigh, hlow, Bool.and_self]
    · have hzero : hexValue '0' = 0 := by decide
      simp only [numberOf, List.foldl_cons, List.foldl_nil, hzero, hhighValue, hlowValue]
      omega

theorem spellsText_spelling (text : List Char) : SpellsText text (text.flatMap spelling) := by
  induction text with
  | nil => exact .nil
  | cons c rest ih => exact .cons (spells_spelling c) ih

end AgentRelay.Toml
