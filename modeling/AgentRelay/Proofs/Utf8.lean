import AgentRelay.Proofs.Traversal
import AgentRelay.Text.Utf8
import Mathlib.Data.List.Basic

set_option autoImplicit false

/-!
# Encoded text is read back

The bytes of a text split into one piece for each of its characters (`pieces_encode`).  So strict reading gives the
text back (`decode?_encode`), and lenient reading agrees with it there (`decodeLossy_encode`).

The byte 0 stands in the bytes of a text exactly when the character NUL stands in the text (`zero_mem_encode`): no
byte of a longer sequence is below 0x80.
-/

namespace AgentRelay.Utf8

/-! ## The ranges of bytes as ranges of numbers -/

theorem isTail_iff (b : UInt8) : isTail b = true ↔ 0x80 ≤ b.toNat ∧ b.toNat ≤ 0xBF := by
  simp [isTail, UInt8.le_iff_toNat_le]

theorem isSecondOfThree_iff (lead b : UInt8) :
    isSecondOfThree lead b = true ↔
      0x80 ≤ b.toNat ∧ b.toNat ≤ 0xBF ∧ (lead.toNat = 0xE0 → 0xA0 ≤ b.toNat) ∧
        (lead.toNat = 0xED → b.toNat ≤ 0x9F) := by
  simp only [isSecondOfThree, beq_iff_eq, ← UInt8.toNat_inj]
  split
  · next h => simp [h, UInt8.le_iff_toNat_le]; omega
  · split
    · next h => simp [h, UInt8.le_iff_toNat_le]; omega
    · next h h' =>
      simp only [isTail_iff]
      simp at h h'
      simp [h, h']

theorem isSecondOfFour_iff (lead b : UInt8) :
    isSecondOfFour lead b = true ↔
      0x80 ≤ b.toNat ∧ b.toNat ≤ 0xBF ∧ (lead.toNat = 0xF0 → 0x90 ≤ b.toNat) ∧
        (lead.toNat = 0xF4 → b.toNat ≤ 0x8F) := by
  simp only [isSecondOfFour, beq_iff_eq, ← UInt8.toNat_inj]
  split
  · next h => simp [h, UInt8.le_iff_toNat_le]; omega
  · split
    · next h => simp [h, UInt8.le_iff_toNat_le]; omega
    · next h h' =>
      simp only [isTail_iff]
      simp at h h'
      simp [h, h']

/-! ## One piece for each well-formed sequence -/

theorem next_one {a : UInt8} (ha : a.toNat < 0x80) (rest : Bytes) :
    next a rest = (.char (Char.ofNat a.toNat), rest) := by
  simp [next, UInt8.lt_iff_toNat_lt, ha]

theorem next_two {a b : UInt8} (ha : 0xC2 ≤ a.toNat) (ha' : a.toNat ≤ 0xDF) (hb : isTail b = true) (rest : Bytes) :
    next a (b :: rest) = (.char (pair a b), rest) := by
  have h80 : ¬ a.toNat < 0x80 := by omega
  simp [next, UInt8.lt_iff_toNat_lt, UInt8.le_iff_toNat_le, h80, ha, ha', hb]

theorem next_three {a b c : UInt8} (ha : 0xE0 ≤ a.toNat) (ha' : a.toNat ≤ 0xEF)
    (hb : isSecondOfThree a b = true) (hc : isTail c = true) (rest : Bytes) :
    next a (b :: c :: rest) = (.char (triple a b c), rest) := by
  have h80 : ¬ a.toNat < 0x80 := by omega
  have hDF : ¬ a.toNat ≤ 0xDF := by omega
  simp [next, UInt8.lt_iff_toNat_lt, UInt8.le_iff_toNat_le, h80, hDF, ha, ha', hb, hc]

theorem next_four {a b c d : UInt8} (ha : 0xF0 ≤ a.toNat) (ha' : a.toNat ≤ 0xF4)
    (hb : isSecondOfFour a b = true) (hc : isTail c = true) (hd : isTail d = true) (rest : Bytes) :
    next a (b :: c :: d :: rest) = (.char (quadruple a b c d), rest) := by
  have h80 : ¬ a.toNat < 0x80 := by omega
  have hDF : ¬ a.toNat ≤ 0xDF := by omega
  have hEF : ¬ a.toNat ≤ 0xEF := by omega
  simp [next, UInt8.lt_iff_toNat_lt, UInt8.le_iff_toNat_le, h80, hDF, hEF, ha, ha', hb, hc, hd]

/-! ## The sequence of a character -/

/-- A character is no surrogate. -/
theorem toNat_range (c : Char) : c.toNat < 0xD800 ∨ (0xDFFF < c.toNat ∧ c.toNat < 0x110000) := c.valid

/-- The number of a character is the one that it was made of. -/
theorem toNat_ofNat {n : Nat} (h : n.isValidChar) : (Char.ofNat n).toNat = n := by
  rw [Char.ofNat, dif_pos h]
  rfl

/-- A number below 256 is the value of its byte. -/
theorem toNat_byte {n : Nat} (h : n < 256) : (UInt8.ofNat n).toNat = n := UInt8.toNat_ofNat_of_lt' h

/-- The byte that carries the low six bits of a number. -/
def tail (n : Nat) : UInt8 := UInt8.ofNat (n % 0x40 + 0x80)

theorem toNat_tail (n : Nat) : (tail n).toNat = n % 0x40 + 0x80 := toNat_byte (by omega)

theorem isTail_tail (n : Nat) : isTail (tail n) = true := by
  rw [isTail_iff, toNat_tail]
  omega

theorem payload_tail (n : Nat) : payload (tail n) = n % 0x40 := by
  rw [payload, toNat_tail]
  omega

/-- The sequence of a character: its lead byte says how many tails follow. -/
theorem encodeChar_eq (c : Char) :
    String.utf8EncodeChar c =
      if c.toNat ≤ 0x7F then [UInt8.ofNat c.toNat]
      else if c.toNat ≤ 0x7FF then [UInt8.ofNat (c.toNat / 64 % 0x20 + 0xC0), tail c.toNat]
      else if c.toNat ≤ 0xFFFF then
        [UInt8.ofNat (c.toNat / 4096 % 0x10 + 0xE0), tail (c.toNat / 64), tail c.toNat]
      else
        [UInt8.ofNat (c.toNat / 262144 % 0x08 + 0xF0), tail (c.toNat / 4096), tail (c.toNat / 64), tail c.toNat] :=
  rfl

/-- The sequence of a character makes one piece, whatever follows it. -/
theorem pieces_encodeChar_append (c : Char) (rest : Bytes) :
    pieces (String.utf8EncodeChar c ++ rest) = .char c :: pieces rest := by
  have hvalid := toNat_range c
  have hchar := Char.ofNat_toNat c
  rw [encodeChar_eq]
  generalize c.toNat = n at hvalid hchar ⊢
  split
  · have ha : (UInt8.ofNat n).toNat = n := toNat_byte (by omega)
    rw [List.singleton_append, pieces_cons, next_one (by omega), ha, hchar]
  · split
    · have ha : (UInt8.ofNat (n / 64 % 0x20 + 0xC0)).toNat = n / 64 + 0xC0 := by
        rw [toNat_byte (by omega)]
        omega
      have hvalue : (n / 64 + 0xC0) % 32 * 64 + n % 0x40 = n := by omega
      rw [List.cons_append, List.singleton_append, pieces_cons,
        next_two (by omega) (by omega) (isTail_tail n), pair, ha, payload_tail, hvalue, hchar]
    · split
      · have ha : (UInt8.ofNat (n / 4096 % 0x10 + 0xE0)).toNat = n / 4096 + 0xE0 := by
          rw [toNat_byte (by omega)]
          omega
        have hsecond : isSecondOfThree (UInt8.ofNat (n / 4096 % 0x10 + 0xE0)) (tail (n / 64)) = true := by
          rw [isSecondOfThree_iff, ha, toNat_tail]
          omega
        have hvalue : (n / 4096 + 0xE0) % 16 * 4096 + n / 64 % 0x40 * 64 + n % 0x40 = n := by omega
        rw [List.cons_append, List.cons_append, List.singleton_append, pieces_cons,
          next_three (by omega) (by omega) hsecond (isTail_tail n), triple, ha, payload_tail, payload_tail,
          hvalue, hchar]
      · have ha : (UInt8.ofNat (n / 262144 % 0x08 + 0xF0)).toNat = n / 262144 + 0xF0 := by
          rw [toNat_byte (by omega)]
          omega
        have hsecond : isSecondOfFour (UInt8.ofNat (n / 262144 % 0x08 + 0xF0)) (tail (n / 4096)) = true := by
          rw [isSecondOfFour_iff, ha, toNat_tail]
          omega
        have hvalue : (n / 262144 + 0xF0) % 8 * 262144 + n / 4096 % 0x40 * 4096 + n / 64 % 0x40 * 64 +
            n % 0x40 = n := by omega
        rw [List.cons_append, List.cons_append, List.cons_append, List.singleton_append, pieces_cons,
          next_four (by omega) (by omega) hsecond (isTail_tail _) (isTail_tail n), quadruple, ha, payload_tail,
          payload_tail, payload_tail, hvalue, hchar]

/-- Every byte in the sequence of a character that is not ASCII is at least 0x80. -/
theorem high_of_mem_encodeChar {c : Char} (hc : 0x80 ≤ c.toNat) {b : UInt8} (hb : b ∈ String.utf8EncodeChar c) :
    0x80 ≤ b.toNat := by
  have htail : ∀ n, 0x80 ≤ (tail n).toNat := by
    intro n
    rw [toNat_tail]
    omega
  rw [encodeChar_eq, if_neg (by omega)] at hb
  split at hb
  · simp only [List.mem_cons, List.not_mem_nil, or_false] at hb
    obtain rfl | rfl := hb
    · rw [toNat_byte (by omega)]
      omega
    · exact htail _
  · split at hb
    · simp only [List.mem_cons, List.not_mem_nil, or_false] at hb
      obtain rfl | rfl | rfl := hb
      · rw [toNat_byte (by omega)]
        omega
      all_goals exact htail _
    · simp only [List.mem_cons, List.not_mem_nil, or_false] at hb
      obtain rfl | rfl | rfl | rfl := hb
      · rw [toNat_byte (by omega)]
        omega
      all_goals exact htail _

/-- An ASCII character is its own byte, and no other character has that byte in its sequence. -/
theorem ascii_mem_encodeChar {d : Char} (hd : d.toNat < 0x80) (c : Char) :
    UInt8.ofNat d.toNat ∈ String.utf8EncodeChar c ↔ c = d := by
  have hbyte : (UInt8.ofNat d.toNat).toNat = d.toNat := toNat_byte (by omega)
  by_cases hc : c.toNat < 0x80
  · rw [encodeChar_eq, if_pos (by omega), List.mem_singleton, ← UInt8.toNat_inj, hbyte, toNat_byte (by omega),
      Char.toNat_inj]
    exact eq_comm
  · constructor
    · intro hmem
      have := high_of_mem_encodeChar (by omega) hmem
      omega
    · intro h
      rw [h] at hc
      omega

/-! ## The bytes of a text -/

theorem encode_append (a b : String) : encode (a ++ b) = encode a ++ encode b := by
  rw [encode, String.toList_append, List.flatMap_append, encode, encode]

/-- The bytes of a text split into its characters. -/
theorem pieces_encode (text : String) : pieces (encode text) = text.toList.map .char := by
  unfold encode
  induction text.toList with
  | nil => exact pieces_nil
  | cons c rest ih => rw [List.flatMap_cons, pieces_encodeChar_append, ih, List.map_cons]

/-- Pieces that are all read as characters are these characters. -/
theorem mapM_char?_eq_some_iff (ps : List Piece) (cs : List Char) :
    ps.mapM Piece.char? = some cs ↔ ps = cs.map .char := by
  refine mapM_eq_some_iff_eq_map fun p c => ?_
  cases p <;> simp [Piece.char?]

/-- Strict reading gives an encoded text back. -/
theorem decode?_encode (text : String) : decode? (encode text) = some text := by
  rw [decode?, pieces_encode, (mapM_char?_eq_some_iff ..).2 rfl, Option.map_some, String.ofList_toList]

/-- Lenient reading gives an encoded text back. -/
theorem decodeLossy_encode (text : String) : decodeLossy (encode text) = text := by
  rw [decodeLossy, pieces_encode, List.map_map, show Piece.shown ∘ Piece.char = id from rfl, List.map_id,
    String.ofList_toList]

theorem encode_injective {a b : String} (h : encode a = encode b) : a = b := by
  have := decode?_encode a
  rw [h, decode?_encode b] at this
  exact (Option.some.inj this).symm

/-! ## ASCII bytes -/

/-- The bytes of a text hold the byte of an ASCII character exactly when the text holds the character. -/
theorem ascii_mem_encode {d : Char} (hd : d.toNat < 0x80) (text : String) :
    UInt8.ofNat d.toNat ∈ encode text ↔ d ∈ text.toList := by
  simp only [encode, List.mem_flatMap, ascii_mem_encodeChar hd, exists_eq_right]

/-- The bytes of a text hold a NUL exactly when the text does. -/
theorem zero_mem_encode (text : String) : (0 : UInt8) ∈ encode text ↔ '\x00' ∈ text.toList :=
  ascii_mem_encode (d := '\x00') (by decide) text

end AgentRelay.Utf8
