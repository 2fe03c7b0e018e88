import AgentRelay.Proofs.Utf8
import Mathlib.Data.String.Basic

set_option autoImplicit false

/-!
# The order of bytes is the order of characters

Texts are compared character by character, and their bytes byte by byte.  Both give the same order
(`encode_le_iff`): a greater character has a greater lead byte, or the same lead byte and a greater remainder in the
bytes after it.  So a table that is sorted by the bytes of its keys is sorted by its keys, and the other way round.
-/

namespace AgentRelay.Utf8

/-- The sequences of two characters compare like the characters, whatever follows them. -/
theorem encodeChar_append_lt {c d : Char} (h : c < d) (rest rest' : Bytes) :
    String.utf8EncodeChar c ++ rest < String.utf8EncodeChar d ++ rest' := by
  have hc := toNat_range c
  have hd := toNat_range d
  have hlt : c.toNat < d.toNat := h
  rw [encodeChar_eq, encodeChar_eq]
  generalize c.toNat = m at hc hlt ⊢
  generalize d.toNat = n at hd hlt ⊢
  -- the lead bytes of the longest sequences do not wrap around
  have hm : (m / 262144 % 8 + 0xF0) % 2 ^ 8 = m / 262144 + 0xF0 := by omega
  have hn : (n / 262144 % 8 + 0xF0) % 2 ^ 8 = n / 262144 + 0xF0 := by omega
  -- one case for each pair of lengths that the order admits
  split_ifs
  all_goals
    first
    | omega
    | simp only [List.cons_append, List.nil_append, List.cons_lt_cons_iff, UInt8.lt_iff_toNat_lt, ← UInt8.toNat_inj,
        toNat_tail, UInt8.toNat_ofNat', hm, hn]
      omega

theorem encode_lt_of_lt {a b : String} (h : a < b) : encode a < encode b := by
  have hchars : ∀ {cs ds : List Char}, cs < ds →
      cs.flatMap String.utf8EncodeChar < ds.flatMap String.utf8EncodeChar := by
    intro cs ds h
    induction h with
    | nil =>
      -- a character has at least one byte
      obtain ⟨b, rest, hchar⟩ := List.exists_cons_of_ne_nil String.utf8EncodeChar_ne_nil
      rw [List.flatMap_nil, List.flatMap_cons, hchar]
      exact List.nil_lt_cons b _
    | rel h => exact encodeChar_append_lt h _ _
    | cons _ ih => exact List.append_left_lt ih
  exact hchars (String.lt_iff_toList_lt.1 h)

theorem encode_lt_iff (a b : String) : encode a < encode b ↔ a < b := by
  refine ⟨fun h => ?_, encode_lt_of_lt⟩
  rcases lt_trichotomy a b with hlt | heq | hgt
  · exact hlt
  · exact absurd (heq ▸ h) (List.lt_irrefl _)
  · exact absurd (encode_lt_of_lt hgt) (List.lt_asymm h)

/-- The bytes of texts compare like the texts. -/
theorem encode_le_iff (a b : String) : encode a ≤ encode b ↔ a ≤ b := by
  rw [← List.not_lt, encode_lt_iff, String.not_lt]

end AgentRelay.Utf8
