import AgentRelay.Proofs.Utf8

set_option autoImplicit false

/-!
# Where an offset stands in a text

The bytes of a character are one that continues nothing and then bytes that continue it (`exists_lead`).  So an offset
that stands inside a character has a continuing byte behind it (`exists_tail_of_standsInside`), and no text begins with
one (`exists_lead_of_ne_empty`).

Every offset stands in front of a character or at the end, inside a character, or beyond the end (`stands_somewhere`).
-/

namespace AgentRelay.Utf8

/-! ## The bytes of a character -/

/-- The first byte of a character continues nothing, and every further one does. -/
theorem exists_lead (c : Char) :
    ∃ lead tails, String.utf8EncodeChar c = lead :: tails ∧ isTail lead = false ∧ ∀ b ∈ tails, isTail b = true := by
  have hvalid := toNat_range c
  have hlead : ∀ {n : Nat}, n < 256 → n < 0x80 ∨ 0xBF < n → isTail (UInt8.ofNat n) = false := by
    intro n hn hrange
    rw [← Bool.not_eq_true, isTail_iff, toNat_byte hn]
    omega
  rw [encodeChar_eq]
  generalize c.toNat = n at hvalid ⊢
  split
  · exact ⟨_, _, rfl, hlead (by omega) (by omega), fun b hb => absurd hb List.not_mem_nil⟩
  · split
    · refine ⟨_, _, rfl, hlead (by omega) (by omega), ?_⟩
      simp [isTail_tail]
    · split
      · refine ⟨_, _, rfl, hlead (by omega) (by omega), ?_⟩
        simp [isTail_tail]
      · refine ⟨_, _, rfl, hlead (by omega) (by omega), ?_⟩
        simp [isTail_tail]

/-- No text begins with a byte that continues a character. -/
theorem exists_lead_of_ne_empty {text : String} (h : text ≠ "") :
    ∃ lead bytes, encode text = lead :: bytes ∧ isTail lead = false := by
  obtain ⟨c, rest, hchars⟩ := List.exists_cons_of_ne_nil (fun hnil => h (String.toList_eq_nil_iff.1 hnil))
  obtain ⟨lead, tails, hchar, hlead, -⟩ := exists_lead c
  exact ⟨lead, _, by rw [encode, hchars, List.flatMap_cons, hchar, List.cons_append], hlead⟩

/-! ## Offsets -/

/-- The offset stands in front of a character of the text or at its end, and `rest` is what follows. -/
def StandsBefore (rest text : String) (offset : Nat) : Prop :=
  ∃ front : String, text = front ++ rest ∧ (encode front).length = offset

/-- The offset stands between two bytes of one character of the text. -/
def StandsInside (text : String) (offset : Nat) : Prop :=
  ∃ (front : String) (c : Char) (rest : String), text = front.push c ++ rest ∧ (encode front).length < offset ∧
    offset < (encode (front.push c)).length

/-- An offset stands in front of a character or at the end, inside a character, or beyond the end. -/
theorem stands_somewhere (text : String) (offset : Nat) :
    (encode text).length < offset ∨ (∃ rest, StandsBefore rest text offset) ∨ StandsInside text offset := by
  -- the characters from the first on that the offset does not leave behind whole
  have hchars : ∀ (cs : List Char) (front : String), (encode front).length ≤ offset →
      (encode (front ++ String.ofList cs)).length < offset ∨
        (∃ rest, StandsBefore rest (front ++ String.ofList cs) offset) ∨
        StandsInside (front ++ String.ofList cs) offset := by
    intro cs
    induction cs with
    | nil =>
      intro front hfront
      rcases Nat.lt_or_eq_of_le hfront with hlt | heq
      · exact .inl (by simpa using hlt)
      · exact .inr (.inl ⟨"", front, rfl, heq⟩)
    | cons c cs ih =>
      intro front hfront
      have hsplit : front ++ String.ofList (c :: cs) = front.push c ++ String.ofList cs := by
        rw [← String.toList_inj]
        simp
      rcases Nat.lt_or_eq_of_le hfront with hlt | heq
      · rcases Nat.lt_or_ge offset (encode (front.push c)).length with hinside | hbehind
        · exact .inr (.inr ⟨front, c, String.ofList cs, hsplit, hlt, hinside⟩)
        · rw [hsplit]
          exact ih (front.push c) hbehind
      · exact .inr (.inl ⟨_, front, rfl, heq⟩)
  simpa using hchars text.toList "" (Nat.zero_le offset)

variable {rest text : String} {offset : Nat}

theorem drop_of_standsBefore (h : StandsBefore rest text offset) : (encode text).drop offset = encode rest := by
  obtain ⟨front, rfl, rfl⟩ := h
  rw [encode_append, List.drop_left]

theorem le_of_standsBefore (h : StandsBefore rest text offset) : offset ≤ (encode text).length := by
  obtain ⟨front, rfl, rfl⟩ := h
  rw [encode_append, List.length_append]
  exact Nat.le_add_right _ _

/-- Inside a character stands a byte that continues it. -/
theorem exists_tail_of_standsInside (h : StandsInside text offset) :
    ∃ b bytes, (encode text).drop offset = b :: bytes ∧ isTail b = true := by
  obtain ⟨front, c, rest, rfl, hfront, hbehind⟩ := h
  obtain ⟨lead, tails, hchar, -, htails⟩ := exists_lead c
  have hpush : encode (front.push c) = encode front ++ lead :: tails := by
    rw [encode, String.toList_push, List.flatMap_append, List.flatMap_singleton, hchar, encode]
  obtain ⟨k, rfl⟩ : ∃ k, offset = (encode front).length + (k + 1) :=
    ⟨offset - (encode front).length - 1, by omega⟩
  have hk : k < tails.length := by
    rw [hpush, List.length_append, List.length_cons] at hbehind
    omega
  refine ⟨tails[k], tails.drop (k + 1) ++ encode rest, ?_, htails _ (List.getElem_mem hk)⟩
  rw [encode_append, hpush, List.append_assoc, List.drop_length_add_append, List.cons_append, List.drop_succ_cons,
    List.drop_append_of_le_length (Nat.le_of_lt hk), List.drop_eq_getElem_cons hk, List.cons_append]

end AgentRelay.Utf8
