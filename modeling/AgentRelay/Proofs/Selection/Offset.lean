import AgentRelay.Proofs.Selection
import AgentRelay.Proofs.Utf8.Boundary

set_option autoImplicit false

/-!
# Selections at an offset

An offset counts bytes, so it can stand in front of a character, inside one, or beyond the end.  These cases say what
patterns select there (`selects_at_every_offset`):

* in front of a character, what they select in the rest of the name;
* inside a character no literal begins, because the byte there continues a character and no text begins with such a
  byte.  Only the empty literal is left, as at the end;
* beyond the end nothing, not even by the empty literal.
-/

namespace AgentRelay

/-! ## What is covered at an offset -/

variable {patterns : List String} {rest name : String} {offset : Nat}

/-- In front of a character a literal covers the name when it covers the rest of it. -/
theorem covers_of_standsBefore (h : Utf8.StandsBefore rest name offset) (literal : String) :
    covers literal name offset = covers literal rest 0 := by
  rw [Bool.eq_iff_iff, covers_iff, covers_zero_iff, Utf8.drop_of_standsBefore h,
    and_iff_right (Utf8.le_of_standsBefore h)]

/-- The empty literal covers every place up to the end. -/
theorem covers_empty (h : offset ≤ (Utf8.encode name).length) : covers "" name offset = true :=
  (covers_iff ..).2 ⟨h, List.nil_prefix⟩

/-- Where no text can begin, no literal but the empty one covers the name. -/
theorem covers_eq_false_of_no_lead (h : ∀ b ∈ ((Utf8.encode name).drop offset).head?, Utf8.isTail b = true)
    {literal : String} (hliteral : literal ≠ "") : covers literal name offset = false := by
  obtain ⟨lead, bytes, hencode, hlead⟩ := Utf8.exists_lead_of_ne_empty hliteral
  rw [← Bool.not_eq_true, covers_iff, hencode]
  rintro ⟨-, rest, hrest⟩
  have htail := h lead (by rw [← hrest]; rfl)
  rw [hlead] at htail
  exact Bool.false_ne_true htail

theorem covers_eq_false_of_beyond (h : (Utf8.encode name).length < offset) (literal : String) :
    covers literal name offset = false := by
  rw [← Bool.not_eq_true, covers_iff]
  exact fun hcovers => absurd hcovers.1 (Nat.not_le.2 h)

/-- Where the empty literal is the only one that covers, a name is selected when it is included and not excluded by
it. -/
theorem selects_iff_of_empty_only (hempty : covers "" name offset = true)
    (hother : ∀ literal, literal ≠ "" → covers literal name offset = false) :
    selects patterns name offset = true ↔ "" ∈ patterns ∧ "!" ∉ patterns := by
  rw [selects_iff]
  constructor
  · rintro ⟨⟨literal, hmem, -, hcovers⟩, hexcluded⟩
    constructor
    · by_cases hliteral : literal = ""
      · exact hliteral ▸ hmem
      · rw [hother literal hliteral] at hcovers
        exact absurd hcovers Bool.false_ne_true
    · intro hmark
      rw [hexcluded "" hmark] at hempty
      exact Bool.false_ne_true hempty
  · rintro ⟨hmem, hmark⟩
    refine ⟨⟨"", hmem, by simp, hempty⟩, fun literal hliteral => hother literal ?_⟩
    rintro rfl
    exact hmark hliteral

/-! ## What is selected at an offset -/

/-- At every offset: beyond the end of the name nothing is selected; in front of a character, what is selected in the
rest of the name; and at the end or inside a character the name is selected when the empty pattern is given and the
mark alone is not.  No offset stands anywhere else. -/
theorem selects_at_every_offset (patterns : List String) (name : String) (offset : Nat) :
    ((Utf8.encode name).length < offset → selects patterns name offset = false) ∧
      (∀ rest, Utf8.StandsBefore rest name offset → selects patterns name offset = selects patterns rest 0) ∧
      (Utf8.StandsInside name offset ∨ offset = (Utf8.encode name).length →
        (selects patterns name offset = true ↔ "" ∈ patterns ∧ "!" ∉ patterns)) ∧
      ((Utf8.encode name).length < offset ∨ (∃ rest, Utf8.StandsBefore rest name offset) ∨
        Utf8.StandsInside name offset) := by
  refine ⟨?_, ?_, ?_, Utf8.stands_somewhere name offset⟩
  · intro hbeyond
    exact selects_of_uncovered fun literal _ => covers_eq_false_of_beyond hbeyond literal
  · intro rest hbefore
    exact selects_congr fun literal _ => covers_of_standsBefore hbefore literal
  · rintro (hinside | hend)
    · obtain ⟨b, bytes, hdrop, htail⟩ := Utf8.exists_tail_of_standsInside hinside
      have hwithin : offset ≤ (Utf8.encode name).length := by
        have hlength := congrArg List.length hdrop
        rw [List.length_drop, List.length_cons] at hlength
        omega
      refine selects_iff_of_empty_only (covers_empty hwithin) fun literal hliteral => ?_
      exact covers_eq_false_of_no_lead (by simpa [hdrop] using htail) hliteral
    · refine selects_iff_of_empty_only (covers_empty (Nat.le_of_eq hend)) fun literal hliteral => ?_
      exact covers_eq_false_of_no_lead (by simp [hend]) hliteral

/-- Between the two bytes of the first character the empty pattern selects and nothing excludes; behind them the rest of
the name is excluded like a name of its own; and beyond the six bytes of the name nothing is selected. -/
theorem selects_at_every_offset_inside :
    (Utf8.StandsInside "é-Foo" 1 ∧ selects ["", "!-Foo"] "é-Foo" 1 = true) ∧
      (Utf8.StandsBefore "-Foo" "é-Foo" 2 ∧ selects ["", "!-Foo"] "é-Foo" 2 = selects ["", "!-Foo"] "-Foo" 0) ∧
      ((Utf8.encode "é-Foo").length < 7 ∧ selects ["", "!-Foo"] "é-Foo" 7 = false) := by
  have hinside : Utf8.StandsInside "é-Foo" 1 := ⟨"", 'é', "-Foo", by decide, by decide, by decide⟩
  have hbefore : Utf8.StandsBefore "-Foo" "é-Foo" 2 := ⟨"é", by decide, by decide⟩
  have hbeyond : (Utf8.encode "é-Foo").length < 7 := by decide
  obtain ⟨-, -, hwithin, -⟩ := selects_at_every_offset ["", "!-Foo"] "é-Foo" 1
  obtain ⟨-, hrest, -, -⟩ := selects_at_every_offset ["", "!-Foo"] "é-Foo" 2
  obtain ⟨hnothing, -, -, -⟩ := selects_at_every_offset ["", "!-Foo"] "é-Foo" 7
  exact ⟨⟨hinside, (hwithin (.inl hinside)).2 (by decide)⟩, ⟨hbefore, hrest _ hbefore⟩, ⟨hbeyond, hnothing hbeyond⟩⟩

end AgentRelay
