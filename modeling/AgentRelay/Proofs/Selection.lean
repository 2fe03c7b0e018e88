import AgentRelay.Selection
import Mathlib.Data.List.Infix
import Mathlib.Data.List.MinMax

set_option autoImplicit false

/-!
# Selections are decided on literals

Patterns select a name when one without the mark covers it and no text behind a mark does (`selects_iff`).  So it
depends on which of their literals cover the name at the offset, and on nothing else (`selects_congr`).  All literals
that cover the name there begin with the same bytes, so the longest of them holds the others in front, and at its own
front it is covered by precisely these (`exists_longest`).

So the literals of two lists of patterns are names enough to tell the lists apart (`selects_eq_iff_on_literals`).  The
bytes after the offset need not be text: the offset may lie inside a character, and only beginnings are compared.
-/

namespace AgentRelay

variable {patterns : List String} {name name' : String} {offset offset' : Nat}

/-! ## Coverage -/

/-- A literal covers a name when its bytes stand at the offset, which is not beyond the end. -/
theorem covers_iff (literal name : String) (offset : Nat) :
    covers literal name offset = true ↔
      offset ≤ (Utf8.encode name).length ∧ Utf8.encode literal <+: (Utf8.encode name).drop offset := by
  simp only [covers, Bool.and_eq_true, decide_eq_true_eq, List.isPrefixOf_iff_prefix]

/-- A literal covers a name at its front when the name begins with it. -/
theorem covers_zero_iff (literal name : String) :
    covers literal name 0 = true ↔ Utf8.encode literal <+: Utf8.encode name := by
  rw [covers_iff, List.drop_zero, and_iff_right (Nat.zero_le _)]

/-- The literals of patterns, which are given as they are written. -/
def literals (patterns : List String) : List String := patterns.map fun raw => (Pattern.parse raw).literal

/-- Patterns select by the literals that cover, whatever the name and the offset. -/
theorem selects_congr
    (h : ∀ literal ∈ literals patterns, covers literal name offset = covers literal name' offset') :
    selects patterns name offset = selects patterns name' offset' := by
  have hhits : ∀ p ∈ patterns.map Pattern.parse, p.hits name offset = p.hits name' offset' := by
    intro p hp
    obtain ⟨raw, hraw, rfl⟩ := List.mem_map.1 hp
    exact h _ (List.mem_map_of_mem hraw)
  have hany : ∀ test : Pattern → Bool,
      (patterns.map Pattern.parse).any (fun p => test p && p.hits name offset) =
        (patterns.map Pattern.parse).any fun p => test p && p.hits name' offset' := by
    intro test
    rw [Bool.eq_iff_iff, List.any_eq_true, List.any_eq_true]
    constructor
    · rintro ⟨p, hp, hcovered⟩
      exact ⟨p, hp, hhits p hp ▸ hcovered⟩
    · rintro ⟨p, hp, hcovered⟩
      exact ⟨p, hp, hhits p hp ▸ hcovered⟩
  simp only [selects]
  rw [hany fun p => !p.isExclusion, hany Pattern.isExclusion]

/-- Where no literal covers, nothing is selected. -/
theorem selects_of_uncovered (h : ∀ literal ∈ literals patterns, covers literal name offset = false) :
    selects patterns name offset = false := by
  have hincluded : (patterns.map Pattern.parse).any (fun p => !p.isExclusion && p.hits name offset) = false := by
    rw [List.any_eq_false]
    intro p hp
    obtain ⟨raw, hraw, rfl⟩ := List.mem_map.1 hp
    have huncovered : (Pattern.parse raw).hits name offset = false := h _ (List.mem_map_of_mem hraw)
    rw [huncovered, Bool.and_false]
    exact Bool.false_ne_true
  simp only [selects, hincluded, Bool.false_and]

/-! ## Patterns, read -/

namespace Pattern

/-- A text writes an exclusion when the mark stands in front of the literal. -/
theorem parse_eq_excludes_iff (raw literal : String) : parse raw = .excludes literal ↔ raw = "!" ++ literal := by
  rw [← String.toList_inj, String.toList_append]
  change _ ↔ raw.toList = '!' :: literal.toList
  rw [parse]
  split
  · next c rest hraw =>
    rw [hraw, List.cons.injEq]
    split
    · next hc =>
      obtain rfl : c = '!' := hc
      rw [Pattern.excludes.injEq, and_iff_right rfl, ← String.toList_inj, String.toList_ofList]
    · next hc => exact iff_of_false Pattern.noConfusion fun h => hc h.1
  · next hraw =>
    rw [hraw]
    exact iff_of_false Pattern.noConfusion (List.cons_ne_nil _ _).symm

/-- Without the mark in front a text writes the inclusion of itself. -/
theorem parse_eq_includes_iff (raw literal : String) :
    parse raw = .includes literal ↔ raw = literal ∧ raw.toList.head? ≠ some exclusionMark := by
  rw [parse]
  split
  · next c rest hraw =>
    rw [hraw, List.head?_cons, ne_eq, Option.some.injEq]
    split
    · next hc => exact iff_of_false Pattern.noConfusion fun h => h.2 hc
    · next hc => rw [Pattern.includes.injEq, and_iff_left hc]
  · next hraw => simp [hraw]

end Pattern

/-- Patterns select a name when one of them without the mark covers it and none does with the mark taken away. -/
theorem selects_iff (patterns : List String) (name : String) (offset : Nat) :
    selects patterns name offset = true ↔
      (∃ literal ∈ patterns, literal.toList.head? ≠ some Pattern.exclusionMark ∧ covers literal name offset = true) ∧
        ∀ literal, "!" ++ literal ∈ patterns → covers literal name offset = false := by
  have hincluded : (patterns.map Pattern.parse).any (fun p => !p.isExclusion && p.hits name offset) = true ↔
      ∃ literal ∈ patterns, literal.toList.head? ≠ some Pattern.exclusionMark ∧ covers literal name offset = true := by
    simp only [List.any_map, List.any_eq_true, Function.comp_apply]
    refine exists_congr fun raw => and_congr_right fun _ => ?_
    cases hparse : Pattern.parse raw with
    | includes literal =>
      obtain ⟨rfl, hmark⟩ := (Pattern.parse_eq_includes_iff raw literal).1 hparse
      exact (and_iff_right hmark).symm
    | excludes literal =>
      obtain rfl := (Pattern.parse_eq_excludes_iff raw literal).1 hparse
      exact iff_of_false Bool.false_ne_true fun h => h.1 (by simp [Pattern.exclusionMark])
  have hexcluded : (patterns.map Pattern.parse).any (fun p => p.isExclusion && p.hits name offset) = false ↔
      ∀ literal, "!" ++ literal ∈ patterns → covers literal name offset = false := by
    simp only [List.any_map, List.any_eq_false, Function.comp_apply, Bool.not_eq_true]
    constructor
    · intro h literal hliteral
      have := h _ hliteral
      rwa [(Pattern.parse_eq_excludes_iff _ literal).2 rfl] at this
    · intro h raw hraw
      cases hparse : Pattern.parse raw with
      | includes literal => rfl
      | excludes literal =>
        obtain rfl := (Pattern.parse_eq_excludes_iff raw literal).1 hparse
        exact h literal hraw
  rw [selects, Bool.and_eq_true, Bool.not_eq_true', hincluded, hexcluded]

/-! ## The longest literal -/

/-- Of two literals that cover the same place, the longer one begins with the shorter one. -/
theorem covers_zero_of_length_le {short long : String} (hshort : covers short name offset = true)
    (hlong : covers long name offset = true)
    (hlength : (Utf8.encode short).length ≤ (Utf8.encode long).length) : covers short long 0 = true := by
  obtain ⟨_, hshort⟩ := (covers_iff ..).1 hshort
  obtain ⟨_, hlong⟩ := (covers_iff ..).1 hlong
  exact (covers_zero_iff short long).2 (List.prefix_of_prefix_length_le hshort hlong hlength)

/-- What a covering literal begins with covers the same place. -/
theorem covers_of_covers_zero {short long : String} (hlong : covers long name offset = true)
    (h : covers short long 0 = true) : covers short name offset = true := by
  obtain ⟨hoffset, hlong⟩ := (covers_iff ..).1 hlong
  exact (covers_iff ..).2 ⟨hoffset, ((covers_zero_iff short long).1 h).trans hlong⟩

/-- Either no candidate covers a name at an offset, or the longest one that does is itself a name that the candidates
cover alike. -/
theorem exists_longest (candidates : List String) (name : String) (offset : Nat) :
    (∀ literal ∈ candidates, covers literal name offset = false) ∨
      ∃ longest ∈ candidates, ∀ literal ∈ candidates, covers literal name offset = covers literal longest 0 := by
  cases hlongest : (candidates.filter fun literal => covers literal name offset).argmax
      fun literal => (Utf8.encode literal).length with
  | none =>
    refine .inl fun literal hliteral => ?_
    rw [← Bool.not_eq_true]
    exact List.filter_eq_nil_iff.1 (List.argmax_eq_none.1 hlongest) literal hliteral
  | some longest =>
    obtain ⟨hmem, hcovers⟩ := List.mem_filter.1 (List.argmax_mem hlongest)
    refine .inr ⟨longest, hmem, fun literal hliteral => ?_⟩
    rw [Bool.eq_iff_iff]
    constructor
    · intro h
      have hlength := List.le_of_mem_argmax (List.mem_filter.2 ⟨hliteral, h⟩) hlongest
      exact covers_zero_of_length_le h hcovers hlength
    · exact covers_of_covers_zero hcovers

/-! ## Telling selections apart -/

/-- Two lists of patterns select the same names at every offset exactly when they do so for their own literals at the
front. -/
theorem selects_eq_iff_on_literals (P Q : List String) :
    (∀ name offset, selects P name offset = selects Q name offset) ↔
      ∀ literal ∈ literals P ++ literals Q, selects P literal 0 = selects Q literal 0 := by
  constructor
  · intro h literal _
    exact h literal 0
  · intro h name offset
    rcases exists_longest (literals P ++ literals Q) name offset with huncovered | ⟨longest, hmem, halike⟩
    · have hP : selects P name offset = false :=
        selects_of_uncovered fun literal hliteral => huncovered literal (List.mem_append_left _ hliteral)
      have hQ : selects Q name offset = false :=
        selects_of_uncovered fun literal hliteral => huncovered literal (List.mem_append_right _ hliteral)
      rw [hP, hQ]
    · -- the longest literal stands for the name
      calc selects P name offset = selects P longest 0 :=
            selects_congr fun literal hliteral => halike literal (List.mem_append_left _ hliteral)
        _ = selects Q longest 0 := h longest hmem
        _ = selects Q name offset :=
            (selects_congr fun literal hliteral => halike literal (List.mem_append_right _ hliteral)).symm

end AgentRelay
