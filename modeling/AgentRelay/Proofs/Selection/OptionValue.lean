import AgentRelay.Proofs.Split
import AgentRelay.Selection
import Mathlib.Data.List.DropRight

set_option autoImplicit false

/-!
# Patterns in one option value

The patterns of an option value are its fields, trimmed, without those of which nothing is left.  A separator between
two values keeps their patterns apart, so joined values hold the patterns of each, in order
(`raws_ofOption_intercalate`).

What is read this way can be written this way (`fitsOption_of_mem_ofOption`): it is not empty, holds no separator and
has no blank at its ends.  And such patterns are read as they are (`raws_ofOption_of_fitsOption`).
-/

namespace AgentRelay

/-! ## Blanks at the ends -/

/-- Blanks are taken from the front, and then from the back. -/
theorem trimBlanks_eq (cs : List Char) : trimBlanks cs = (cs.dropWhile isBlank).rdropWhile isBlank := rfl

/-- Nothing is left but a part of what was there. -/
theorem isInfix_trimBlanks (cs : List Char) : trimBlanks cs <:+: cs :=
  (List.rdropWhile_prefix isBlank _).isInfix.trans (List.dropWhile_suffix isBlank).isInfix

/-- What is left begins with no blank. -/
theorem isBlank_of_head?_trimBlanks (cs : List Char) : ∀ c ∈ (trimBlanks cs).head?, isBlank c = false := by
  intro c hc
  -- the front of what is left is the front of what the first step left
  obtain ⟨rest, hrest⟩ := List.rdropWhile_prefix isBlank (cs.dropWhile isBlank)
  have hfront : (cs.dropWhile isBlank).head? = some c := by
    rw [← hrest, ← trimBlanks_eq, List.head?_append, Option.mem_def.1 hc, Option.some_or]
  have hnot := List.head?_dropWhile_not isBlank cs
  rw [hfront] at hnot
  exact hnot

/-- What is left ends with no blank. -/
theorem isBlank_of_getLast?_trimBlanks (cs : List Char) : ∀ c ∈ (trimBlanks cs).getLast?, isBlank c = false := by
  intro c hc
  obtain ⟨hne, hlast⟩ := List.mem_getLast?_eq_getLast hc
  rw [hlast, ← Bool.not_eq_true]
  exact List.rdropWhile_last_not isBlank (cs.dropWhile isBlank) hne

/-- Without blanks at the ends nothing is taken away. -/
theorem trimBlanks_eq_self {cs : List Char} (hhead : ∀ c ∈ cs.head?, isBlank c = false)
    (hlast : ∀ c ∈ cs.getLast?, isBlank c = false) : trimBlanks cs = cs := by
  have hfront : cs.dropWhile isBlank = cs := by
    cases cs with
    | nil => rfl
    | cons c rest => exact List.dropWhile_cons_of_neg (by simpa using hhead)
  rw [trimBlanks_eq, hfront, List.rdropWhile_eq_self_iff]
  intro hne
  rw [Bool.not_eq_true]
  exact hlast _ (List.getLast?_eq_some_getLast hne)

namespace PatternList

/-! ## Fields -/

/-- The patterns of an option value, as characters. -/
def entries (cs : List Char) : List (List Char) :=
  ((Split.fields isSeparator cs).map trimBlanks).filter (· ≠ [])

theorem raws_ofOption (text : String) : (ofOption text).raws = (entries text.toList).map String.ofList := rfl

theorem entries_append_cons {c : Char} (hc : isSeparator c = true) (a b : List Char) :
    entries (a ++ c :: b) = entries a ++ entries b := by
  rw [entries, Split.fields_append_cons hc, List.map_append, List.filter_append, entries, entries]

/-- An option value of several values, joined by a separator, holds the patterns of each of them. -/
theorem raws_ofOption_intercalate {separator : String} {c : Char} (hseparator : separator.toList = [c])
    (hc : isSeparator c = true) (texts : List String) :
    (ofOption (separator.intercalate texts)).raws = texts.flatMap fun text => (ofOption text).raws := by
  induction texts with
  | nil => rfl
  | cons text rest ih =>
    cases rest with
    | nil => rw [String.intercalate_singleton, List.flatMap_singleton]
    | cons next rest =>
      rw [List.flatMap_cons, ← ih, String.intercalate_cons_cons, raws_ofOption, raws_ofOption, raws_ofOption,
        ← List.map_append, ← entries_append_cons hc]
      simp only [String.toList_append, hseparator, List.append_assoc, List.singleton_append]

/-! ## Patterns that can be written -/

/-- The pattern can be written in an option value: something is left of it when it is trimmed, and that is all of it,
and no separator cuts it. -/
def FitsOption (raw : String) : Prop :=
  raw ≠ "" ∧ ';' ∉ raw.toList ∧ ',' ∉ raw.toList ∧ (∀ c ∈ raw.toList.head?, isBlank c = false) ∧
    ∀ c ∈ raw.toList.getLast?, isBlank c = false

instance (raw : String) : Decidable (FitsOption raw) := inferInstanceAs (Decidable (_ ∧ _ ∧ _ ∧ _ ∧ _))

theorem isSeparator_iff (c : Char) : isSeparator c = true ↔ c = ';' ∨ c = ',' := by
  simp only [isSeparator, Bool.or_eq_true, beq_iff_eq]

/-- What is read from an option value can be written in one. -/
theorem fitsOption_of_mem_ofOption {text raw : String} (h : raw ∈ (ofOption text).raws) : FitsOption raw := by
  rw [raws_ofOption, List.mem_map] at h
  obtain ⟨entry, hentry, rfl⟩ := h
  obtain ⟨htrimmed, hne⟩ := List.mem_filter.1 hentry
  obtain ⟨field, hfield, rfl⟩ := List.mem_map.1 htrimmed
  have hfree : ∀ c, isSeparator c = true → c ∉ trimBlanks field := by
    intro c hc hmem
    have hnot := Split.isSeparator_eq_false_of_mem_fields field hfield c ((isInfix_trimBlanks field).subset hmem)
    rw [hnot] at hc
    exact Bool.false_ne_true hc
  rw [FitsOption, String.toList_ofList]
  refine ⟨?_, hfree _ rfl, hfree _ rfl, isBlank_of_head?_trimBlanks field, isBlank_of_getLast?_trimBlanks field⟩
  intro hempty
  exact absurd (of_decide_eq_true hne) (by simpa using congrArg String.toList hempty)

/-- A pattern that can be written in an option value is read as it is. -/
theorem raws_ofOption_of_fitsOption {raw : String} (h : FitsOption raw) : (ofOption raw).raws = [raw] := by
  obtain ⟨hne, hsemicolon, hcomma, hhead, hlast⟩ := h
  have hfree : ∀ c ∈ raw.toList, isSeparator c = false := by
    intro c hc
    rw [← Bool.not_eq_true, isSeparator_iff]
    rintro (rfl | rfl)
    · exact hsemicolon hc
    · exact hcomma hc
  have hkept : [raw.toList].filter (· ≠ []) = [raw.toList] := by
    simpa using fun hempty => hne (String.toList_eq_nil_iff.1 hempty)
  rw [raws_ofOption, entries, Split.fields_eq_singleton hfree, List.map_singleton, trimBlanks_eq_self hhead hlast, hkept,
    List.map_singleton, String.ofList_toList]

/-- Joined patterns are read back exactly when each of them can be written. -/
theorem raws_ofOption_intercalate_eq_iff {separator : String} {c : Char} (hseparator : separator.toList = [c])
    (hc : isSeparator c = true) (raws : List String) :
    (ofOption (separator.intercalate raws)).raws = raws ↔ ∀ raw ∈ raws, FitsOption raw := by
  constructor
  · intro h raw hraw
    rw [← h] at hraw
    exact fitsOption_of_mem_ofOption hraw
  · intro h
    rw [raws_ofOption_intercalate hseparator hc]
    calc raws.flatMap (fun raw => (ofOption raw).raws) = raws.flatMap fun raw => [raw] :=
          List.flatMap_congr fun raw hraw => raws_ofOption_of_fitsOption (h raw hraw)
      _ = raws := List.flatMap_singleton' raws

end PatternList

end AgentRelay
