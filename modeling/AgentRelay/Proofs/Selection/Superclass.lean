import AgentRelay.Proofs.Selection
import AgentRelay.Proofs.Utf8
import AgentRelay.Report

set_option autoImplicit false

/-!
# Selections of classes

A pattern with the mark of the superclass is read twice: as a veto by the superclass, and by its first character as an
exclusion of names like every other one.  A class is selected when both readings let it pass (`isSelectedBy_iff`).

The second reading excludes nothing as long as the name does not itself hold the rest of the mark at the offset.  Then
the patterns with the mark judge the superclass alone, and the others the name alone (`isSelectedBy_splits`).

The name of a superclass that is not known is empty.  No literal stands in an empty name but the empty one at offset 0,
so of all patterns with the mark only the mark itself rejects such a class, and only there
(`isSelectedBy_without_superclass`).
-/

namespace AgentRelay.ClassSource

variable {patterns : List String} {name : String} {offset : Nat}

/-! ## The two readings -/

/-- A text excludes by the superclass when the mark stands in front of the literal. -/
theorem superLiteral?_eq_some_iff (raw literal : String) :
    superLiteral? raw = some literal ↔ raw = subclassMark ++ literal := by
  rw [superLiteral?, ← String.toList_inj, String.toList_append]
  by_cases hmark : subclassMark.toList <+: raw.toList
  · obtain ⟨rest, hrest⟩ := hmark
    have hprefix : subclassMark.toList.isPrefixOf raw.toList = true :=
      List.isPrefixOf_iff_prefix.2 ⟨rest, hrest⟩
    rw [if_pos hprefix, ← hrest, List.drop_left, Option.some.injEq, ← String.toList_inj, String.toList_ofList,
      List.append_cancel_left_eq]
  · rw [if_neg fun hprefix => hmark (List.isPrefixOf_iff_prefix.1 hprefix)]
    exact iff_of_false (Option.some_ne_none _).symm fun h => hmark ⟨_, h.symm⟩

/-- A pattern vetoes a class when its text after the mark stands in the name of the superclass. -/
theorem isVetoedBy_iff (c : ClassSource) (offset : Nat) (raw : String) :
    c.isVetoedBy offset raw = true ↔
      ∃ literal, raw = subclassMark ++ literal ∧ covers literal c.superName offset = true := by
  simp only [isVetoedBy, Option.any_eq_true, superLiteral?_eq_some_iff]

/-- A class is selected when no superclass is vetoed and the patterns select its name. -/
theorem isSelectedBy_iff (c : ClassSource) (patterns : List String) (offset : Nat) :
    c.isSelectedBy patterns offset = true ↔
      (∀ literal, subclassMark ++ literal ∈ patterns → covers literal c.superName offset = false) ∧
        selects patterns c.name offset = true := by
  have hveto : patterns.any (c.isVetoedBy offset) = false ↔
      ∀ literal, subclassMark ++ literal ∈ patterns → covers literal c.superName offset = false := by
    simp only [List.any_eq_false, isVetoedBy_iff, not_exists, not_and, Bool.not_eq_true]
    constructor
    · intro h literal hmem
      exact h _ hmem literal rfl
    · rintro h raw hmem literal rfl
      exact h literal hmem
  rw [isSelectedBy, Bool.and_eq_true, Bool.not_eq_true', hveto]

/-! ## Two independent tests -/

/-- The patterns that begin with the mark of the superclass. -/
def bySuperclass (patterns : List String) : List String :=
  patterns.filter fun raw => subclassMark.toList.isPrefixOf raw.toList

/-- The patterns that do not begin with it. -/
def byName (patterns : List String) : List String :=
  patterns.filter fun raw => !subclassMark.toList.isPrefixOf raw.toList

/-- What a pattern with the mark excludes as an ordinary one begins with this text. -/
def nameMark : String := "subclassOf:"

theorem subclassMark_eq : subclassMark = "!" ++ nameMark := by decide

theorem mem_bySuperclass_iff (patterns : List String) (literal : String) :
    subclassMark ++ literal ∈ bySuperclass patterns ↔ subclassMark ++ literal ∈ patterns := by
  rw [bySuperclass, List.mem_filter, String.toList_append]
  exact and_iff_left (List.isPrefixOf_iff_prefix.2 (List.prefix_append _ _))

theorem mem_byName_iff (patterns : List String) (raw : String) :
    raw ∈ byName patterns ↔ raw ∈ patterns ∧ ¬ subclassMark.toList <+: raw.toList := by
  rw [byName, List.mem_filter, Bool.not_eq_true', ← Bool.not_eq_true, List.isPrefixOf_iff_prefix]

/-- Read as ordinary exclusions, the patterns with the mark exclude no name that does not hold the rest of the mark at
the offset. -/
theorem selects_byName (h : ¬ Utf8.encode nameMark <+: (Utf8.encode name).drop offset) :
    selects (byName patterns) name offset = selects patterns name offset := by
  have hinert : ∀ literal, covers (nameMark ++ literal) name offset = false := by
    intro literal
    rw [← Bool.not_eq_true, covers_iff, Utf8.encode_append]
    exact fun hcovers => h ((List.prefix_append _ _).trans hcovers.2)
  rw [Bool.eq_iff_iff, selects_iff, selects_iff]
  refine and_congr (exists_congr fun literal => ?_) (forall_congr' fun literal => ?_)
  · -- a pattern with the mark is no inclusion
    rw [mem_byName_iff, and_assoc]
    refine and_congr_right fun _ => and_iff_right_of_imp fun hplain => ?_
    rintro ⟨rest, hrest⟩
    exact hplain.1 (by rw [← hrest]; rfl)
  · rw [mem_byName_iff, and_imp]
    constructor
    · intro hexcluded hmem
      by_cases hmark : subclassMark.toList <+: ("!" ++ literal).toList
      · obtain ⟨rest, hrest⟩ := hmark
        have hliteral : literal = nameMark ++ String.ofList rest := by
          rw [subclassMark_eq, String.toList_append, String.toList_append, List.append_assoc,
            List.append_cancel_left_eq] at hrest
          rw [← String.toList_inj, ← hrest, String.toList_append, String.toList_ofList]
        rw [hliteral]
        exact hinert _
      · exact hexcluded hmem hmark
    · intro hexcluded hmem _
      exact hexcluded hmem

/-- A class is selected when no pattern with the mark vetoes its superclass and the patterns select its name; so none is
selected that is not selected by its name.  If the name does not hold the rest of the mark at the offset, the patterns
with the mark are needed for the first test only, and the others for the second one only. -/
theorem isSelectedBy_splits (c : ClassSource) (patterns : List String) (offset : Nat) :
    (c.isSelectedBy patterns offset = true ↔
      (∀ literal, subclassMark ++ literal ∈ bySuperclass patterns → covers literal c.superName offset = false) ∧
        selects patterns c.name offset = true) ∧
      (¬ Utf8.encode nameMark <+: (Utf8.encode c.name).drop offset →
        (c.isSelectedBy patterns offset = true ↔
          selects (byName patterns) c.name offset = true ∧
            ∀ literal, subclassMark ++ literal ∈ bySuperclass patterns →
              covers literal c.superName offset = false)) := by
  simp only [mem_bySuperclass_iff]
  refine ⟨isSelectedBy_iff c patterns offset, fun hname => ?_⟩
  rw [selects_byName hname, and_comm]
  exact isSelectedBy_iff c patterns offset

/-- A class whose name lacks the rest of the mark, with a veto that its superclass escapes and one that it does not. -/
theorem isSelectedBy_splits_worker :
    let patterns := ["com/acme", "!com/acme/gen", "!subclassOf:java/lang/Thread", "!subclassOf:java/util"]
    let worker : ClassSource := ⟨"com/acme/Worker", "java/lang/Thread"⟩
    ¬ Utf8.encode nameMark <+: (Utf8.encode worker.name).drop 0 ∧
      byName patterns = ["com/acme", "!com/acme/gen"] ∧
      (worker.isSelectedBy patterns 0 = true ↔
        selects (byName patterns) worker.name 0 = true ∧
          ∀ literal, subclassMark ++ literal ∈ bySuperclass patterns → covers literal worker.superName 0 = false) := by
  intro patterns worker
  have hname : ¬ Utf8.encode nameMark <+: (Utf8.encode worker.name).drop 0 := by decide
  exact ⟨hname, by decide, (isSelectedBy_splits worker patterns 0).2 hname⟩

/-! ## Classes without a superclass -/

/-- An empty name is covered at its front alone, and there by the empty literal alone. -/
theorem covers_of_empty_name (literal : String) (offset : Nat) :
    covers literal "" offset = true ↔ literal = "" ∧ offset = 0 := by
  have hempty : Utf8.encode "" = [] := rfl
  rw [covers_iff, hempty, List.length_nil, List.drop_nil, List.prefix_nil, Nat.le_zero, and_comm]
  refine and_congr_left fun _ => ⟨fun h => ?_, fun h => h ▸ rfl⟩
  exact Utf8.encode_injective h

/-- Of all patterns only the bare mark vetoes a class without a superclass, and only at the front. -/
theorem isVetoedBy_without_superclass (name : String) (offset : Nat) (raw : String) :
    (ofNames name none).isVetoedBy offset raw = true ↔ raw = subclassMark ∧ offset = 0 := by
  have hsuper : (ofNames name none).superName = "" := rfl
  simp only [isVetoedBy_iff, hsuper, covers_of_empty_name]
  constructor
  · rintro ⟨literal, rfl, rfl, hoffset⟩
    exact ⟨String.append_empty, hoffset⟩
  · rintro ⟨rfl, hoffset⟩
    exact ⟨"", String.append_empty.symm, rfl, hoffset⟩

/-- A class without a superclass is selected by its name alone, except that the bare mark rejects it at offset 0.  No
other pattern vetoes it, and the report on such a class says the same. -/
theorem isSelectedBy_without_superclass (name : String) (patterns : List String) (offset : Nat) :
    ((ofNames name none).isSelectedBy patterns offset = true ↔
      selects patterns name offset = true ∧ ¬ (subclassMark ∈ patterns ∧ offset = 0)) ∧
      (∀ raw, (ofNames name none).isVetoedBy offset raw = true ↔ raw = subclassMark ∧ offset = 0) ∧
      (tryPatterns name none patterns offset).matched = (ofNames name none).isSelectedBy patterns offset := by
  refine ⟨?_, isVetoedBy_without_superclass name offset, rfl⟩
  have hsuper : (ofNames name none).superName = "" := rfl
  rw [isSelectedBy_iff, hsuper, and_comm]
  refine and_congr_right fun _ => ?_
  constructor
  · rintro h ⟨hmem, hoffset⟩
    have hcovers := h "" (by rwa [String.append_empty])
    rw [(covers_of_empty_name "" offset).2 ⟨rfl, hoffset⟩] at hcovers
    cases hcovers
  · intro h literal hmem
    rw [← Bool.not_eq_true, covers_of_empty_name]
    rintro ⟨rfl, hoffset⟩
    rw [String.append_empty] at hmem
    exact h ⟨hmem, hoffset⟩

/-- The bare mark rejects a class without a superclass whose name is selected, at offset 0 and only there. -/
theorem not_forall_selected_by_name :
    ¬ ∀ name patterns offset, (ofNames name none).isSelectedBy patterns offset = selects patterns name offset := by
  intro h
  have hselected : selects ["Foo", "!subclassOf:"] "Foo" 0 = true := by decide
  have hrejected : (ofNames "Foo" none).isSelectedBy ["Foo", "!subclassOf:"] 0 = false := by decide
  rw [← h, hrejected] at hselected
  exact Bool.false_ne_true hselected

end AgentRelay.ClassSource
