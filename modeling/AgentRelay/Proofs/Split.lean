import AgentRelay.Text.Split
import Mathlib.Data.List.Infix

set_option autoImplicit false

/-!
# Cuts at a delimiter: what they find and what they leave

The first cut is leftmost: a list can be cut exactly when the delimiter stands in it (`cut?_eq_none_iff`), and it is
cut where the delimiter begins first (`cut?_eq_some_iff`).  Nothing before that cut holds the delimiter
(`not_infix_of_cut?`).

`CutsInto` says what all the pieces are without a word on how they are found, and there is one way to cut a list in
this sense (`cutsInto_iff`).  What holds of the pieces is shown by induction on it: no piece holds the delimiter
(`not_infix_of_mem_pieces`).

For a delimiter of one letter the pieces are those of `List.splitOn` (`pieces_singleton`), so joining is undone by cutting
as long as no part holds the letter.  An empty part betrays itself by where the letter stands (`nil_mem_splitOn_iff`).

For a class of letters each of them ends a field wherever it stands, so the fields of two lists with such a letter
between them are the fields of both (`fields_append_cons`).
-/

namespace AgentRelay.Split

variable {α : Type}

/-! ## What a cut is -/

/-- The delimiter stands between the two parts, and it begins nowhere earlier. -/
structure FirstCut (delimiter s before after : List α) : Prop where
  eq_append : s = before ++ delimiter ++ after
  leftmost : ∀ before' after', s = before' ++ delimiter ++ after' → before.length ≤ before'.length

/-- The pieces between the leftmost occurrences that do not overlap. -/
inductive CutsInto (delimiter : List α) : List α → List (List α) → Prop where
  | whole {s : List α} : ¬ delimiter <:+: s → CutsInto delimiter s [s]
  | cut {s before after : List α} {pieces : List (List α)} : FirstCut delimiter s before after →
      CutsInto delimiter after pieces → CutsInto delimiter s (before :: pieces)

/-- There is one leftmost occurrence. -/
theorem FirstCut.unique {d s a b a' b' : List α} (h : FirstCut d s a b) (h' : FirstCut d s a' b') :
    a = a' ∧ b = b' := by
  have heq : a ++ (d ++ b) = a' ++ (d ++ b') := by
    rw [← List.append_assoc, ← List.append_assoc, ← h.eq_append, ← h'.eq_append]
  have hlength : a.length = a'.length :=
    Nat.le_antisymm (h.leftmost a' b' h'.eq_append) (h'.leftmost a b h.eq_append)
  obtain ⟨hbefore, hrest⟩ := List.append_inj heq hlength
  exact ⟨hbefore, List.append_cancel_left hrest⟩

/-- Everything can be cut at its front by the empty delimiter, and there only. -/
theorem firstCut_nil_iff (s a b : List α) : FirstCut [] s a b ↔ a = [] ∧ b = s := by
  have hfront : FirstCut [] s [] s := ⟨rfl, fun _ _ _ => Nat.zero_le _⟩
  constructor
  · exact fun h => h.unique hfront
  · rintro ⟨rfl, rfl⟩
    exact hfront

/-- A letter cuts where it stands first. -/
theorem firstCut_singleton_iff (c : α) (s a b : List α) : FirstCut [c] s a b ↔ c ∉ a ∧ s = a ++ c :: b := by
  constructor
  · intro h
    refine ⟨fun hc => ?_, by simpa using h.eq_append⟩
    obtain ⟨before, between, rfl⟩ := List.append_of_mem hc
    have hle := h.leftmost before (between ++ c :: b) (by simpa using h.eq_append)
    simp only [List.length_append, List.length_cons] at hle
    omega
  · rintro ⟨hfree, rfl⟩
    refine ⟨by simp, fun before' after' heq => ?_⟩
    by_contra hlt
    -- an earlier occurrence would be a letter of `a`
    have hget := congrArg (·[before'.length]?) heq
    have hlt' : before'.length < a.length := Nat.lt_of_not_le hlt
    simp only [List.append_assoc, List.singleton_append, List.getElem?_append_left hlt',
      List.getElem?_append_right (Nat.le_refl _), Nat.sub_self, List.getElem?_cons_zero] at hget
    exact hfree (List.mem_of_getElem? hget)

/-! ## Parts of a list -/

/-- What is joined comes apart at every place between two parts. -/
theorem intercalate_append_cons (d : List α) {parts : List (List α)} (hne : parts ≠ []) (part : List α)
    (rest : List (List α)) :
    d.intercalate (parts ++ part :: rest) = d.intercalate parts ++ d ++ d.intercalate (part :: rest) := by
  induction parts with
  | nil => exact absurd rfl hne
  | cons first others ih =>
    by_cases hothers : others = []
    · rw [hothers, List.singleton_append, List.intercalate_cons_cons, List.intercalate_singleton]
    · have hne' : others ++ part :: rest ≠ [] := List.append_ne_nil_of_left_ne_nil hothers _
      rw [List.cons_append, List.intercalate_cons_of_ne_nil hne', ih hothers,
        List.intercalate_cons_of_ne_nil hothers]
      simp only [List.append_assoc]

/-- A letter stands behind the first one when something stands in front of it. -/
theorem mem_drop_one_iff (a : α) (l : List α) :
    a ∈ l.drop 1 ↔ ∃ front back, l = front ++ a :: back ∧ front ≠ [] := by
  constructor
  · intro h
    cases l with
    | nil => cases h
    | cons first rest =>
      obtain ⟨front, back, hrest⟩ := List.append_of_mem (show a ∈ rest from h)
      exact ⟨first :: front, back, by rw [hrest, List.cons_append], List.cons_ne_nil _ _⟩
  · rintro ⟨front, back, rfl, hne⟩
    rw [List.drop_append_of_le_length (List.length_pos_iff.2 hne)]
    simp

variable [DecidableEq α]

/-! ## The first occurrence -/

/-- A list can be cut exactly when the delimiter stands somewhere in it. -/
theorem cut?_eq_none_iff (d s : List α) : cut? d s = none ↔ ¬ d <:+: s := by
  induction s with
  | nil => simp [cut?]
  | cons c rest ih =>
    rw [cut?, List.infix_cons_iff]
    by_cases hp : d.isPrefixOf (c :: rest) = true
    · simp [hp, List.isPrefixOf_iff_prefix.1 hp]
    · have hp' : ¬ d <+: c :: rest := fun h => hp (List.isPrefixOf_iff_prefix.2 h)
      simp [hp, hp', ih]

theorem firstCut_of_cut? {d s a b : List α} (h : cut? d s = some (a, b)) : FirstCut d s a b := by
  refine ⟨append_of_cut? h, ?_⟩
  induction s generalizing a with
  | nil =>
    obtain ⟨hbefore, -⟩ := List.append_eq_nil_iff.1 (append_of_cut? h).symm
    obtain ⟨rfl, -⟩ := List.append_eq_nil_iff.1 hbefore
    exact fun _ _ _ => Nat.zero_le _
  | cons c rest ih =>
    intro before' after' heq
    rw [cut?] at h
    split at h
    · obtain ⟨rfl, -⟩ := Prod.mk.inj (Option.some.inj h)
      exact Nat.zero_le _
    · next hp =>
      obtain ⟨⟨p, q⟩, hpq, he⟩ := Option.map_eq_some_iff.1 h
      obtain ⟨rfl, rfl⟩ := Prod.mk.inj he
      cases before' with
      | nil =>
        -- an occurrence at the front would have been taken
        exact absurd (List.isPrefixOf_iff_prefix.2 ⟨after', heq.symm⟩) hp
      | cons c' before' =>
        obtain ⟨-, hrest⟩ := List.cons.inj heq
        exact Nat.succ_le_succ (ih hpq before' after' hrest)

/-- The cut is made at the leftmost occurrence. -/
theorem cut?_eq_some_iff (d s a b : List α) : cut? d s = some (a, b) ↔ FirstCut d s a b := by
  refine ⟨firstCut_of_cut?, fun h => ?_⟩
  cases hc : cut? d s with
  | none => exact absurd ⟨a, b, h.eq_append.symm⟩ ((cut?_eq_none_iff d s).1 hc)
  | some parts =>
    obtain ⟨rfl, rfl⟩ := h.unique (firstCut_of_cut? hc)
    rfl

/-- The part before the cut does not hold the delimiter: the cut is the leftmost one. -/
theorem not_infix_of_cut? {d s a b : List α} (hd : d ≠ []) (h : cut? d s = some (a, b)) : ¬ d <:+: a := by
  induction s generalizing a with
  | nil => simp [cut?, hd] at h
  | cons c rest ih =>
    rw [cut?] at h
    split at h
    · have ha : a = [] := by simpa using (congrArg Prod.fst (Option.some.inj h)).symm
      rw [ha, List.infix_nil]
      exact hd
    · next hp =>
      obtain ⟨⟨p, q⟩, hpq, he⟩ := Option.map_eq_some_iff.1 h
      obtain ⟨rfl, rfl⟩ := Prod.mk.inj he
      rw [List.infix_cons_iff, not_or]
      refine ⟨fun hpre => hp ?_, ih hpq⟩
      -- a delimiter at the front of the shorter list is one at the front of the longer list
      rw [List.isPrefixOf_iff_prefix, append_of_cut? hpq, List.append_assoc]
      exact hpre.trans (List.prefix_append (c :: p) (d ++ q))

/-- A letter that does not stand in `a` cuts at its end. -/
theorem cut?_singleton {c : α} {a : List α} (h : c ∉ a) (b : List α) : cut? [c] (a ++ c :: b) = some (a, b) := by
  induction a with
  | nil => simp [cut?]
  | cons x rest ih =>
    obtain ⟨hx, hrest⟩ := List.ne_and_not_mem_of_not_mem_cons h
    simp [cut?, hx, ih hrest]

/-! ## Every occurrence -/

/-- The pieces are those between the leftmost occurrences, and no others. -/
theorem cutsInto_iff {d : List α} (hd : d ≠ []) (s : List α) (ps : List (List α)) :
    CutsInto d s ps ↔ ps = pieces d s := by
  constructor
  · intro h
    induction h with
    | whole hwhole => rw [pieces_of_cut?_eq_none hd ((cut?_eq_none_iff _ _).2 hwhole)]
    | cut hfirst _ ih => rw [pieces_of_cut?_eq_some hd ((cut?_eq_some_iff ..).2 hfirst), ih]
  · rintro rfl
    induction hn : s.length using Nat.strongRecOn generalizing s with
    | _ n ih =>
      cases hc : cut? d s with
      | none =>
        rw [pieces_of_cut?_eq_none hd hc]
        exact .whole ((cut?_eq_none_iff d s).1 hc)
      | some parts =>
        obtain ⟨a, b⟩ := parts
        rw [pieces_of_cut?_eq_some hd hc]
        exact .cut (firstCut_of_cut? hc) (ih b.length (hn ▸ length_lt_of_cut? hd hc) b rfl)

theorem cutsInto_pieces {d : List α} (hd : d ≠ []) (s : List α) : CutsInto d s (pieces d s) :=
  (cutsInto_iff hd s _).2 rfl

/-- No piece holds the delimiter. -/
theorem not_infix_of_mem_pieces {d : List α} (hd : d ≠ []) {s piece : List α} (hpiece : piece ∈ pieces d s) :
    ¬ d <:+: piece := by
  have hcuts := cutsInto_pieces hd s
  generalize pieces d s = ps at hcuts hpiece
  induction hcuts with
  | whole hwhole =>
    rw [List.mem_singleton.1 hpiece]
    exact hwhole
  | cut hfirst _ ih =>
    cases List.mem_cons.1 hpiece with
    | inl heq => exact heq ▸ not_infix_of_cut? hd ((cut?_eq_some_iff ..).2 hfirst)
    | inr hmem => exact ih hmem

/-! ## Delimiters of one letter -/

/-- Cutting at one letter is the library's `splitOn`. -/
theorem pieces_singleton (c : α) (s : List α) : pieces [c] s = s.splitOn c := by
  have hd : [c] ≠ [] := List.cons_ne_nil c []
  have hcuts := cutsInto_pieces hd s
  generalize pieces [c] s = ps at hcuts
  induction hcuts with
  | whole hwhole =>
    rw [List.singleton_infix_iff] at hwhole
    rw [List.splitOn_eq_singleton hwhole]
  | @cut s before after ps hfirst _ ih =>
    have hfree : c ∉ before := by
      rw [← List.singleton_infix_iff]
      exact not_infix_of_cut? hd ((cut?_eq_some_iff ..).2 hfirst)
    rw [hfirst.eq_append, List.append_assoc, List.singleton_append, ih,
      List.splitOn_append_cons_self_of_not_mem hfree]

/-- A letter ends a piece wherever it stands. -/
theorem pieces_append_cons (c : α) (a b : List α) : pieces [c] (a ++ c :: b) = pieces [c] a ++ pieces [c] b := by
  rw [pieces_singleton, pieces_singleton, pieces_singleton, List.splitOn_append_cons_self]

/-- No part between the cuts at a letter holds the letter. -/
theorem notMem_of_mem_splitOn {c : α} {s part : List α} (h : part ∈ s.splitOn c) : c ∉ part := by
  rw [← pieces_singleton] at h
  rw [← List.singleton_infix_iff]
  exact not_infix_of_mem_pieces (List.cons_ne_nil c []) h

/-- A part is empty when the whole list is, or when the letter stands in front, at the end or next to itself. -/
theorem nil_mem_splitOn_iff (c : α) (s : List α) :
    [] ∈ s.splitOn c ↔ s = [] ∨ [c] <+: s ∨ [c] <:+ s ∨ [c, c] <:+: s := by
  constructor
  · intro h
    obtain ⟨before, after, hparts⟩ := List.append_of_mem h
    have hjoined : s = [c].intercalate (before ++ [] :: after) := by rw [← hparts, List.intercalate_splitOn]
    -- the empty part is the only one, the first, the last, or one between two others
    by_cases hbefore : before = []
    · rw [hbefore, List.nil_append] at hjoined
      cases after with
      | nil => exact .inl hjoined
      | cons next rest =>
        rw [List.intercalate_cons_cons, List.nil_append] at hjoined
        exact .inr (.inl ⟨_, hjoined.symm⟩)
    · rw [intercalate_append_cons [c] hbefore] at hjoined
      cases after with
      | nil =>
        rw [List.intercalate_singleton, List.append_nil] at hjoined
        exact .inr (.inr (.inl ⟨_, hjoined.symm⟩))
      | cons next rest =>
        rw [List.intercalate_cons_cons, List.nil_append, ← List.append_assoc, List.append_assoc _ [c] [c]] at hjoined
        exact .inr (.inr (.inr ⟨_, _, hjoined.symm⟩))
  · rintro (rfl | ⟨rest, rfl⟩ | ⟨front, rfl⟩ | ⟨front, rest, rfl⟩)
    · simp
    · have hsplit : ([c] ++ rest).splitOn c = [].splitOn c ++ rest.splitOn c := by
        rw [← List.splitOn_append_cons_self, List.nil_append, List.singleton_append]
      rw [hsplit]
      simp
    · rw [List.splitOn_append_cons_self]
      simp
    · have hsplit : (front ++ [c, c] ++ rest).splitOn c = front.splitOn c ++ ([].splitOn c ++ rest.splitOn c) := by
        rw [← List.splitOn_append_cons_self, ← List.splitOn_append_cons_self]
        simp
      rw [hsplit]
      simp

/-! ## The last place of a letter -/

/-- What is taken from the end as long as it is not the letter stands behind its last place. -/
theorem reverse_takeWhile_reverse_eq_iff {a : α} {l : List α} (ha : a ∈ l) (after : List α) :
    (l.reverse.takeWhile (· != a)).reverse = after ↔ ∃ before, l = before ++ a :: after ∧ a ∉ after := by
  have htake : ∀ front back : List α, a ∉ front → (front ++ a :: back).takeWhile (· != a) = front := by
    intro front back hfree
    have hfront : ∀ b ∈ front, (b != a) = true := fun b hb => bne_iff_ne.2 fun heq => hfree (heq ▸ hb)
    rw [List.takeWhile_append_of_pos hfront, List.takeWhile_cons_of_neg (by simp), List.append_nil]
  constructor
  · rintro rfl
    obtain ⟨front, back, hreverse, hfree⟩ := List.eq_append_cons_of_mem (List.mem_reverse.2 ha)
    refine ⟨back.reverse, ?_, ?_⟩
    · rw [hreverse, htake front back hfree, ← List.reverse_reverse l, hreverse]
      simp
    · rw [hreverse, htake front back hfree, List.mem_reverse]
      exact hfree
  · rintro ⟨before, rfl, hfree⟩
    have hreverse : (before ++ a :: after).reverse = after.reverse ++ a :: before.reverse := by simp
    rw [hreverse, htake _ _ (mt List.mem_reverse.1 hfree), List.reverse_reverse]

/-! ## Letters of a class -/

variable {β : Type} {isSeparator : β → Bool}

theorem fields_ne_nil (isSeparator : β → Bool) (s : List β) : fields isSeparator s ≠ [] := by
  cases s with
  | nil => exact List.cons_ne_nil _ _
  | cons c rest =>
    rw [fields]
    split
    · exact List.cons_ne_nil _ _
    · split
      · exact List.cons_ne_nil _ _
      · exact List.cons_ne_nil _ _

/-- A separator ends a field wherever it stands. -/
theorem fields_append_cons {c : β} (hc : isSeparator c = true) (a b : List β) :
    fields isSeparator (a ++ c :: b) = fields isSeparator a ++ fields isSeparator b := by
  induction a with
  | nil => simp only [List.nil_append, fields, hc, if_true, List.singleton_append]
  | cons d rest ih =>
    obtain ⟨first, others, hrest⟩ := List.exists_cons_of_ne_nil (fields_ne_nil isSeparator rest)
    rw [hrest] at ih
    rw [List.cons_append, fields, fields, ih, hrest]
    split
    · rfl
    · rfl

/-- No field holds a separator. -/
theorem isSeparator_eq_false_of_mem_fields {s : List β} :
    ∀ field ∈ fields isSeparator s, ∀ c ∈ field, isSeparator c = false := by
  induction s with
  | nil => simp [fields]
  | cons d rest ih =>
    obtain ⟨first, others, hrest⟩ := List.exists_cons_of_ne_nil (fields_ne_nil isSeparator rest)
    rw [hrest] at ih
    obtain ⟨hfirst, hothers⟩ := List.forall_mem_cons.1 ih
    rw [fields, hrest]
    split
    · exact List.forall_mem_cons.2 ⟨fun c hc => absurd hc List.not_mem_nil, ih⟩
    · next hd => exact List.forall_mem_cons.2 ⟨List.forall_mem_cons.2 ⟨Bool.eq_false_iff.2 hd, hfirst⟩, hothers⟩

/-- Without a separator there is one field. -/
theorem fields_eq_singleton {s : List β} (h : ∀ c ∈ s, isSeparator c = false) : fields isSeparator s = [s] := by
  induction s with
  | nil => rfl
  | cons d rest ih =>
    obtain ⟨hd, hrest⟩ := List.forall_mem_cons.1 h
    rw [fields, if_neg (Bool.eq_false_iff.1 hd), ih hrest]

end AgentRelay.Split
