import Mathlib.Data.List.Forall2

set_option autoImplicit false

/-!
# Reading every member of a list

A reader that may refuse a member is taken through a list.  All members are read, each as the member of the result in its
place, or the first one that is refused decides (`mapM_eq_ok_iff` and `mapM_eq_error_iff`, and `mapM_eq_some_iff` and
`mapM_eq_none_iff` for readers that give no reason).
-/

namespace AgentRelay

/-! ## Lists whose members correspond -/

section

variable {α β : Type} {l : List α} {r : List β}

/-- Something in the other list corresponds to a member. -/
theorem exists_mem_of_forall₂ {R : α → β → Prop} (h : List.Forall₂ R l r) {a : α} (ha : a ∈ l) : ∃ b ∈ r, R a b := by
  induction h with
  | nil => cases ha
  | cons hrel _ ih =>
    rcases List.mem_cons.1 ha with rfl | hrest
    · exact ⟨_, .head _, hrel⟩
    · obtain ⟨b, hb, hab⟩ := ih hrest
      exact ⟨b, .tail _ hb, hab⟩

theorem forall₂_map_map_eq_iff {γ : Type} (f : α → γ) (g : β → γ) :
    List.Forall₂ (fun a b => f a = g b) l r ↔ l.map f = r.map g := by
  rw [← List.forall₂_eq_eq_eq, List.forall₂_map_left_iff, List.forall₂_map_right_iff]

end

/-! ## Readers that give no reason -/

section

variable {α β : Type} {read : α → Option β} {l : List α}

/-- Reading all members of a list succeeds exactly when each of them can be read. -/
theorem mapM_eq_some_iff {r : List β} : l.mapM read = some r ↔ l.map read = r.map some := by
  rw [← forall₂_map_map_eq_iff]
  induction l generalizing r with
  | nil => simp [eq_comm]
  | cons a rest ih =>
    rw [List.mapM_cons, List.forall₂_cons_left_iff]
    simp only [← ih]
    cases read a with
    | none => simp
    | some b => cases rest.mapM read <;> simp [eq_comm]

/-- Reading all members of a list fails exactly when one of them cannot be read. -/
theorem mapM_eq_none_iff : l.mapM read = none ↔ ∃ a ∈ l, read a = none := by
  induction l with
  | nil => simp
  | cons a rest ih =>
    rw [List.mapM_cons, List.exists_mem_cons_iff, ← ih]
    cases read a with
    | none => simp
    | some b => cases rest.mapM read <;> simp

/-- A reader that undoes a function reads the lists that the function made. -/
theorem mapM_eq_some_iff_eq_map {f : β → α} (hread : ∀ a b, read a = some b ↔ a = f b) {r : List β} :
    l.mapM read = some r ↔ l = r.map f := by
  rw [mapM_eq_some_iff, ← forall₂_map_map_eq_iff]
  simp only [hread]
  rw [forall₂_map_map_eq_iff fun a => a, List.map_id']

/-- Where a condition says which members can be read, a list can be read when all its members meet the condition. -/
theorem mapM_ite (p : α → Prop) [DecidablePred p] (read : α → β) (l : List α) :
    l.mapM (fun a => if p a then some (read a) else none) =
      if ∀ a ∈ l, p a then some (l.map read) else none := by
  induction l with
  | nil => simp
  | cons a rest ih =>
    rw [List.mapM_cons, ih]
    by_cases ha : p a
    · by_cases hrest : ∀ b ∈ rest, p b
      · simp [ha, if_pos hrest]
      · simp [ha, if_neg hrest]
    · simp [ha]

end

/-! ## Readers that give a reason -/

section

variable {α β ε : Type}

theorem map_eq_ok_iff (f : α → β) (x : Except ε α) (b : β) : x.map f = .ok b ↔ ∃ a, x = .ok a ∧ f a = b := by
  cases x <;> simp [Except.map]

theorem map_eq_error_iff (f : α → β) (x : Except ε α) (e : ε) : x.map f = .error e ↔ x = .error e := by
  cases x <;> simp [Except.map]

variable {read : α → Except ε β} {l : List α}

/-- All members are read, each as the member of the result in its place. -/
theorem mapM_eq_ok_iff {r : List β} : l.mapM read = .ok r ↔ List.Forall₂ (fun a b => read a = .ok b) l r := by
  induction l generalizing r with
  | nil => simp [pure, Except.pure, eq_comm]
  | cons a rest ih =>
    rw [List.mapM_cons, List.forall₂_cons_left_iff]
    simp only [← ih]
    cases read a with
    | error e => simp [bind, Except.bind]
    | ok b => cases rest.mapM read <;> simp [bind, Except.bind, pure, Except.pure, eq_comm]

/-- Reading ends at the first member that is refused, for the reason that is given for this member. -/
theorem mapM_eq_error_iff {e : ε} :
    l.mapM read = .error e ↔
      ∃ before results a after, l = before ++ a :: after ∧ before.mapM read = .ok results ∧ read a = .error e := by
  constructor
  · intro h
    induction l with
    | nil => cases h
    | cons a rest ih =>
      rw [List.mapM_cons] at h
      cases ha : read a with
      | error e' =>
        rw [ha] at h
        exact ⟨[], [], a, rest, rfl, rfl, ha.trans (by cases h; rfl)⟩
      | ok b =>
        cases hrest : rest.mapM read with
        | error e' =>
          rw [ha, hrest] at h
          obtain ⟨before, results, a', after, rfl, hbefore, ha'⟩ := ih (hrest.trans (by cases h; rfl))
          refine ⟨a :: before, b :: results, a', after, rfl, ?_, ha'⟩
          exact mapM_eq_ok_iff.2 (.cons ha (mapM_eq_ok_iff.1 hbefore))
        | ok bs =>
          rw [ha, hrest] at h
          cases h
  · rintro ⟨before, results, a, after, rfl, hbefore, ha⟩
    rw [List.mapM_append, hbefore, List.mapM_cons, ha]
    rfl

/-- A reader that undoes a function reads the lists that the function made. -/
theorem mapM_eq_ok_iff_eq_map {f : β → α} (hread : ∀ a b, read a = .ok b ↔ a = f b) {r : List β} :
    l.mapM read = .ok r ↔ l = r.map f := by
  simp only [mapM_eq_ok_iff, hread]
  rw [forall₂_map_map_eq_iff fun a => a, List.map_id']

/-- Lists whose members are read alike are read alike. -/
theorem mapM_congr_of_forall₂ {l' : List α} (h : List.Forall₂ (fun a a' => read a = read a') l l') :
    l.mapM read = l'.mapM read := by
  induction h with
  | nil => rfl
  | cons hread _ ih => rw [List.mapM_cons, List.mapM_cons, hread, ih]

end

end AgentRelay
