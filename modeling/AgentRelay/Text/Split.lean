set_option autoImplicit false

/-!
# Cutting a list at a delimiter

Option strings, line files, paths and log directives are all cut at delimiters.  The cuts are stated once,
over lists of any letters, so that they serve characters and bytes alike.

* `cut?` finds the first occurrence of a delimiter and gives what is before and after it.  The empty
  delimiter occurs at the front of everything.
* `pieces` cuts at every occurrence, leftmost first and without overlap.  The empty delimiter occurs
  before, between and after the letters, so that cutting at it gives the letters one by one between two
  empty pieces.
* `fields` cuts at every letter of a class.

Main statement: `cut?` loses nothing (`append_of_cut?`).
-/

namespace AgentRelay.Split

variable {α : Type} [DecidableEq α]

/-! ## The first occurrence -/

/-- The parts before and after the first occurrence of `delimiter`. -/
def cut? (delimiter : List α) : List α → Option (List α × List α)
  | [] => if delimiter = [] then some ([], []) else none
  | c :: rest =>
    if delimiter.isPrefixOf (c :: rest) then some ([], (c :: rest).drop delimiter.length)
    else (cut? delimiter rest).map fun parts => (c :: parts.1, parts.2)

theorem append_of_cut? {d s a b : List α} (h : cut? d s = some (a, b)) : s = a ++ d ++ b := by
  induction s generalizing a with
  | nil =>
    unfold cut? at h
    split at h
    · next hd => simp_all
    · simp at h
  | cons c rest ih =>
    unfold cut? at h
    split at h
    · next hp =>
      obtain ⟨t, ht⟩ := List.isPrefixOf_iff_prefix.1 hp
      simp only [Option.some.injEq, Prod.mk.injEq] at h
      obtain ⟨rfl, rfl⟩ := h
      rw [← ht]
      simp
    · obtain ⟨⟨p, q⟩, hpq, he⟩ := Option.map_eq_some_iff.1 h
      simp only [Prod.mk.injEq] at he
      obtain ⟨rfl, rfl⟩ := he
      have := ih hpq
      simp [this]

theorem length_lt_of_cut? {d s a b : List α} (hd : d ≠ []) (h : cut? d s = some (a, b)) :
    b.length < s.length := by
  rw [append_of_cut? h]
  have := List.length_pos_iff.2 hd
  simp only [List.length_append]
  omega

/-! ## Every occurrence -/

/-- The pieces between the occurrences of `delimiter`. -/
def pieces (delimiter : List α) (s : List α) : List (List α) :=
  if hd : delimiter = [] then [] :: s.map (fun c => [c]) ++ [[]]
  else
    match _h : cut? delimiter s with
    | none => [s]
    | some (before, after) => before :: pieces delimiter after
termination_by s.length
decreasing_by exact length_lt_of_cut? hd (by assumption)

theorem pieces_empty (s : List α) : pieces [] s = [] :: s.map (fun c => [c]) ++ [[]] := by
  rw [pieces]; simp

theorem pieces_of_cut?_eq_none {d s : List α} (hd : d ≠ []) (h : cut? d s = none) :
    pieces d s = [s] := by
  rw [pieces]
  simp only [hd, dite_false]
  split
  · rfl
  · simp_all

theorem pieces_of_cut?_eq_some {d s a b : List α} (hd : d ≠ []) (h : cut? d s = some (a, b)) :
    pieces d s = a :: pieces d b := by
  rw [pieces]
  simp only [hd, dite_false]
  split
  · simp_all
  · next x y hxy =>
    have : (x, y) = (a, b) := Option.some.inj (hxy.symm.trans h)
    simp_all

theorem pieces_ne_nil (d s : List α) : pieces d s ≠ [] := by
  by_cases hd : d = []
  · subst hd; simp [pieces_empty]
  · cases h : cut? d s with
    | none => simp [pieces_of_cut?_eq_none hd h]
    | some p => simp [pieces_of_cut?_eq_some hd (show cut? d s = some (p.1, p.2) from h)]

/-! ## Letters of a class -/

/-- The pieces between the letters that `isSeparator` accepts. -/
def fields (isSeparator : α → Bool) : List α → List (List α)
  | [] => [[]]
  | c :: rest =>
    if isSeparator c then [] :: fields isSeparator rest
    else
      match fields isSeparator rest with
      | [] => [[c]]
      | first :: others => (c :: first) :: others

end AgentRelay.Split
