import AgentRelay.Proofs.Toml.Flat

set_option autoImplicit false

/-!
# What a statement does to the keys around its own

Whatever a statement names, it looks at one key of the document's own table and edits the entry of this key: it adds it,
changes it or takes it out.  `Local` says so of an action on a table: it does the same when the table is cut down to that
key, and it leaves the entries of all other keys alone.

So what a sequence of such actions leaves for a key is decided by the actions at that key, in their order, and the whole
sequence succeeds as soon as it does so key by key (`foldlM_under` and `isSome_foldlM`).
-/

namespace AgentRelay.Toml

namespace Entries

/-! ## The entries of one key -/

/-- The entries of one key. -/
def under (entries : Entries) (key : String) : Entries := entries.filter fun entry => entry.1 = key

variable {key other : String} {node : Node}

theorem lookup_under (entries : Entries) (key : String) : (entries.under key).lookup key = entries.lookup key := by
  induction entries with
  | nil => rfl
  | cons entry rest ih =>
    obtain ⟨name, node⟩ := entry
    by_cases h : name = key
    · simp [under, h]
    · have h' : (key == name) = false := by simpa using fun e => h e.symm
      rw [under, List.filter_cons_of_neg (by simpa using h), List.lookup_cons, h']
      exact ih

theorem mem_under_iff (entries : Entries) (key : String) (entry : String × Node) :
    entry ∈ entries.under key ↔ entry ∈ entries ∧ entry.1 = key := by simp [under]

/-! ## Edits -/

/-- What can happen to the entry of a key. -/
inductive Edit where
  | keep
  | add (node : Node)
  | change (node : Node)
  | remove

/-- The entries after the entry of a key has been edited. -/
def edit (key : String) (entries : Entries) : Edit → Entries
  | .keep => entries
  | .add node => entries ++ [(key, node)]
  | .change node => entries.replace key node
  | .remove => entries.filter fun entry => entry.1 != key

/-- An edit of a key edits the entries of this key. -/
theorem under_edit (key : String) (entries : Entries) (e : Edit) :
    (entries.edit key e).under key = (entries.under key).edit key e := by
  cases e with
  | keep => rfl
  | add node => simp [edit, under]
  | change node =>
    simp only [edit, under, replace, List.filter_map]
    congr 1
    apply List.filter_congr
    intro entry _
    by_cases h : entry.1 = key <;> simp [h]
  | remove =>
    rw [edit, edit, under, under, List.filter_filter, List.filter_filter]
    exact List.filter_congr fun entry _ => Bool.and_comm _ _

/-- An edit of a key edits no entries of other keys. -/
theorem under_edit_of_ne (h : other ≠ key) (entries : Entries) (e : Edit) :
    (entries.edit key e).under other = entries.under other := by
  cases e with
  | keep => rfl
  | add node => simp [edit, under, h.symm]
  | change node =>
    induction entries with
    | nil => rfl
    | cons entry rest ih =>
      simp only [edit, under, replace, List.map_cons] at ih ⊢
      by_cases hentry : entry.1 = key
      · simp [hentry, h.symm, ih]
      · simp [hentry, List.filter_cons, ih]
  | remove =>
    rw [edit, under, under, List.filter_filter]
    apply List.filter_congr
    intro entry _
    by_cases hentry : entry.1 = other <;> simp [hentry, h]

/-! ## Actions on one key -/

variable {β γ : Type}

/-- The action looks at one key and edits the entry of this key. -/
structure Local (key : String) (act : Entries → Option (β × Entries)) : Prop where
  within : ∀ entries, act (entries.under key) = (act entries).map fun made => (made.1, made.2.under key)
  outside : ∀ {entries found made}, act entries = some (found, made) →
    ∀ other, other ≠ key → made.under other = entries.under other

/-- An edit that is chosen by the entry of the key is such an action. -/
theorem local_of_edit {act : Entries → Option (β × Entries)} (choose : Option Node → Option (β × Edit))
    (h : ∀ entries, act entries =
      (choose (entries.lookup key)).map fun chosen => (chosen.1, entries.edit key chosen.2)) : Local key act where
  within entries := by
    rw [h, h, lookup_under, Option.map_map]
    apply Option.map_congr
    intro chosen _
    rw [Function.comp_apply, under_edit]
  outside hact other hother := by
    rw [h] at hact
    obtain ⟨chosen, -, hmade⟩ := Option.map_eq_some_iff.1 hact
    obtain ⟨-, rfl⟩ := Prod.mk.inj hmade
    exact under_edit_of_ne hother _ _

theorem local_none (key : String) : Local key fun _ => (none : Option (β × Entries)) where
  within _ := rfl
  outside h := by cases h

theorem Local.bind {act : Entries → Option (β × Entries)} {next : β → Entries → Option (γ × Entries)}
    (hact : Local key act) (hnext : ∀ found, Local key (next found)) :
    Local key fun entries => (act entries).bind fun made => next made.1 made.2 where
  within entries := by
    rw [hact.within, Option.map_bind, Option.bind_map]
    congr 1
    funext made
    exact (hnext made.1).within made.2
  outside h other hother := by
    obtain ⟨⟨found, between⟩, hbetween, hmade⟩ := Option.bind_eq_some_iff.1 h
    rw [(hnext found).outside hmade other hother, hact.outside hbetween other hother]

/-- What the action finds can be changed. -/
theorem Local.map {act : Entries → Option (β × Entries)} (hact : Local key act) (f : β → γ) :
    Local key fun entries => (act entries).map fun made => (f made.1, made.2) where
  within entries := by
    rw [hact.within, Option.map_map, Option.map_map]
    rfl
  outside h other hother := by
    obtain ⟨⟨found, made⟩, hmade, heq⟩ := Option.map_eq_some_iff.1 h
    obtain ⟨-, rfl⟩ := Prod.mk.inj heq
    exact hact.outside hmade other hother

/-! ## What is done at a key -/

theorem local_put (key : String) (node : Node) :
    Local key fun entries => (entries.put key node).map (Prod.mk ()) := by
  refine local_of_edit (fun entry? => if entry?.isSome then none else some ((), .add node)) fun entries => ?_
  rw [put]
  split
  · rfl
  · rfl

/-- What is taken for the header of a table, and the edit that takes it. -/
def takeTableEdit : Option Node → Option (Entries × Edit)
  | none => some ([], .keep)
  | some (.table true false below) => some (below, .remove)
  | some _ => none

theorem local_takeTable (key : String) : Local key fun entries => entries.takeTable key := by
  refine local_of_edit takeTableEdit fun entries => ?_
  rw [takeTable]
  cases entries.lookup key with
  | none => rfl
  | some node =>
    cases node with
    | leaf v => rfl
    | table implicit dotted below => cases implicit <;> cases dotted <;> rfl
    | tables elements => rfl

/-- The edit for the header of an element. -/
def openElementEdit : Option Node → Option (Unit × Edit)
  | none => some ((), .add (.tables []))
  | some (.tables _) => some ((), .keep)
  | some _ => none

theorem local_openElement (key : String) :
    Local key fun entries => (entries.openElement key).map (Prod.mk ()) := by
  refine local_of_edit openElementEdit fun entries => ?_
  rw [openElement]
  cases entries.lookup key with
  | none => rfl
  | some node => cases node <;> rfl

/-- The edit that adds an element. -/
def addElementEdit (element : Entries) : Option Node → Option (Unit × Edit)
  | none => some ((), .add (.tables [element]))
  | some (.tables elements) => some ((), .change (.tables (elements ++ [element])))
  | some _ => none

theorem local_addElement (key : String) (element : Entries) :
    Local key fun entries => (entries.addElement key element).map (Prod.mk ()) := by
  refine local_of_edit (addElementEdit element) fun entries => ?_
  rw [addElement]
  cases entries.lookup key with
  | none => rfl
  | some node => cases node <;> rfl

/-- The edit at the first key of a path, after the rest of the path has been visited below it. -/
def visitEdit (byKey : Bool) (change : Bool → Entries → Option (β × Entries)) (path : List String) :
    Option Node → Option (β × Edit)
  | none => (visit byKey change path byKey []).map fun made => (made.1, .add (.table true byKey made.2))
  | some (.leaf _) => none
  | some (.table implicit dotted below) =>
    if byKey && !implicit then none
    else (visit byKey change path dotted below).map fun made => (made.1, .change (.table implicit dotted made.2))
  | some (.tables elements) =>
    match elements.getLast? with
    | none => none
    | some last => (visit byKey change path false last).map fun made =>
        (made.1, .change (.tables (elements.dropLast ++ [made.2])))

/-- On the way down only the first key of the path is looked at, whatever is done at its end. -/
theorem local_visit (byKey dotted : Bool) (change : Bool → Entries → Option (β × Entries)) (key : String)
    (path : List String) : Local key fun entries => entries.visit byKey change (key :: path) dotted := by
  refine local_of_edit (visitEdit byKey change path) fun entries => ?_
  rw [visit]
  cases entries.lookup key with
  | none =>
    rw [visitEdit, Option.map_map]
    rfl
  | some node =>
    cases node with
    | leaf v => rfl
    | table implicit dotted below =>
      simp only [visitEdit]
      split
      · rfl
      · rw [Option.map_map]
        rfl
    | tables elements =>
      simp only [visitEdit]
      cases elements.getLast? with
      | none => rfl
      | some last =>
        simp only [Option.map_map]
        rfl

/-- What is done at the end of the path of a key with several parts, the last of them apart, is done at its first
part. -/
theorem local_visit_dropLast (byKey : Bool) {change : Bool → Entries → Option (β × Entries)} {root last : String}
    {below : List String} (hlast : (root :: below).getLast? = some last)
    (hchange : ∀ dotted, Local last (change dotted)) :
    Local root fun entries => entries.visit byKey change (root :: below).dropLast false := by
  cases below with
  | nil =>
    obtain rfl : root = last := Option.some.inj hlast
    exact hchange false
  | cons part below => exact local_visit byKey false change root _

/-- The same with an answer of nothing but the table. -/
theorem local_modify (byKey : Bool) {change : Bool → Entries → Option Entries} {root last : String}
    {below : List String} (hlast : (root :: below).getLast? = some last)
    (hchange : ∀ dotted, Local last fun entries => (change dotted entries).map (Prod.mk ())) :
    Local root fun entries => (entries.modify byKey change (root :: below).dropLast).map (Prod.mk ()) := by
  simpa only [modify, Option.map_map, Function.comp_def] using
    (local_visit_dropLast byKey hlast hchange).map fun _ => ()

theorem local_setKey (root : String) (below : List String) (v : Value) :
    Local root fun entries => (setKey (root :: below) v entries).map (Prod.mk ()) := by
  have hlast : (root :: below).getLast? = some ((root :: below).getLast (List.cons_ne_nil _ _)) :=
    List.getLast?_eq_some_getLast _
  simp only [setKey, hlast, setValue]
  refine local_modify true hlast fun dotted => ?_
  split
  · exact local_none _
  · exact local_put _ _

/-! ## Sequences of actions -/

section

variable {act : Entries → Option Entries} {entries made : Entries}

theorem Local.act_under (h : Local key fun entries => (act entries).map (Prod.mk ())) (entries : Entries) :
    act (entries.under key) = (act entries).map fun made => made.under key := by
  have hwithin := congrArg (Option.map Prod.snd) (h.within entries)
  simpa only [Option.map_map, Function.comp_def, Option.map_id'] using hwithin

theorem Local.under_of_ne (h : Local key fun entries => (act entries).map (Prod.mk ()))
    (hact : act entries = some made) (hother : other ≠ key) : made.under other = entries.under other :=
  h.outside (Option.map_eq_some_iff.2 ⟨made, hact, rfl⟩) other hother

end

section

variable {ι : Type} {root : ι → String} {act : Entries → ι → Option Entries}
  (hlocal : ∀ i, Local (root i) fun entries => (act entries i).map (Prod.mk ()))

include hlocal

/-- What a sequence of actions leaves for a key is what the actions at this key make of its entries. -/
theorem foldlM_under {items : List ι} {entries made : Entries}
    (h : items.foldlM act entries = some made) (key : String) :
    (items.filter (root · = key)).foldlM act (entries.under key) =
      some (made.under key) := by
  induction items generalizing entries with
  | nil =>
    obtain rfl := Option.some.inj h
    rfl
  | cons i rest ih =>
    obtain ⟨between, hact, hrest⟩ := Option.bind_eq_some_iff.1 h
    by_cases hi : root i = key
    · obtain rfl := hi
      have hkey : act (entries.under (root i)) i = some (between.under (root i)) := by
        rw [(hlocal i).act_under, hact, Option.map_some]
      rw [List.filter_cons_of_pos (by simp), List.foldlM_cons, hkey]
      exact ih hrest
    · rw [List.filter_cons_of_neg (by simpa using hi), ← (hlocal i).under_of_ne hact fun e => hi e.symm]
      exact ih hrest

/-- A sequence of actions succeeds if it does so key by key. -/
theorem isSome_foldlM {items : List ι} {entries : Entries}
    (h : ∀ key, ((items.filter (root · = key)).foldlM act (entries.under key)).isSome) :
    (items.foldlM act entries).isSome := by
  induction items generalizing entries with
  | nil => rfl
  | cons i rest ih =>
    -- the first action succeeds because it does so at its own key
    have hfirst := h (root i)
    rw [List.filter_cons_of_pos (by simp), List.foldlM_cons, (hlocal i).act_under] at hfirst
    cases hact : act entries i with
    | none =>
      rw [hact] at hfirst
      cases hfirst
    | some between =>
      rw [List.foldlM_cons, hact]
      refine ih fun key => ?_
      by_cases hi : root i = key
      · obtain rfl := hi
        rw [hact] at hfirst
        exact hfirst
      · have hrest := h key
        rw [List.filter_cons_of_neg (by simpa using hi)] at hrest
        rw [(hlocal i).under_of_ne hact fun e => hi e.symm]
        exact hrest

end

end Entries

end AgentRelay.Toml
