import AgentRelay.Toml.Document
import Mathlib.Data.List.Nodup
import Mathlib.Data.String.Basic

set_option autoImplicit false

/-!
# The keys of a document

A key of the document's own table is named by pairs, by headers and on the way to tables below it.  Whatever names it
either finds it there or adds it at the end, so no statement makes it occur twice (`Draft.Distinct.add`).  In the end
the table is sorted (`parse_eq_some_iff`), so a document that was read lists its keys in strictly increasing order
(`sorted_of_parse`).

The tables below are not looked at: what is done inside one leaves the keys around it as they are.
-/

namespace AgentRelay.Toml

/-! ## Tables -/

namespace Entries

/-- No key occurs twice. -/
def Distinct (entries : Entries) : Prop := (entries.map Prod.fst).Nodup

variable {entries made : Entries} {key : String} {node : Node}

theorem keys_replace (entries : Entries) (key : String) (node : Node) :
    (entries.replace key node).map Prod.fst = entries.map Prod.fst := by
  rw [replace, List.map_map]
  refine List.map_congr_left fun entry _ => ?_
  rw [Function.comp_apply]
  split
  · next h => exact h.symm
  · rfl

theorem Distinct.replace (h : entries.Distinct) : (entries.replace key node).Distinct := by
  rw [Distinct, keys_replace]
  exact h

/-- A key that is not there can be added. -/
theorem Distinct.append (h : entries.Distinct) (hnew : entries.lookup key = none) :
    Distinct (entries ++ [(key, node)]) := by
  have hfresh : key ∉ entries.map Prod.fst := by
    rintro hmem
    obtain ⟨entry, hentry, rfl⟩ := List.mem_map.1 hmem
    simpa using List.lookup_eq_none_iff.1 hnew entry hentry
  rw [Distinct, List.map_append, List.map_singleton, List.nodup_append_comm, List.singleton_append, List.nodup_cons]
  exact ⟨hfresh, h⟩

theorem Distinct.put (h : entries.Distinct) (hput : entries.put key node = some made) : made.Distinct := by
  rw [Entries.put] at hput
  split at hput
  · cases hput
  · next hnew =>
    obtain rfl := Option.some.inj hput
    exact h.append (Option.not_isSome_iff_eq_none.1 hnew)

theorem Distinct.openElement (h : entries.Distinct) (hopen : entries.openElement key = some made) :
    made.Distinct := by
  rw [Entries.openElement] at hopen
  split at hopen
  · next hnew =>
    obtain rfl := Option.some.inj hopen
    exact h.append hnew
  · obtain rfl := Option.some.inj hopen
    exact h
  · cases hopen

theorem Distinct.addElement {element : Entries} (h : entries.Distinct)
    (hadd : entries.addElement key element = some made) : made.Distinct := by
  rw [Entries.addElement] at hadd
  split at hadd
  · next hnew =>
    obtain rfl := Option.some.inj hadd
    exact h.append hnew
  · obtain rfl := Option.some.inj hadd
    exact h.replace
  · cases hadd

theorem Distinct.takeTable {found remaining : Entries} (h : entries.Distinct)
    (htake : entries.takeTable key = some (found, remaining)) : remaining.Distinct := by
  rw [Entries.takeTable] at htake
  split at htake
  · obtain ⟨-, rfl⟩ := Prod.mk.inj (Option.some.inj htake)
    exact h
  · obtain ⟨-, rfl⟩ := Prod.mk.inj (Option.some.inj htake)
    exact (List.filter_sublist.map Prod.fst).nodup h
  · cases htake

/-- On the way down a key is found or added.  So the keys stay distinct if they do where the way is short. -/
theorem Distinct.visit {β : Type} {byKey dotted : Bool} {change : Bool → Entries → Option (β × Entries)}
    {path : List String} {found : β} (h : entries.Distinct)
    (hchange : ∀ found made, change dotted entries = some (found, made) → made.Distinct)
    (hvisit : entries.visit byKey change path dotted = some (found, made)) : made.Distinct := by
  cases path with
  | nil => exact hchange found made hvisit
  | cons key path =>
    rw [Entries.visit] at hvisit
    split at hvisit
    · next hnew =>
      obtain ⟨_, _, hmade⟩ := Option.map_eq_some_iff.1 hvisit
      obtain ⟨-, rfl⟩ := Prod.mk.inj hmade
      exact h.append hnew
    · cases hvisit
    · split at hvisit
      · cases hvisit
      · obtain ⟨_, _, hmade⟩ := Option.map_eq_some_iff.1 hvisit
        obtain ⟨-, rfl⟩ := Prod.mk.inj hmade
        exact h.replace
    · split at hvisit
      · cases hvisit
      · obtain ⟨_, _, hmade⟩ := Option.map_eq_some_iff.1 hvisit
        obtain ⟨-, rfl⟩ := Prod.mk.inj hmade
        exact h.replace

theorem Distinct.modify {byKey : Bool} {change : Bool → Entries → Option Entries} {path : List String}
    (h : entries.Distinct) (hchange : ∀ dotted made, change dotted entries = some made → made.Distinct)
    (hmodify : entries.modify byKey change path = some made) : made.Distinct := by
  obtain ⟨⟨found, made'⟩, hvisit, rfl⟩ := Option.map_eq_some_iff.1 hmodify
  refine h.visit (fun found made'' hchanged => ?_) hvisit
  obtain ⟨made, hmade, heq⟩ := Option.map_eq_some_iff.1 hchanged
  obtain ⟨-, rfl⟩ := Prod.mk.inj heq
  exact hchange _ _ hmade

theorem Distinct.setKey {path : List String} {v : Value} (h : entries.Distinct)
    (hset : setKey path v entries = some made) : made.Distinct := by
  rw [Toml.setKey] at hset
  split at hset
  · refine h.modify (fun dotted made' hput => ?_) hset
    split at hput
    · cases hput
    · exact h.put hput
  · cases hset

end Entries

/-! ## Documents under construction -/

namespace Draft

/-- No key of the document's own table occurs twice, be that table closed or open. -/
structure Distinct (d : Draft) : Prop where
  closed : d.closed.Distinct
  opened : d.path = [] → d.opened.Distinct

variable {d made : Draft} {entries : Entries}

theorem distinct_start : start.Distinct := ⟨List.nodup_nil, fun _ => List.nodup_nil⟩

/-- Closing the open table adds its key to the table around it. -/
theorem Distinct.close (h : d.Distinct) (hclose : d.close = some entries) : entries.Distinct := by
  rw [Draft.close] at hclose
  split at hclose
  · next hpath =>
    obtain rfl := Option.some.inj hclose
    exact h.opened (List.getLast?_eq_none_iff.1 hpath)
  · refine h.closed.modify (fun dotted made hchange => ?_) hclose
    split at hchange
    · exact h.closed.addElement hchange
    · exact h.closed.put hchange

theorem Distinct.openTable {key : List String} (h : entries.Distinct) (hopen : openTable key entries = some made) :
    made.Distinct := by
  rw [Draft.openTable] at hopen
  split at hopen
  · cases hopen
  · next hlast =>
    obtain ⟨⟨found, remaining⟩, hvisit, rfl⟩ := Option.map_eq_some_iff.1 hopen
    refine ⟨h.visit (fun _ _ htake => h.takeTable htake) hvisit, fun hpath => ?_⟩
    obtain rfl : key = [] := hpath
    cases hlast

theorem Distinct.openElement {key : List String} (h : entries.Distinct)
    (hopen : openElement key entries = some made) : made.Distinct := by
  rw [Draft.openElement] at hopen
  split at hopen
  · cases hopen
  · next hlast =>
    obtain ⟨remaining, hmodify, rfl⟩ := Option.map_eq_some_iff.1 hopen
    refine ⟨h.modify (fun _ _ hopened => h.openElement hopened) hmodify, fun hpath => ?_⟩
    obtain rfl : key = [] := hpath
    cases hlast

/-- No statement makes a key occur twice. -/
theorem Distinct.add {st : Statement} (h : d.Distinct) (hadd : d.add st = some made) : made.Distinct := by
  cases st with
  | pair key v =>
    obtain ⟨opened, hset, rfl⟩ := Option.map_eq_some_iff.1 hadd
    exact ⟨h.closed, fun hpath => (h.opened hpath).setKey hset⟩
  | header key =>
    obtain ⟨entries, hclose, hopen⟩ := Option.bind_eq_some_iff.1 hadd
    exact .openTable (h.close hclose) hopen
  | elementHeader key =>
    obtain ⟨entries, hclose, hopen⟩ := Option.bind_eq_some_iff.1 hadd
    exact .openElement (h.close hclose) hopen

theorem Distinct.foldlM_add {sts : List Statement} (h : d.Distinct) (hrun : sts.foldlM Draft.add d = some made) :
    made.Distinct := by
  induction sts generalizing d with
  | nil =>
    obtain rfl := Option.some.inj hrun
    exact h
  | cons st rest ih =>
    rw [List.foldlM_cons] at hrun
    obtain ⟨next, hadd, hrest⟩ := Option.bind_eq_some_iff.1 hrun
    exact ih (h.add hadd) hrest

/-- No key of the document's own table occurs twice. -/
theorem distinct_of_close {sts : List Statement} (h : (sts.foldlM Draft.add start).bind close = some entries) :
    entries.Distinct := by
  obtain ⟨draft, hrun, hclose⟩ := Option.bind_eq_some_iff.1 h
  exact (distinct_start.foldlM_add hrun).close hclose

end Draft

/-! ## Finished documents -/

theorem entryValues_eq_map (entries : Entries) :
    Node.entryValues entries = entries.map fun entry => (entry.1, entry.2.value) := by
  induction entries with
  | nil => rfl
  | cons entry rest ih => exact congrArg ((entry.1, entry.2.value) :: ·) ih

theorem keys_entryValues (entries : Entries) :
    (Node.entryValues entries).map Prod.fst = entries.map Prod.fst := by
  rw [entryValues_eq_map, List.map_map]
  rfl

theorem entriesWithMoments_cons_iff {entry : String × Value} {rest made : List (String × Value)} :
    entriesWithMoments (entry :: rest) = some made ↔
      ∃ v others, entry.2.withMoments = some v ∧ entriesWithMoments rest = some others ∧
        made = (entry.1, v) :: others := by
  rw [entriesWithMoments]
  cases entry.2.withMoments with
  | none => simp
  | some v =>
    cases entriesWithMoments rest with
    | none => simp
    | some others => simp [eq_comm]

theorem keys_entriesWithMoments {entries made : List (String × Value)} (h : entriesWithMoments entries = some made) :
    made.map Prod.fst = entries.map Prod.fst := by
  induction entries generalizing made with
  | nil =>
    obtain rfl := Option.some.inj h
    rfl
  | cons entry rest ih =>
    obtain ⟨v, others, -, hothers, rfl⟩ := entriesWithMoments_cons_iff.1 h
    rw [List.map_cons, List.map_cons, ih hothers]

/-- Sorting brings keys into increasing order. -/
theorem le_mergeSort {β : Type} (entries : List (String × β)) :
    (entries.mergeSort fun a b => decide (a.1 ≤ b.1)).Pairwise fun a b => a.1 ≤ b.1 := by
  have hsorted := @List.pairwise_mergeSort (String × β) (fun a b => decide (a.1 ≤ b.1))
    (fun a b c hab hbc => decide_eq_true (le_trans (of_decide_eq_true hab) (of_decide_eq_true hbc)))
    (fun a b => by simpa using le_total a.1 b.1) entries
  exact hsorted.imp of_decide_eq_true

/-- Distinct keys in increasing order stand in strictly increasing order. -/
theorem lt_mergeSort {β : Type} {entries : List (String × β)} (h : (entries.map Prod.fst).Nodup) :
    (entries.mergeSort fun a b => decide (a.1 ≤ b.1)).Pairwise fun a b => a.1 < b.1 := by
  have hperm := List.mergeSort_perm entries fun a b => decide (a.1 ≤ b.1)
  have hdistinct : (entries.mergeSort fun a b => decide (a.1 ≤ b.1)).Pairwise fun a b => a.1 ≠ b.1 :=
    List.pairwise_map.1 ((hperm.map Prod.fst).nodup_iff.2 h)
  exact (le_mergeSort entries).imp₂ (fun _ _ hle hne => lt_of_le_of_ne hle hne) hdistinct

/-- The table of a document is what its statements leave, sorted by its keys. -/
theorem parse_eq_some_iff (text : String) (document : Document) :
    Document.parse text = some document ↔
      ∃ sts entries made, statements text = some sts ∧
        (sts.foldlM Draft.add Draft.start).bind Draft.close = some entries ∧
        entriesWithMoments (Node.entryValues entries) = some made ∧
        document = made.mergeSort fun a b => decide (a.1 ≤ b.1) := by
  simp only [Document.parse, Document.ofStatements, Option.bind_eq_some_iff, Option.map_eq_some_iff]
  constructor
  · rintro ⟨sts, hsts, draft, hrun, entries, hclose, made, hmade, rfl⟩
    exact ⟨sts, entries, made, hsts, ⟨draft, hrun, hclose⟩, hmade, rfl⟩
  · rintro ⟨sts, entries, made, hsts, ⟨draft, hrun, hclose⟩, hmade, rfl⟩
    exact ⟨sts, hsts, draft, hrun, entries, hclose, made, hmade, rfl⟩

/-- The statements of a document leave distinct keys. -/
theorem nodup_entriesWithMoments {sts : List Statement} {entries : Entries} {made : List (String × Value)}
    (hentries : (sts.foldlM Draft.add Draft.start).bind Draft.close = some entries)
    (hmade : entriesWithMoments (Node.entryValues entries) = some made) : (made.map Prod.fst).Nodup := by
  rw [keys_entriesWithMoments hmade, keys_entryValues]
  exact Draft.distinct_of_close hentries

/-- A document that was read lists its keys in strictly increasing order. -/
theorem sorted_of_parse {text : String} {document : Document} (h : Document.parse text = some document) :
    document.Pairwise fun a b => a.1 < b.1 := by
  obtain ⟨sts, entries, made, -, hentries, hmade, rfl⟩ := (parse_eq_some_iff ..).1 h
  exact lt_mergeSort (nodup_entriesWithMoments hentries hmade)

theorem nodup_of_parse {text : String} {document : Document} (h : Document.parse text = some document) :
    (document.map Prod.fst).Nodup :=
  List.pairwise_map.2 ((sorted_of_parse h).imp fun hlt => ne_of_lt hlt)

end AgentRelay.Toml
