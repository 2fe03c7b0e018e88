import AgentRelay.Options
import Mathlib.Data.List.Induction
import Mathlib.Data.List.Nodup

set_option autoImplicit false

/-!
# Where keys stand and what they are worth

Options are determined by their keys, in order, and by the value of each key (`eq_of_keys_of_get?`).  For each way
to set keys there are two equations, one for the order and one for the values:

* `insert` : `keys_insert` and `get?_insert`;
* `insertAll` : `keys_insertAll` and `get?_insertAll`;
* `merge` : `keys_merge` and `get?_merge`.

The two sides follow opposite rules.  A key stands where it was given first, and is worth what was given last.
-/

namespace AgentRelay.Options

/-! ## Keys and values determine the options -/

theorem eq_of_entries {a b : Options} (h : a.entries = b.entries) : a = b := by
  cases a
  cases b
  simpa using h

/-- A key has the value with which it stands among the entries, and no other. -/
theorem get?_eq_some_iff (o : Options) (key value : String) :
    o.get? key = some value ↔ (key, value) ∈ o.entries := by
  constructor
  · intro h
    obtain ⟨entry, hfind, hvalue⟩ := Option.map_eq_some_iff.1 h
    have hkey : entry.1 = key := by simpa using List.find?_some hfind
    have hentry : entry = (key, value) := Prod.ext hkey hvalue
    exact hentry ▸ List.mem_of_find?_eq_some hfind
  · intro h
    cases hfind : o.entries.find? fun entry => entry.1 == key with
    | none => simpa using List.find?_eq_none.1 hfind (key, value) h
    | some entry =>
      have hkey : entry.1 = key := by simpa using List.find?_some hfind
      have hentry : entry = (key, value) :=
        List.inj_on_of_nodup_map o.distinct (List.mem_of_find?_eq_some hfind) h hkey
      rw [get?, hfind, hentry]
      rfl

theorem get?_eq_none_iff (o : Options) (key : String) : o.get? key = none ↔ key ∉ o.keys := by
  simp only [get?, Option.map_eq_none_iff, List.find?_eq_none, beq_iff_eq, keys, List.mem_map, not_exists, not_and]

theorem mem_keys_of_get? {o : Options} {key value : String} (h : o.get? key = some value) : key ∈ o.keys := by
  by_contra hkey
  rw [(o.get?_eq_none_iff key).2 hkey] at h
  cases h

/-- The entries are the keys, each with its value. -/
theorem entries_eq (o : Options) : o.entries = o.keys.filterMap fun key => (o.get? key).map (Prod.mk key) := by
  have hvalue : ∀ entry ∈ o.entries, (o.get? entry.1).map (Prod.mk entry.1) = some entry := by
    intro entry hentry
    rw [(o.get?_eq_some_iff entry.1 entry.2).2 hentry]
    rfl
  rw [keys, List.filterMap_map]
  calc o.entries = o.entries.filterMap some := List.filterMap_some.symm
    _ = _ := List.filterMap_congr fun entry hentry => (hvalue entry hentry).symm

/-- Options with the same keys in the same order and with the same values are equal. -/
theorem eq_of_keys_of_get? {a b : Options} (hkeys : a.keys = b.keys) (hget : ∀ key, a.get? key = b.get? key) :
    a = b := by
  apply eq_of_entries
  rw [entries_eq a, entries_eq b, hkeys]
  exact List.filterMap_congr fun key _ => by rw [hget key]

@[simp] theorem get?_empty (key : String) : empty.get? key = none := rfl

/-! ## One key set -/

theorem find?_put (key value other : String) (entries : List Pair) :
    ((put key value entries).find? fun entry => entry.1 == other).map Prod.snd =
      if other = key then some value else (entries.find? fun entry => entry.1 == other).map Prod.snd := by
  induction entries with
  | nil =>
    by_cases h : other = key
    · simp [put, h]
    · have h' : ¬ key = other := fun e => h e.symm
      simp [put, h, h']
  | cons entry rest ih =>
    rw [put]
    by_cases hkey : entry.1 = key
    · by_cases h : other = key
      · simp [hkey, h]
      · have h' : ¬ key = other := fun e => h e.symm
        simp [hkey, h, h']
    · by_cases h : entry.1 = other
      · have h' : ¬ other = key := fun e => hkey (h.trans e)
        simp [h, h']
      · simpa [hkey, h] using ih

/-- Setting a key changes the value of this key alone. -/
theorem get?_insert (o : Options) (key value other : String) :
    (o.insert key value).get? other = if other = key then some value else o.get? other :=
  find?_put key value other o.entries

/-! ## Many keys set in order -/

/-- The value that was given last for a key. -/
def lastGiven? (pairs : List Pair) (key : String) : Option String :=
  (pairs.reverse.find? fun pair => pair.1 == key).map Prod.snd

theorem lastGiven?_cons (pair : Pair) (pairs : List Pair) (key : String) :
    lastGiven? (pair :: pairs) key = (lastGiven? pairs key).or (if key = pair.1 then some pair.2 else none) := by
  simp only [lastGiven?, List.reverse_cons, List.find?_append, Option.map_or]
  by_cases h : key = pair.1
  · simp [h]
  · have h' : ¬ pair.1 = key := fun e => h e.symm
    simp [h, h']

theorem insertAll_cons (o : Options) (pair : Pair) (pairs : List Pair) :
    o.insertAll (pair :: pairs) = (o.insert pair.1 pair.2).insertAll pairs := rfl

theorem insertAll_append (o : Options) (pairs pairs' : List Pair) :
    o.insertAll (pairs ++ pairs') = (o.insertAll pairs).insertAll pairs' := List.foldl_append

/-- A key is worth what was given last for it. -/
theorem get?_insertAll (o : Options) (pairs : List Pair) (key : String) :
    (o.insertAll pairs).get? key = (lastGiven? pairs key).or (o.get? key) := by
  induction pairs generalizing o with
  | nil => rfl
  | cons pair rest ih =>
    rw [insertAll_cons, ih, get?_insert, lastGiven?_cons, Option.or_assoc]
    by_cases h : key = pair.1 <;> simp [h]

/-- A key stands where it was given first: the keys that are new follow the others, each once. -/
theorem keys_insertAll (o : Options) (pairs : List Pair) :
    (o.insertAll pairs).keys = o.keys ++ ((pairs.map Prod.fst).filter (· ∉ o.keys)).eraseDups := by
  induction pairs generalizing o with
  | nil => simp [insertAll]
  | cons pair rest ih =>
    rw [insertAll_cons, ih, keys_insert, List.map_cons]
    by_cases h : pair.1 ∈ o.keys
    · simp [h]
    · simp only [h, if_false, not_false_eq_true, decide_true, List.filter_cons_of_pos, List.eraseDups_cons,
        List.append_assoc, List.singleton_append, List.filter_filter]
      congr 4
      funext key
      by_cases hkey : key = pair.1 <;> simp [hkey, h]

/-- The keys of collected pairs stand in the order in which they were given first. -/
theorem keys_ofPairs (pairs : List Pair) : (ofPairs pairs).keys = (pairs.map Prod.fst).eraseDups := by
  simp [ofPairs, keys_insertAll]

/-- Collected pairs are worth what was given last. -/
theorem get?_ofPairs (pairs : List Pair) (key : String) : (ofPairs pairs).get? key = lastGiven? pairs key := by
  rw [ofPairs, get?_insertAll, get?_empty, Option.or_none]

/-! ## Options set over options -/

/-- It does not matter whether repeated members are dropped before or after others are sorted out. -/
theorem eraseDups_filter {α : Type} [DecidableEq α] (p : α → Bool) (l : List α) :
    (l.filter p).eraseDups = l.eraseDups.filter p := by
  induction l using List.reverseRecOn with
  | nil => rfl
  | append_singleton l a ih =>
    rw [List.filter_append, List.eraseDups_append, List.eraseDups_append, List.filter_append, ih]
    congr 1
    by_cases ha : p a = true <;> by_cases hmem : a ∈ l <;> simp [List.removeAll, List.eraseDups_cons, ha, hmem]

theorem eraseDups_of_nodup {α : Type} [DecidableEq α] {l : List α} (h : l.Nodup) : l.eraseDups = l := by
  induction l with
  | nil => rfl
  | cons a rest ih =>
    obtain ⟨ha, hrest⟩ := List.nodup_cons.1 h
    have hfilter : rest.filter (fun b => !b == a) = rest := by
      rw [List.filter_eq_self]
      intro b hb
      have : b ≠ a := fun e => ha (e ▸ hb)
      simpa using this
    rw [List.eraseDups_cons, hfilter, ih hrest]

theorem lastGiven?_entries (o : Options) (key : String) : lastGiven? o.entries key = o.get? key := by
  cases hfind : o.entries.reverse.find? fun entry => entry.1 == key with
  | none =>
    rw [lastGiven?, hfind, Option.map_none, eq_comm, get?_eq_none_iff, keys, List.mem_map]
    rintro ⟨entry, hentry, rfl⟩
    simpa using List.find?_eq_none.1 hfind entry (List.mem_reverse.2 hentry)
  | some entry =>
    have hkey : entry.1 = key := by simpa using List.find?_some hfind
    have hmem : entry ∈ o.entries := List.mem_reverse.1 (List.mem_of_find?_eq_some hfind)
    rw [lastGiven?, hfind, Option.map_some, eq_comm, get?_eq_some_iff, ← hkey]
    exact hmem

/-- The keys of the first options keep their places, and the new ones of the second follow in their order. -/
theorem keys_merge (o other : Options) : (o.merge other).keys = o.keys ++ other.keys.filter (· ∉ o.keys) := by
  rw [merge, keys_insertAll, eraseDups_of_nodup]
  · rfl
  · exact other.distinct.filter _

/-- The second options win. -/
theorem get?_merge (o other : Options) (key : String) :
    (o.merge other).get? key = (other.get? key).or (o.get? key) := by
  rw [merge, get?_insertAll, lastGiven?_entries]

/-- Collected pairs, set over options, are the pairs set in order. -/
theorem merge_ofPairs (o : Options) (pairs : List Pair) : o.merge (ofPairs pairs) = o.insertAll pairs := by
  apply eq_of_keys_of_get?
  · rw [keys_merge, keys_insertAll, keys_ofPairs, eraseDups_filter]
  · intro key
    rw [get?_merge, get?_insertAll, get?_ofPairs]

/-- Pairs that are given one after the other are merged. -/
theorem ofPairs_append (pairs pairs' : List Pair) :
    ofPairs (pairs ++ pairs') = (ofPairs pairs).merge (ofPairs pairs') := by
  rw [merge_ofPairs, ofPairs, insertAll_append, ofPairs]

/-- Collecting the entries of options gives the options back. -/
theorem ofPairs_entries (o : Options) : ofPairs o.entries = o := by
  change empty.merge o = o
  apply eq_of_keys_of_get?
  · simp [keys_merge]
  · intro key
    simp [get?_merge]

/-- Pairs whose keys are distinct are collected as they are. -/
theorem entries_ofPairs {pairs : List Pair} (h : (pairs.map Prod.fst).Nodup) : (ofPairs pairs).entries = pairs :=
  congrArg entries (ofPairs_entries ⟨pairs, h⟩)

/-- What stands among collected pairs was given. -/
theorem mem_of_mem_ofPairs {pairs : List Pair} {entry : Pair} (h : entry ∈ (ofPairs pairs).entries) :
    entry ∈ pairs := by
  have hget := ((ofPairs pairs).get?_eq_some_iff entry.1 entry.2).2 h
  rw [get?_ofPairs] at hget
  obtain ⟨pair, hfind, hvalue⟩ := Option.map_eq_some_iff.1 hget
  have hkey : pair.1 = entry.1 := by simpa using List.find?_some hfind
  have hpair : pair = entry := Prod.ext hkey hvalue
  exact hpair ▸ List.mem_reverse.1 (List.mem_of_find?_eq_some hfind)

end AgentRelay.Options
