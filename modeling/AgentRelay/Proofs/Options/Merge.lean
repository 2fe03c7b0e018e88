import AgentRelay.Proofs.Options.Lookup

set_option autoImplicit false

/-!
# The laws of merging

Merging is left-biased in its order and right-biased in its values.  Both come from setting pairs one after the other,
so it does not matter how three options are put together (`merge_assoc`), and options in which all that is set
already stands are left as they are (`merge_eq_left_iff`).
-/

namespace AgentRelay.Options

theorem empty_merge (o : Options) : empty.merge o = o := ofPairs_entries o

theorem merge_empty (o : Options) : o.merge empty = o := rfl

/-- Merged options set the entries of both, one after the other. -/
theorem merge_eq_ofPairs (o other : Options) : o.merge other = ofPairs (o.entries ++ other.entries) := by
  rw [ofPairs_append, ofPairs_entries, ofPairs_entries]

theorem merge_assoc (a b c : Options) : (a.merge b).merge c = a.merge (b.merge c) := by
  calc (a.merge b).merge c = (a.insertAll b.entries).insertAll c.entries := rfl
    _ = a.insertAll (b.entries ++ c.entries) := (insertAll_append ..).symm
    _ = a.merge (b.merge c) := by rw [merge_eq_ofPairs b c, merge_ofPairs]

/-- Entries stand among merged options when the second ones hold them, or the first ones do and their key is not set. -/
theorem mem_entries_merge_iff (o other : Options) (entry : Pair) :
    entry ∈ (o.merge other).entries ↔ entry ∈ other.entries ∨ entry ∈ o.entries ∧ entry.1 ∉ other.keys := by
  obtain ⟨key, value⟩ := entry
  rw [← get?_eq_some_iff, ← get?_eq_some_iff, ← get?_eq_some_iff, get?_merge, ← get?_eq_none_iff]
  cases other.get? key with
  | none => simp
  | some value' => simp

/-- Nothing is changed exactly when all that is set stands there already. -/
theorem merge_eq_left_iff (o other : Options) : o.merge other = o ↔ ∀ entry ∈ other.entries, entry ∈ o.entries := by
  constructor
  · intro h entry hentry
    rw [← h, mem_entries_merge_iff]
    exact .inl hentry
  · intro h
    apply eq_of_keys_of_get?
    · have hnew : other.keys.filter (· ∉ o.keys) = [] := by
        rw [List.filter_eq_nil_iff]
        intro key hkey
        obtain ⟨entry, hentry, rfl⟩ := List.mem_map.1 hkey
        have hkey : entry.1 ∈ o.keys := List.mem_map_of_mem (h entry hentry)
        simpa using hkey
      rw [keys_merge, hnew, List.append_nil]
    · intro key
      rw [get?_merge]
      cases hget : other.get? key with
      | none => rw [Option.none_or]
      | some value =>
        rw [Option.some_or, eq_comm, get?_eq_some_iff]
        exact h _ ((get?_eq_some_iff ..).1 hget)

/-- Merging is associative, and no options are neutral on both sides.  Options merged with themselves, or twice with the
same ones, are not changed any more.  The keys of the first options stand in front in their order, and the new keys of
the second ones follow in theirs. -/
theorem merge_laws (a b c : Options) :
    (a.merge b).merge c = a.merge (b.merge c) ∧
    empty.merge a = a ∧ a.merge empty = a ∧
    a.merge a = a ∧ (a.merge b).merge b = a.merge b ∧
    (a.merge b).keys = a.keys ++ b.keys.filter (· ∉ a.keys) := by
  refine ⟨merge_assoc a b c, empty_merge a, merge_empty a, ?_, ?_, keys_merge a b⟩
  · exact (merge_eq_left_iff a a).2 fun _ hentry => hentry
  · rw [merge_eq_left_iff]
    intro entry hentry
    exact (mem_entries_merge_iff a b entry).2 (.inl hentry)

/-- The second options move no key, and the third ones set a value that both others had. -/
example :
    let a := ofPairs [("x", "1"), ("y", "2")]
    let b := ofPairs [("z", "3"), ("x", "4")]
    (a.merge b).merge (ofPairs [("x", "5")]) = ofPairs [("x", "5"), ("y", "2"), ("z", "3")] := by decide +kernel

end AgentRelay.Options
