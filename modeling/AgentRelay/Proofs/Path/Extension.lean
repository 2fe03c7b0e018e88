import AgentRelay.Proofs.Path.Components

set_option autoImplicit false

/-!
# File names and extensions

The name of a file is the last component of its path, if that is a name (`fileName?_eq_some_iff`), and its extension is
what follows the last dot of the name, if there is a dot behind the first character (`extension?_eq_some_iff`).

Extensions are compared without regard to the case of ASCII letters.  That is done byte by byte, and comes to the same as
comparing texts in small letters, because no other character has a byte of an ASCII letter in it (`encode_toLower`).
-/

namespace AgentRelay.Path

/-! ## File names -/

theorem step_spec {p : Path} {name : Utf8.Bytes} (h : name ∈ p.steps) : name ≠ [separator] ∧ name ≠ here := by
  obtain ⟨hname, hstep⟩ := List.mem_filter.1 h
  have hfree : separator ∉ name := by
    rw [← List.singleton_infix_iff]
    exact Split.not_infix_of_mem_pieces (List.cons_ne_nil _ _) hname
  constructor
  · rintro rfl
    exact hfree (.head _)
  · rintro rfl
    simp at hstep

/-- The name of the file at a path: the last component, if it is neither the root nor the directory itself nor the one
above. -/
structure HasFileName (p : Path) (name : Utf8.Bytes) : Prop where
  last : p.components.getLast? = some name
  not_root : name ≠ [separator]
  not_here : name ≠ here
  not_above : name ≠ above

/-- The file name is the last step, unless that leads upwards. -/
theorem fileName?_eq_some_iff_steps (p : Path) (name : Utf8.Bytes) :
    p.fileName? = some name ↔ p.steps.getLast? = some name ∧ name ≠ above := by
  have hsteps : (p.names.filter fun name => !name.isEmpty && name != here) = p.steps := rfl
  rw [fileName?, hsteps]
  cases p.steps.getLast? with
  | none => simp
  | some step =>
    by_cases habove : step = above
    · simp only [habove, beq_self_eq_true, if_true, Option.some.injEq]
      exact iff_of_false (Option.some_ne_none _).symm fun ⟨heq, hne⟩ => hne heq.symm
    · simp only [beq_eq_false_iff_ne.2 habove, Option.some.injEq, Bool.false_eq_true, if_false]
      constructor
      · rintro rfl
        exact ⟨rfl, habove⟩
      · exact And.left

theorem fileName?_eq_some_iff (p : Path) (name : Utf8.Bytes) : p.fileName? = some name ↔ p.HasFileName name := by
  rw [fileName?_eq_some_iff_steps]
  constructor
  · rintro ⟨hlast, habove⟩
    obtain ⟨hroot, hhere⟩ := step_spec (List.mem_of_getLast? hlast)
    exact ⟨by rw [components_eq, List.getLast?_append, hlast, Option.some_or], hroot, hhere, habove⟩
  · rintro ⟨hlast, hroot, hhere, habove⟩
    rw [components_eq, List.getLast?_append] at hlast
    cases hstep : p.steps.getLast? with
    | some step =>
      rw [hstep, Option.some_or] at hlast
      exact ⟨hlast, habove⟩
    | none =>
      -- what stands before the steps is no name
      rw [hstep, Option.none_or, lead] at hlast
      split at hlast
      · exact absurd (Option.some.inj hlast).symm hroot
      · split at hlast
        · exact absurd (Option.some.inj hlast).symm hhere
        · cases hlast

/-! ## Extensions -/

/-- The extension is what follows the last dot, when there is a dot behind the first character. -/
theorem extension?_eq_some_iff (p : Path) (ext : Utf8.Bytes) :
    p.extension? = some ext ↔ ∃ name, p.HasFileName name ∧
      (∃ front back, name = front ++ dot :: back ∧ front ≠ []) ∧ ∃ stem, name = stem ++ dot :: ext ∧ dot ∉ ext := by
  simp only [extension?, Option.bind_eq_some_iff, fileName?_eq_some_iff]
  refine exists_congr fun name => and_congr_right fun _ => ?_
  rw [← Split.mem_drop_one_iff]
  by_cases hdot : dot ∈ name.drop 1
  · rw [if_pos hdot, Option.some.injEq, Split.reverse_takeWhile_reverse_eq_iff (List.mem_of_mem_drop hdot),
      and_iff_right hdot]
  · rw [if_neg hdot]
    exact iff_of_false (Option.some_ne_none _).symm fun h => hdot h.1

/-! ## Letters of either case -/

theorem toNat_smallLetter (b : UInt8) :
    (smallLetter b).toNat = if 0x41 ≤ b.toNat ∧ b.toNat ≤ 0x5A then b.toNat + 0x20 else b.toNat := by
  have hrange : (0x41 ≤ b && b ≤ 0x5A) = true ↔ 0x41 ≤ b.toNat ∧ b.toNat ≤ 0x5A := by
    simp only [Bool.and_eq_true, decide_eq_true_eq, UInt8.le_iff_toNat_le, UInt8.reduceToNat]
  have hoffset : (0x20 : UInt8).toNat = 0x20 := rfl
  rw [smallLetter]
  split
  · next h =>
    have hrange' := hrange.1 h
    rw [if_pos hrange', UInt8.toNat_add, hoffset]
    omega
  · next h => rw [if_neg (mt hrange.2 h)]

theorem toNat_toLower (c : Char) :
    c.toLower.toNat = if 0x41 ≤ c.toNat ∧ c.toNat ≤ 0x5A then c.toNat + 0x20 else c.toNat := by
  have hrange : (c.val ≥ 'A'.val ∧ c.val ≤ 'Z'.val) ↔ 0x41 ≤ c.toNat ∧ c.toNat ≤ 0x5A := by
    simp only [ge_iff_le, UInt32.le_iff_toNat_le]
    rfl
  by_cases h : c.val ≥ 'A'.val ∧ c.val ≤ 'Z'.val
  · have hrange' := hrange.1 h
    have hlower : c.toLower.val = c.val + ('a'.val - 'A'.val) := congrArg Char.val (dif_pos h)
    have hoffset : ('a'.val - 'A'.val).toNat = 0x20 := rfl
    have hval : c.val.toNat = c.toNat := rfl
    calc c.toLower.toNat = (c.val + ('a'.val - 'A'.val)).toNat := congrArg UInt32.toNat hlower
      _ = c.toNat + 0x20 := by
        rw [UInt32.toNat_add, hoffset, hval]
        omega
      _ = _ := (if_pos hrange').symm
  · have hlower : c.toLower = c := dif_neg h
    rw [if_neg (mt hrange.2 h), hlower]

/-- The case of ASCII letters is a matter of single bytes. -/
theorem encodeChar_toLower (c : Char) :
    String.utf8EncodeChar c.toLower = (String.utf8EncodeChar c).map smallLetter := by
  have hlower := toNat_toLower c
  by_cases hc : c.toNat < 0x80
  · have hbyte : (UInt8.ofNat c.toNat).toNat = c.toNat := Utf8.toNat_byte (by omega)
    have hsmall : c.toLower.toNat ≤ 0x7F := by
      rw [hlower]
      split <;> omega
    rw [Utf8.encodeChar_eq, if_pos hsmall, Utf8.encodeChar_eq, if_pos (by omega), List.map_singleton,
      List.singleton_inj, ← UInt8.toNat_inj, Utf8.toNat_byte (by omega), toNat_smallLetter, hbyte, hlower]
  · have hsame : c.toLower = c := by
      rw [← Char.toNat_inj, hlower, if_neg (by omega)]
    have hhigh : ∀ b ∈ String.utf8EncodeChar c, smallLetter b = id b := by
      intro b hb
      have := Utf8.high_of_mem_encodeChar (by omega) hb
      rw [← UInt8.toNat_inj, toNat_smallLetter, if_neg (by omega), id]
    rw [hsame, List.map_congr_left hhigh, List.map_id]

/-- Small letters have the bytes of small letters. -/
theorem encode_toLower (text : String) : Utf8.encode text.toLower = (Utf8.encode text).map smallLetter := by
  have hmap : text.toLower = text.map Char.toLower := rfl
  rw [Utf8.encode, hmap, String.toList_map, List.flatMap_map, Utf8.encode, List.map_flatMap]
  exact List.flatMap_congr fun c _ => encodeChar_toLower c

/-- Bytes that are ASCII are a text. -/
theorem exists_encode_of_ascii {bytes : Utf8.Bytes} (h : ∀ b ∈ bytes, b.toNat < 0x80) :
    ∃ text, Utf8.encode text = bytes := by
  induction bytes with
  | nil => exact ⟨"", rfl⟩
  | cons b rest ih =>
    obtain ⟨hb, hrest⟩ := List.forall_mem_cons.1 h
    obtain ⟨text, rfl⟩ := ih hrest
    refine ⟨String.ofList (Char.ofNat b.toNat :: text.toList), ?_⟩
    rw [Utf8.encode, String.toList_ofList, List.flatMap_cons, Utf8.encodeChar_one hb, List.singleton_append,
      Utf8.encode]

/-- Bytes have the small letters of an ASCII text when they are this text up to the case of its letters. -/
theorem map_smallLetter_eq_encode_iff {ext : String} (hext : ∀ c ∈ ext.toList, c.toNat < 0x80) (bytes : Utf8.Bytes) :
    bytes.map smallLetter = Utf8.encode ext ↔ ∃ text, bytes = Utf8.encode text ∧ text.toLower = ext := by
  constructor
  · intro h
    have hascii : ∀ b ∈ bytes, b.toNat < 0x80 := by
      intro b hb
      have hmem : smallLetter b ∈ Utf8.encode ext := h ▸ List.mem_map_of_mem hb
      obtain ⟨c, hc, hbyte⟩ := List.mem_flatMap.1 hmem
      have hlow := hext c hc
      rw [Utf8.encodeChar_eq, if_pos (by omega), List.mem_singleton, ← UInt8.toNat_inj, toNat_smallLetter,
        Utf8.toNat_byte (by omega)] at hbyte
      split at hbyte <;> omega
    obtain ⟨text, rfl⟩ := exists_encode_of_ascii hascii
    refine ⟨text, rfl, ?_⟩
    apply Utf8.encode_injective
    rw [encode_toLower, h]
  · rintro ⟨text, rfl, rfl⟩
    exact (encode_toLower text).symm

/-- A file has an extension, which is given in small letters, when this stands after the last dot of its name in
letters of either case, and there is a dot behind the first character. -/
theorem hasExtension_iff (p : Path) {ext : String} (hext : ∀ c ∈ ext.toList, c.toNat < 0x80) :
    p.hasExtension ext = true ↔ ∃ name, p.HasFileName name ∧
      (∃ front back, name = front ++ dot :: back ∧ front ≠ []) ∧
      ∃ stem text, name = stem ++ dot :: Utf8.encode text ∧ dot ∉ Utf8.encode text ∧ text.toLower = ext := by
  simp only [hasExtension, Option.any_eq_true, extension?_eq_some_iff, beq_iff_eq, map_smallLetter_eq_encode_iff hext]
  constructor
  · rintro ⟨_, ⟨name, hname, hdot, stem, hstem, hfree⟩, text, rfl, htext⟩
    exact ⟨name, hname, hdot, stem, text, hstem, hfree, htext⟩
  · rintro ⟨name, hname, hdot, stem, text, hstem, hfree, htext⟩
    exact ⟨_, ⟨name, hname, hdot, stem, hstem, hfree⟩, text, rfl, htext⟩

example : (ofString "conf/..ToMl/.").hasExtension "toml" = true ∧ (ofString "conf/.toml").hasExtension "toml" = false ∧
    (ofString "conf.toml/..").hasExtension "toml" = false := by decide +kernel

end AgentRelay.Path
