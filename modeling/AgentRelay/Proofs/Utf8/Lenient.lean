import AgentRelay.Proofs.Split
import AgentRelay.Proofs.Utf8

set_option autoImplicit false

/-!
# Lenient reading, piece by piece

The split into pieces loses nothing: the bytes of the pieces are the bytes that were split (`flatMap_bytes_pieces`).
So strict reading accepts the bytes of a text and no others (`decode?_eq_some_iff`), and an ASCII character that is read
stands among the bytes (`byte_mem_of_mem_decodeLossy`).

An ASCII byte is a piece of its own whatever stands before it.  A broken run ends there at the latest, also one that
more bytes could have completed (`pieces_append_ascii`).  So lenient reading commutes with cutting at an ASCII
character (`splitOn_decodeLossy`), and a broken run spoils nothing but the part it stands in.
-/

namespace AgentRelay.Utf8

/-! ## The bytes of a piece -/

/-- The bytes that a piece was read from. -/
def Piece.bytes : Piece → Bytes
  | .char c => String.utf8EncodeChar c
  | .broken bytes => bytes

theorem ofNat_eq {b : UInt8} {n : Nat} (h : n = b.toNat) : UInt8.ofNat n = b := by rw [h, UInt8.ofNat_toNat]

theorem encodeChar_one {a : UInt8} (ha : a.toNat < 0x80) : String.utf8EncodeChar (Char.ofNat a.toNat) = [a] := by
  have hn : (Char.ofNat a.toNat).toNat = a.toNat := toNat_ofNat (.inl (by omega))
  rw [encodeChar_eq, hn, if_pos (by omega), ofNat_eq rfl]

theorem encodeChar_pair {a b : UInt8} (ha : 0xC2 ≤ a.toNat) (ha' : a.toNat ≤ 0xDF) (hb : isTail b = true) :
    String.utf8EncodeChar (pair a b) = [a, b] := by
  rw [isTail_iff] at hb
  have hn : (pair a b).toNat = a.toNat % 32 * 64 + b.toNat % 64 := by
    rw [pair, payload, toNat_ofNat (.inl (by omega))]
  rw [encodeChar_eq, hn, if_neg (by omega), if_pos (by omega), tail, ofNat_eq (b := a) (by omega),
    ofNat_eq (b := b) (by omega)]

theorem encodeChar_triple {a b c : UInt8} (ha : 0xE0 ≤ a.toNat) (ha' : a.toNat ≤ 0xEF)
    (hb : isSecondOfThree a b = true) (hc : isTail c = true) :
    String.utf8EncodeChar (triple a b c) = [a, b, c] := by
  rw [isSecondOfThree_iff] at hb
  rw [isTail_iff] at hc
  have hvalid : (a.toNat % 16 * 4096 + b.toNat % 64 * 64 + c.toNat % 64).isValidChar := by
    unfold Nat.isValidChar
    omega
  have hn : (triple a b c).toNat = a.toNat % 16 * 4096 + b.toNat % 64 * 64 + c.toNat % 64 := by
    rw [triple, payload, payload, toNat_ofNat hvalid]
  rw [encodeChar_eq, hn, if_neg (by omega), if_neg (by omega), if_pos (by omega), tail, tail,
    ofNat_eq (b := a) (by omega), ofNat_eq (b := b) (by omega), ofNat_eq (b := c) (by omega)]

theorem encodeChar_quadruple {a b c d : UInt8} (ha : 0xF0 ≤ a.toNat) (ha' : a.toNat ≤ 0xF4)
    (hb : isSecondOfFour a b = true) (hc : isTail c = true) (hd : isTail d = true) :
    String.utf8EncodeChar (quadruple a b c d) = [a, b, c, d] := by
  rw [isSecondOfFour_iff] at hb
  rw [isTail_iff] at hc hd
  have hvalid : (a.toNat % 8 * 262144 + b.toNat % 64 * 4096 + c.toNat % 64 * 64 + d.toNat % 64).isValidChar := by
    unfold Nat.isValidChar
    omega
  have hn : (quadruple a b c d).toNat =
      a.toNat % 8 * 262144 + b.toNat % 64 * 4096 + c.toNat % 64 * 64 + d.toNat % 64 := by
    rw [quadruple, payload, payload, payload, toNat_ofNat hvalid]
  rw [encodeChar_eq, hn, if_neg (by omega), if_neg (by omega), if_neg (by omega), tail, tail, tail,
    ofNat_eq (b := a) (by omega), ofNat_eq (b := b) (by omega), ofNat_eq (b := c) (by omega),
    ofNat_eq (b := d) (by omega)]

/-- The first piece and what follows it are all the bytes. -/
theorem bytes_next_append (lead : UInt8) (rest : Bytes) :
    (next lead rest).1.bytes ++ (next lead rest).2 = lead :: rest := by
  have hrange : ∀ low high : UInt8, (low ≤ lead && lead ≤ high) = true →
      low.toNat ≤ lead.toNat ∧ lead.toNat ≤ high.toNat := by
    intro low high h
    simpa [UInt8.le_iff_toNat_le] using h
  fun_cases next lead rest
  -- the sequences of one, two, three and four bytes
  case case1 h => rw [Piece.bytes, encodeChar_one (UInt8.lt_iff_toNat_lt.1 h), List.singleton_append]
  case case2 hlead b _ hb =>
    obtain ⟨hlow, hhigh⟩ := hrange _ _ hlead
    exact congrArg (· ++ _) (encodeChar_pair hlow hhigh hb)
  case case5 hlead b hb c _ hc =>
    obtain ⟨hlow, hhigh⟩ := hrange _ _ hlead
    exact congrArg (· ++ _) (encodeChar_triple hlow hhigh hb hc)
  case case10 hlead b hb c hc d _ hd =>
    obtain ⟨hlow, hhigh⟩ := hrange _ _ hlead
    exact congrArg (· ++ _) (encodeChar_quadruple hlow hhigh hb hc hd)
  -- a broken run keeps the bytes that it was read from
  all_goals rfl

/-- The split into pieces loses no byte. -/
theorem flatMap_bytes_pieces (bytes : Bytes) : (pieces bytes).flatMap Piece.bytes = bytes := by
  induction hn : bytes.length using Nat.strongRecOn generalizing bytes with
  | _ n ih =>
    cases bytes with
    | nil => rw [pieces_nil, List.flatMap_nil]
    | cons lead rest =>
      have hshorter : (next lead rest).2.length < n := by
        have := next_length_le lead rest
        rw [List.length_cons] at hn
        omega
      rw [pieces_cons, List.flatMap_cons, ih _ hshorter _ rfl, bytes_next_append]

/-- Strict reading accepts the bytes of a text, and no others. -/
theorem decode?_eq_some_iff (bytes : Bytes) (text : String) : decode? bytes = some text ↔ bytes = encode text := by
  constructor
  · intro h
    obtain ⟨cs, hcs, rfl⟩ := Option.map_eq_some_iff.1 h
    calc bytes = (pieces bytes).flatMap Piece.bytes := (flatMap_bytes_pieces bytes).symm
      _ = (cs.map Piece.char).flatMap Piece.bytes := by rw [(mapM_char?_eq_some_iff ..).1 hcs]
      _ = encode (String.ofList cs) := by rw [List.flatMap_map, encode, String.toList_ofList]; rfl
  · rintro rfl
    exact decode?_encode text

/-! ## ASCII characters that are read -/

theorem toList_decodeLossy (bytes : Bytes) : (decodeLossy bytes).toList = (pieces bytes).map Piece.shown := by
  rw [decodeLossy, String.toList_ofList]

/-- Some bytes are never read as nothing. -/
theorem toList_decodeLossy_eq_nil_iff (bytes : Bytes) : (decodeLossy bytes).toList = [] ↔ bytes = [] := by
  rw [toList_decodeLossy]
  cases bytes with
  | nil => simp [pieces_nil]
  | cons lead rest => simp [pieces_cons]

variable {d : Char}

/-- An ASCII character that is read stands among the bytes: no broken run is shown as one. -/
theorem byte_mem_of_mem_decodeLossy (hd : d.toNat < 0x80) {bytes : Bytes} (h : d ∈ (decodeLossy bytes).toList) :
    UInt8.ofNat d.toNat ∈ bytes := by
  rw [toList_decodeLossy, List.mem_map] at h
  obtain ⟨p, hp, hshown⟩ := h
  rw [← flatMap_bytes_pieces bytes, List.mem_flatMap]
  refine ⟨p, hp, ?_⟩
  cases p with
  | char c => exact (ascii_mem_encodeChar hd c).2 hshown
  | broken run =>
    have hreplacement : 0x80 ≤ replacement.toNat := by decide
    rw [← hshown, Piece.shown] at hd
    omega

/-! ## An ASCII byte is a piece of its own -/

/-- An ASCII byte completes no sequence, so the first piece before it is what it would be at the end. -/
theorem next_append_ascii {b : UInt8} (hb : b.toNat < 0x80) (lead : UInt8) (rest after : Bytes) :
    next lead (rest ++ b :: after) = ((next lead rest).1, (next lead rest).2 ++ b :: after) := by
  have htail : isTail b = false := by
    rw [← Bool.not_eq_true, isTail_iff]
    omega
  have hthree : isSecondOfThree lead b = false := by
    rw [← Bool.not_eq_true, isSecondOfThree_iff]
    omega
  have hfour : isSecondOfFour lead b = false := by
    rw [← Bool.not_eq_true, isSecondOfFour_iff]
    omega
  -- no sequence is longer than four bytes
  rcases rest with _ | ⟨x, _ | ⟨y, _ | ⟨z, rest⟩⟩⟩
  all_goals
    simp only [next, List.nil_append, List.cons_append, htail, hthree, hfour, Bool.false_eq_true, if_false]
    split_ifs <;> rfl

theorem pieces_append_ascii (hd : d.toNat < 0x80) (before after : Bytes) :
    pieces (before ++ UInt8.ofNat d.toNat :: after) = pieces before ++ .char d :: pieces after := by
  have hbyte : (UInt8.ofNat d.toNat).toNat = d.toNat := toNat_byte (by omega)
  induction hn : before.length using Nat.strongRecOn generalizing before with
  | _ n ih =>
    cases before with
    | nil =>
      rw [List.nil_append, pieces_nil, List.nil_append, pieces_cons, next_one (by omega), hbyte, Char.ofNat_toNat]
    | cons lead rest =>
      have hshorter : (next lead rest).2.length < n := by
        have := next_length_le lead rest
        rw [List.length_cons] at hn
        omega
      rw [List.cons_append, pieces_cons, next_append_ascii (by omega), ih _ hshorter _ rfl, pieces_cons,
        List.cons_append]

/-- Lenient reading reads what stands before an ASCII byte and what stands after it, each on its own. -/
theorem toList_decodeLossy_append (hd : d.toNat < 0x80) (before after : Bytes) :
    (decodeLossy (before ++ UInt8.ofNat d.toNat :: after)).toList =
      (decodeLossy before).toList ++ d :: (decodeLossy after).toList := by
  rw [toList_decodeLossy, pieces_append_ascii hd, List.map_append, List.map_cons, Piece.shown, toList_decodeLossy,
    toList_decodeLossy]

/-! ## Cutting at an ASCII character -/

theorem toList_decodeLossy_intercalate (hd : d.toNat < 0x80) (parts : List Bytes) :
    (decodeLossy ([UInt8.ofNat d.toNat].intercalate parts)).toList =
      [d].intercalate (parts.map fun part => (decodeLossy part).toList) := by
  induction parts with
  | nil => rw [List.intercalate_nil, toList_decodeLossy, pieces_nil]; rfl
  | cons part rest ih =>
    by_cases hrest : rest = []
    · rw [hrest, List.map_singleton, List.intercalate_singleton, List.intercalate_singleton]
    · have hrest' : (rest.map fun part => (decodeLossy part).toList) ≠ [] := by simpa using hrest
      rw [List.intercalate_cons_of_ne_nil hrest, List.append_assoc, List.singleton_append,
        toList_decodeLossy_append hd, ih, List.map_cons, List.intercalate_cons_of_ne_nil hrest', List.append_assoc,
        List.singleton_append]

/-- What is read, cut at an ASCII character, is the bytes cut at its byte, each part read on its own. -/
theorem splitOn_decodeLossy (hd : d.toNat < 0x80) (bytes : Bytes) :
    (decodeLossy bytes).toList.splitOn d =
      (bytes.splitOn (UInt8.ofNat d.toNat)).map fun part => (decodeLossy part).toList := by
  have hfree : ∀ part ∈ (bytes.splitOn (UInt8.ofNat d.toNat)).map (fun part => (decodeLossy part).toList),
      d ∉ part := by
    intro part hpart hmem
    obtain ⟨raw, hraw, rfl⟩ := List.mem_map.1 hpart
    exact Split.notMem_of_mem_splitOn hraw (byte_mem_of_mem_decodeLossy hd hmem)
  calc (decodeLossy bytes).toList.splitOn d
      = (decodeLossy ([UInt8.ofNat d.toNat].intercalate (bytes.splitOn (UInt8.ofNat d.toNat)))).toList.splitOn d := by
        rw [List.intercalate_splitOn]
    _ = _ := by
        rw [toList_decodeLossy_intercalate hd, List.splitOn_intercalate d hfree (by simp)]

end AgentRelay.Utf8
