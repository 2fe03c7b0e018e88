import AgentRelay.Host
import AgentRelay.Proofs.Options.Parse
import AgentRelay.Proofs.Utf8.Lenient

set_option autoImplicit false

/-!
# Options that are not text

The host hands over bytes, and nothing promises that they are UTF-8.  They are read leniently as a whole before they
are cut at commas and equals signs.  But the result is as if they had been cut first, and each key and each value had
been read on its own (`parse_decodeLossy`): a broken character spoils the field that it stands in, and it hides no
delimiter.

Bytes that are UTF-8 are read as their text, so that a start is a launch with this text behind the guard.  Nothing at all
is read as the empty text (`start_reads_fields`).
-/

namespace AgentRelay

namespace Options

/-! ## Entries of bytes -/

/-- The entries of bytes: their parts between commas, without the empty ones. -/
def rawEntries (bytes : Utf8.Bytes) : List Utf8.Bytes := (bytes.splitOn 0x2C).filter (· ≠ [])

/-- The pair of a raw entry: what stands before its first equals sign and what stands after it, each read on its own. -/
def rawPair (entry : Utf8.Bytes) : Pair :=
  (Utf8.decodeLossy (entry.takeWhile (· ≠ 0x3D)), Utf8.decodeLossy ((entry.dropWhile (· ≠ 0x3D)).drop 1))

theorem rawPair_append {key : Utf8.Bytes} (hkey : 0x3D ∉ key) (value : Utf8.Bytes) :
    rawPair (key ++ 0x3D :: value) = (Utf8.decodeLossy key, Utf8.decodeLossy value) := by
  have hfree : ∀ b ∈ key, decide (b ≠ 0x3D) = true := fun b hb => decide_eq_true fun h => hkey (h ▸ hb)
  rw [rawPair, List.takeWhile_append_of_pos hfree, List.dropWhile_append_of_pos hfree]
  simp

/-- The entries that are read are the raw entries, each read on its own. -/
theorem entriesOf_decodeLossy (bytes : Utf8.Bytes) :
    entriesOf comma.toList (Utf8.decodeLossy bytes).toList =
      (rawEntries bytes).map fun entry => (Utf8.decodeLossy entry).toList := by
  have hcut : (Utf8.decodeLossy bytes).toList.splitOn ',' =
      (bytes.splitOn 0x2C).map fun entry => (Utf8.decodeLossy entry).toList :=
    Utf8.splitOn_decodeLossy (by decide) bytes
  rw [entriesOf, toList_comma, Split.pieces_singleton, hcut, List.filter_map, rawEntries]
  congr 1
  apply List.filter_congr
  intro entry _
  rw [Function.comp_apply, decide_eq_decide, ne_eq, ne_eq, Utf8.toList_decodeLossy_eq_nil_iff]

/-- An entry that is read holds a pair when its bytes hold an equals sign, and then the pair of the raw entry. -/
theorem parsePair_decodeLossy (entry : Utf8.Bytes) :
    parsePair equalsSign.toList (Utf8.decodeLossy entry).toList =
      if 0x3D ∈ entry then some (rawPair entry) else none := by
  have hascii : ('=').toNat < 0x80 := by decide
  split
  · next h =>
    obtain ⟨key, value, rfl, hkey⟩ := List.eq_append_cons_of_mem h
    have hread : '=' ∉ (Utf8.decodeLossy key).toList := fun hmem =>
      hkey (Utf8.byte_mem_of_mem_decodeLossy hascii hmem)
    have hentry : (Utf8.decodeLossy (key ++ 0x3D :: value)).toList =
        (Utf8.decodeLossy key).toList ++ '=' :: (Utf8.decodeLossy value).toList :=
      Utf8.toList_decodeLossy_append hascii key value
    rw [parsePair_eq_some_iff, rawPair_append hkey, hentry]
    exact Split.cut?_singleton hread _
  · next h =>
    have hread : '=' ∉ (Utf8.decodeLossy entry).toList := fun hmem =>
      h (Utf8.byte_mem_of_mem_decodeLossy hascii hmem)
    have hcut : Split.cut? ['='] (Utf8.decodeLossy entry).toList = none := by
      rw [Split.cut?_eq_none_iff, List.singleton_infix_iff]
      exact hread
    rw [parsePair, toList_equalsSign, hcut, Option.map_none]

/-- Bytes that are read as options give the pairs of their raw entries, unless one of these holds no equals sign. -/
theorem parse_decodeLossy (bytes : Utf8.Bytes) :
    parse (Utf8.decodeLossy bytes) =
      if ∀ entry ∈ rawEntries bytes, 0x3D ∈ entry then .ok (ofPairs ((rawEntries bytes).map rawPair))
      else .error (.malformedOptions (Utf8.decodeLossy bytes)) := by
  have hread : ((rawEntries bytes).map fun entry => (Utf8.decodeLossy entry).toList).mapM
      (parsePair equalsSign.toList) =
        if ∀ entry ∈ rawEntries bytes, 0x3D ∈ entry then some ((rawEntries bytes).map rawPair) else none := by
    rw [List.mapM_map, ← mapM_ite]
    exact congrArg (fun read => List.mapM read (rawEntries bytes)) (funext parsePair_decodeLossy)
  rw [parse, parseWith_eq, entriesOf_decodeLossy, hread]
  split_ifs <;> rfl

end Options

namespace Host

/-! ## Starting with bytes -/

/-- What gets to its answer without the guard is not changed by it. -/
theorem guarded_of_answer {s : Subscriber} {script : Script Int32} {code : Int32}
    (h : (s.play script).answer? = some code) : guarded s script = s.play script := by
  simp only [guarded, h]

/-- The options of a start are those of the raw fields of its bytes, and they are malformed when a raw entry holds no
equals sign.  Bytes that are UTF-8 stand for their own text, and the start is the launch with this text behind the guard,
which does nothing if the launch gets to its answer.  No bytes stand for the empty text. -/
theorem start_reads_fields (bytes : Utf8.Bytes) :
    Options.parse (optionText (some bytes)) =
      (if ∀ entry ∈ Options.rawEntries bytes, 0x3D ∈ entry then
        .ok (.ofPairs ((Options.rawEntries bytes).map Options.rawPair))
      else .error (.malformedOptions (optionText (some bytes)))) ∧
    (∀ text, Utf8.decode? bytes = some text →
      optionText (some bytes) = text ∧ Utf8.encode text = bytes ∧
      ∀ (m : Machine) (s : Subscriber) (vm reserved : UInt64) (expects : Expectation),
        start m s (some bytes) vm reserved expects =
          guarded s (launch m (.ofMachine m) text vm reserved expects) ∧
        ∀ code, (s.play (launch m (.ofMachine m) text vm reserved expects)).answer? = some code →
          start m s (some bytes) vm reserved expects =
            s.play (launch m (.ofMachine m) text vm reserved expects)) ∧
    ∀ (m : Machine) (s : Subscriber) (vm reserved : UInt64) (expects : Expectation),
      start m s none vm reserved expects = start m s (some (Utf8.encode "")) vm reserved expects := by
  refine ⟨Options.parse_decodeLossy bytes, ?_, ?_⟩
  · intro text htext
    have hbytes : bytes = Utf8.encode text := (Utf8.decode?_eq_some_iff bytes text).1 htext
    have hread : optionText (some bytes) = text := by rw [hbytes, optionText, Utf8.decodeLossy_encode]
    refine ⟨hread, hbytes.symm, fun m s vm reserved expects => ?_⟩
    have hstart : start m s (some bytes) vm reserved expects =
        guarded s (launch m (.ofMachine m) text vm reserved expects) := by rw [start, hread]
    exact ⟨hstart, fun code hcode => hstart.trans (guarded_of_answer hcode)⟩
  · intro m s vm reserved expects
    have hnothing : optionText none = optionText (some (Utf8.encode "")) := by
      rw [optionText, optionText, Utf8.decodeLossy_encode]
    rw [start, start, hnothing]

/-- A character that is cut off before a comma, and a byte that belongs to no character before an equals sign: both
fields are read to their ends.  An umlaut is no broken character. -/
theorem start_reads_fields_truncated :
    Options.parse (optionText (some [0x61, 0x3D, 0xE2, 0x82, 0x2C, 0x62, 0xFF, 0x3D, 0x31])) =
      .ok (.ofPairs [("a", "\uFFFD"), ("b\uFFFD", "1")]) ∧
    ∀ (m : Machine) (s : Subscriber),
      start m s (some [0xC3, 0xBC, 0x3D, 0x31]) 3 4 = guarded s (launch m (.ofMachine m) "ü=1" 3 4) := by
  constructor
  · obtain ⟨hparse, _, _⟩ := start_reads_fields [0x61, 0x3D, 0xE2, 0x82, 0x2C, 0x62, 0xFF, 0x3D, 0x31]
    rw [hparse]
    decide +kernel
  · intro m s
    obtain ⟨_, htext, _⟩ := start_reads_fields [0xC3, 0xBC, 0x3D, 0x31]
    obtain ⟨_, _, hstart⟩ := htext "ü=1" (by decide +kernel)
    exact (hstart m s 3 4 Expectation.everything).1

end Host

end AgentRelay
