import AgentRelay.Proofs.CommandLine.Settings
import AgentRelay.Proofs.Numeral

set_option autoImplicit false

/-!
# Every invocation can be written on a command line

An invocation has settings, and its command has an operand.  `Arrangement` is the freedom in which they can be written:
the settings in any order in which the patterns follow each other as they should, those that may stand in every part
before or after the name of the command, and the operand after the escape at the end.

Every such line is read as the invocation, whatever its texts and the bytes of its paths are; and it is refused as soon
as its offset is replaced by the digits of a number that is no word (`read_words`).
-/

namespace AgentRelay

open CommandLine (Setting Slot Part)

/-! ## What an invocation consists of -/

namespace Command

/-- The part of the command line that belongs to a command. -/
def part : Command → Part
  | probe _ _ => .probe
  | select _ _ _ _ => .select
  | options _ _ => .options

/-- The operand of a command. -/
def operand : Command → Setting
  | probe path _ => (.path, path.bytes)
  | select candidate _ _ _ => (.candidate, Utf8.encode candidate)
  | options text _ => (.hostOptions, Utf8.encode text)

/-- The settings of a command. -/
def settings : Command → List Setting
  | probe _ symbol => [(.symbol, Utf8.encode symbol)]
  | select _ superName patterns offset =>
    patterns.map (fun raw => (.pattern, Utf8.encode raw)) ++
      (.offset, Utf8.encode (Numeral.decimal offset)) :: superName.toList.map fun name => (.superName, Utf8.encode name)
  | options _ config => config.toList.map fun path => (.config, path.bytes)

/-- A command that can be given: its paths are not empty, and its offset is a word. -/
def Expressible : Command → Prop
  | probe path _ => path.bytes ≠ []
  | select _ _ _ offset => offset < Numeral.wordLimit
  | options _ config => ∀ path ∈ config, path.bytes ≠ []

end Command

namespace CommandLine

namespace Invocation

/-- The settings that may stand in every part. -/
def globals (i : Invocation) : List Setting :=
  (if i.json then [(.json, [])] else []) ++ i.log.toList.map fun level => (.log, Utf8.encode level)

/-- All settings. -/
def settings (i : Invocation) : List Setting := i.globals ++ i.command.settings

end Invocation

/-- An order in which the settings of an invocation are written before and after the name of the command. -/
structure Arrangement (i : Invocation) where
  before : List Setting
  after : List Setting
  perm : (before ++ after).Perm i.settings
  patterns : Reading.valuesOf (before ++ after) .pattern = Reading.valuesOf i.settings .pattern
  globals : ∀ s ∈ before, s.1.isGlobal = true

/-- The words of settings, of the name of a command between them, and of its operand. -/
def wordsOf (c : Command) (before after : List Setting) : List Utf8.Bytes :=
  before.map Setting.word ++ c.part.nameBytes :: (after.map Setting.word ++ [escape, c.operand.2])

/-- The words of an arrangement. -/
def Arrangement.words {i : Invocation} (a : Arrangement i) : List Utf8.Bytes := wordsOf i.command a.before a.after

/-- The setting with another numeral, if it is an offset. -/
def Setting.renumbered (numeral : Utf8.Bytes) (s : Setting) : Setting := if s.1 = .offset then (.offset, numeral) else s

end CommandLine

/-! ## Its settings are right -/

namespace Command

variable {c : Command} {s : Setting}

theorem operand?_part (c : Command) : c.part.operand? = some c.operand.1 := by cases c <;> rfl

theorem part_ne_top (c : Command) : c.part ≠ .top := by cases c <;> nofun

theorem isGlobal_operand (c : Command) : c.operand.1.isGlobal = false := by cases c <;> rfl

/-- A command's operand is right. -/
theorem fault?_operand (h : c.Expressible) : c.operand.1.fault? c.operand.2 = none := by
  cases c with
  | probe path symbol => exact if_neg h
  | select candidate superName patterns offset => exact Slot.fault?_encode (t := .candidate) rfl candidate
  | options text config => exact Slot.fault?_encode (t := .hostOptions) rfl text

/-- A command's settings belong to its part. -/
theorem takes_of_mem_settings (hs : s ∈ c.settings) : c.part.Takes s ∧ s.1.isGlobal = false := by
  cases c with
  | probe path symbol =>
    obtain rfl := List.mem_singleton.1 hs
    exact ⟨Part.takes_option (p := .probe) (t := .symbol) (by decide +kernel) rfl _, rfl⟩
  | select candidate superName patterns offset =>
    simp only [settings, List.mem_append, List.mem_cons, List.mem_map] at hs
    obtain ⟨raw, -, rfl⟩ | rfl | ⟨name, -, rfl⟩ := hs
    · exact ⟨Part.takes_option (p := .select) (t := .pattern) (by decide +kernel) rfl _, rfl⟩
    · exact ⟨Part.takes_option (p := .select) (t := .offset) (by decide +kernel) rfl _, rfl⟩
    · exact ⟨Part.takes_option (p := .select) (t := .superName) (by decide +kernel) rfl _, rfl⟩
  | options text config =>
    obtain ⟨path, -, rfl⟩ := List.mem_map.1 hs
    exact ⟨Part.takes_option (p := .options) (t := .config) (by decide +kernel) rfl _, rfl⟩

/-- A command's settings are right. -/
theorem fault?_of_mem_settings (h : c.Expressible) (hs : s ∈ c.settings) : s.1.fault? s.2 = none := by
  cases c with
  | probe path symbol =>
    obtain rfl := List.mem_singleton.1 hs
    exact Slot.fault?_encode (t := .symbol) rfl symbol
  | select candidate superName patterns offset =>
    simp only [settings, List.mem_append, List.mem_cons, List.mem_map] at hs
    obtain ⟨raw, -, rfl⟩ | rfl | ⟨name, -, rfl⟩ := hs
    · exact Slot.fault?_encode (t := .pattern) rfl raw
    · simp [Slot.fault?, Utf8.decode?_encode, Numeral.word?_decimal h]
    · exact Slot.fault?_encode (t := .superName) rfl name
  | options text config =>
    obtain ⟨path, hpath, rfl⟩ := List.mem_map.1 hs
    exact if_neg (h path (Option.mem_toList.1 hpath))

end Command

namespace CommandLine

namespace Invocation

variable {i : Invocation} {s : Setting}

/-- What may stand in every part is taken by every part, and its value is right. -/
theorem takes_of_mem_globals (hs : s ∈ i.globals) (p : Part) :
    p.Takes s ∧ s.1.fault? s.2 = none ∧ s.1.isGlobal = true := by
  obtain hjson | hlog := List.mem_append.1 hs
  · obtain rfl : s = (.json, []) := by
      split at hjson
      · exact List.mem_singleton.1 hjson
      · cases hjson
    exact ⟨⟨by cases p <;> decide +kernel, nofun, nofun, fun _ => rfl⟩, by decide +kernel, rfl⟩
  · obtain ⟨level, -, rfl⟩ := List.mem_map.1 hlog
    exact ⟨Part.takes_option (t := .log) (by cases p <;> decide +kernel) rfl _, Slot.fault?_encode (t := .log) rfl level,
      rfl⟩

/-- Every setting belongs to the command's part, and its value is right. -/
theorem takes_of_mem_settings (h : i.command.Expressible) (hs : s ∈ i.settings) :
    i.command.part.Takes s ∧ s.1.fault? s.2 = none := by
  obtain hs | hs := List.mem_append.1 hs
  · obtain ⟨htakes, hfault, -⟩ := takes_of_mem_globals hs i.command.part
    exact ⟨htakes, hfault⟩
  · exact ⟨(Command.takes_of_mem_settings hs).1, Command.fault?_of_mem_settings h hs⟩

/-- A setting that may stand in every part is none of the command. -/
theorem mem_globals_of_isGlobal (hs : s ∈ i.settings) (hglobal : s.1.isGlobal = true) : s ∈ i.globals := by
  obtain hs | hs := List.mem_append.1 hs
  · exact hs
  · rw [(Command.takes_of_mem_settings hs).2] at hglobal
    cases hglobal

/-- Nothing but patterns is set twice. -/
theorem distinct_settings (i : Invocation) : Reading.Distinct i.settings := by
  obtain ⟨json, log, c⟩ := i
  rcases c with ⟨path, symbol⟩ | ⟨candidate, superName, patterns, offset⟩ | ⟨text, config⟩
  · cases json <;> cases log <;> simp [Reading.Distinct, settings, globals, Command.settings, Slot.isRepeatable]
  · cases json <;> cases log <;> cases superName <;>
      simp [Reading.Distinct, settings, globals, Command.settings, Slot.isRepeatable, List.filter_map,
        Function.comp_def]
  · cases json <;> cases log <;> cases config <;>
      simp [Reading.Distinct, settings, globals, Command.settings, Slot.isRepeatable]

end Invocation

namespace Arrangement

variable {i : Invocation} (a : Arrangement i) {s : Setting}

theorem mem_settings_of_mem_before (hs : s ∈ a.before) : s ∈ i.settings :=
  a.perm.mem_iff.1 (List.mem_append_left _ hs)

theorem mem_settings_of_mem_after (hs : s ∈ a.after) : s ∈ i.settings :=
  a.perm.mem_iff.1 (List.mem_append_right _ hs)

theorem distinct_before : Reading.Distinct a.before :=
  .sublist (List.sublist_append_left _ _) (.perm a.perm i.distinct_settings)

theorem distinct_after : Reading.Distinct a.after :=
  .sublist (List.sublist_append_right _ _) (.perm a.perm i.distinct_settings)

/-- What stands before the name of the command is taken there, and its value is right. -/
theorem takes_before (hs : s ∈ a.before) : Part.top.Takes s ∧ s.1.fault? s.2 = none := by
  have hmem := Invocation.mem_globals_of_isGlobal (a.mem_settings_of_mem_before hs) (a.globals s hs)
  obtain ⟨htakes, hfault, -⟩ := Invocation.takes_of_mem_globals hmem .top
  exact ⟨htakes, hfault⟩

/-- What stands after it is taken by the command's part, and its value is right. -/
theorem takes_after (h : i.command.Expressible) (hs : s ∈ a.after) :
    i.command.part.Takes s ∧ s.1.fault? s.2 = none :=
  Invocation.takes_of_mem_settings h (a.mem_settings_of_mem_after hs)

/-! ## What is kept of them -/

/-- The values are those of the settings, in the right order where something has several. -/
theorem valuesOf_eq (t : Slot) :
    Reading.valuesOf a.before t ++ Reading.valuesOf a.after t =
      Reading.valuesOf i.globals t ++ Reading.valuesOf i.command.settings t := by
  rw [← Reading.valuesOf_append, ← Reading.valuesOf_append]
  cases ht : t.isRepeatable with
  | false => exact i.distinct_settings.valuesOf_of_perm a.perm ht
  | true =>
    obtain rfl : t = .pattern := by cases t <;> first | rfl | contradiction
    exact a.patterns

/-- What may stand in every part is not set by the command. -/
theorem valuesOf_of_isGlobal {t : Slot} (ht : t.isGlobal = true) :
    Reading.valuesOf a.before t ++ Reading.valuesOf a.after t = Reading.valuesOf i.globals t := by
  have hnone : Reading.valuesOf i.command.settings t = [] :=
    Reading.valuesOf_eq_nil_of_isGlobal (fun s hs => (Command.takes_of_mem_settings hs).2) (by simp [ht])
  rw [a.valuesOf_eq, hnone, List.append_nil]

/-- Nothing else stands before the name of the command. -/
theorem valuesOf_before {t : Slot} (ht : t.isGlobal = false) : Reading.valuesOf a.before t = [] :=
  Reading.valuesOf_eq_nil_of_isGlobal a.globals (Bool.eq_false_iff.1 ht)

/-- All other things are set by the command. -/
theorem valuesOf_after {t : Slot} (ht : t.isGlobal = false) :
    Reading.valuesOf a.after t = Reading.valuesOf i.command.settings t := by
  have hglobals : Reading.valuesOf i.globals t = [] :=
    Reading.valuesOf_eq_nil_of_isGlobal (fun s hs => (Invocation.takes_of_mem_globals hs .top).2.2)
      (Bool.eq_false_iff.1 ht)
  have hvalues := a.valuesOf_eq t
  rwa [a.valuesOf_before ht, hglobals, List.nil_append, List.nil_append] at hvalues

end Arrangement

/-- The values of a command's settings and operand give the command. -/
theorem commandOf_of_values {c : Command} (h : c.Expressible) {r : Reading}
    (hvalues : ∀ t : Slot, t.isGlobal = false → r.values t = Reading.valuesOf (c.settings ++ [c.operand]) t) :
    commandOf c.part r = some c := by
  cases c with
  | probe path symbol =>
    have hpath : r.values .path = [path.bytes] := by simp [hvalues .path rfl, Command.settings, Command.operand]
    have hsymbol : r.values .symbol = [Utf8.encode symbol] := by
      simp [hvalues .symbol rfl, Command.settings, Command.operand]
    simp [Command.part, commandOf, Reading.value?, Reading.text?, Reading.texts, hpath, hsymbol, Utf8.decode?_encode]
  | select candidate superName patterns offset =>
    have hcandidate : r.values .candidate = [Utf8.encode candidate] := by
      simp [hvalues .candidate rfl, Command.settings, Command.operand]
    have hpatterns : r.values .pattern = patterns.map Utf8.encode := by
      simp [hvalues .pattern rfl, Command.settings, Command.operand]
    have hoffset : r.values .offset = [Utf8.encode (Numeral.decimal offset)] := by
      simp [hvalues .offset rfl, Command.settings, Command.operand]
    have hname : r.values .superName = superName.toList.map Utf8.encode := by
      simp [hvalues .superName rfl, Command.settings, Command.operand]
    simp [Command.part, commandOf, Reading.text?, Reading.texts, hcandidate, hpatterns, hoffset, hname,
      Utf8.decode?_encode, Numeral.word?_decimal h]
  | options text config =>
    have htext : r.values .hostOptions = [Utf8.encode text] := by
      simp [hvalues .hostOptions rfl, Command.settings, Command.operand]
    have hconfig : r.values .config = config.toList.map Path.bytes := by
      simp [hvalues .config rfl, Command.settings, Command.operand]
    cases config <;>
      simp [Command.part, commandOf, Reading.value?, Reading.text?, Reading.texts, htext, hconfig, Utf8.decode?_encode]

/-! ## What is read -/

namespace Arrangement

variable {i : Invocation} (a : Arrangement i)

/-- An order that always can be written: what may stand in every part, and then the settings of the command. -/
def plain (i : Invocation) : Arrangement i where
  before := i.globals
  after := i.command.settings
  perm := .refl _
  patterns := rfl
  globals _ hs := (Invocation.takes_of_mem_globals hs .top).2.2

/-- The settings before the name of the command are kept, and what follows the name is read on its own. -/
theorem readTop_wordsOf (after : List Setting) :
    readTop .start (wordsOf i.command a.before after) =
      (readPart i.command.part .start (after.map Setting.word ++ [escape, i.command.operand.2])).map fun inner =>
        (Reading.start.keep a.before, i.command.part, inner) := by
  rw [wordsOf, Reading.readTop_words .start (fun _ => a.takes_before) a.distinct_before,
    Reading.readTop_name (.keep .start _) i.command.part_ne_top]

/-- The settings after it are kept, and the operand. -/
theorem readPart_after (h : i.command.Expressible) :
    readPart i.command.part .start (a.after.map Setting.word ++ [escape, i.command.operand.2]) =
      .ok ⟨a.after ++ [i.command.operand], none, true, true⟩ := by
  have hnew : Reading.valuesOf a.after i.command.operand.1 = [] :=
    Reading.valuesOf_eq_nil_iff.2 fun s hs => (a.takes_after h hs).1.ne_operand i.command.operand?_part
  rw [Reading.readPart_words .start (fun _ => a.takes_after h) a.distinct_after]
  exact Reading.readPart_operand (.keep .start _) rfl i.command.operand?_part hnew (Command.fault?_operand h)

/-- The readings of both parts together have what may stand in every part. -/
theorem values_of_isGlobal {t : Slot} (ht : t.isGlobal = true) :
    (Reading.start.keep a.before).values t ++
        Reading.values ⟨a.after ++ [i.command.operand], none, true, true⟩ t = Reading.valuesOf i.globals t := by
  have hoperand : Reading.valuesOf [i.command.operand] t = [] :=
    Reading.valuesOf_eq_nil_of_isGlobal (List.forall_mem_singleton.2 i.command.isGlobal_operand) (by simp [ht])
  rw [Reading.values_eq, Reading.values_eq, Reading.valuesOf_append, hoperand, List.append_nil]
  exact a.valuesOf_of_isGlobal ht

end Arrangement

/-- Of two lists that hold one thing at most together, the second or else the first has it. -/
theorem head?_or_head?_of_append {α : Type} {xs ys : List α} {x? : Option α} (h : xs ++ ys = x?.toList) :
    ys.head?.or xs.head? = x? := by
  cases x? with
  | none =>
    obtain ⟨rfl, rfl⟩ := List.append_eq_nil_iff.1 h
    rfl
  | some x =>
    obtain ⟨rfl, rfl⟩ | ⟨rfl, rfl⟩ := List.append_eq_singleton_iff.1 h <;> rfl

variable {i : Invocation}

/-- Every arrangement is read as its invocation. -/
theorem read_arrangement (h : i.command.Expressible) (a : Arrangement i) : read a.words = .ok i := by
  let outer := Reading.start.keep a.before
  let inner : Reading := ⟨a.after ++ [i.command.operand], none, true, true⟩
  have htop : readTop .start a.words = .ok (outer, i.command.part, inner) := by
    rw [Arrangement.words, a.readTop_wordsOf, a.readPart_after h]
    rfl
  have hcommand : commandOf i.command.part inner = some i.command := by
    refine commandOf_of_values h fun t ht => ?_
    rw [Reading.values_eq, Reading.valuesOf_append, Reading.valuesOf_append, a.valuesOf_after ht]
  have hjson : ((outer.value? .json).isSome || (inner.value? .json).isSome) = i.json := by
    rw [Reading.value?, Reading.value?, ← Option.isSome_or, ← List.head?_append, a.values_of_isGlobal rfl]
    cases hjson : i.json <;> simp [Invocation.globals, hjson]
  have hlog : (inner.text? .log).or (outer.text? .log) = i.log := by
    refine head?_or_head?_of_append ?_
    rw [Reading.texts, Reading.texts, ← List.filterMap_append, a.values_of_isGlobal rfl]
    cases hjson : i.json <;> simp [Invocation.globals, hjson, Utf8.decode?_encode]
  rw [read, htop]
  simp only [bind, Except.bind, hcommand, hjson, hlog]
  rfl

/-! ## Offsets that are too large -/

/-- Where there is no offset nothing is renumbered. -/
theorem map_renumbered {ss : List Setting} (h : Reading.valuesOf ss .offset = []) (numeral : Utf8.Bytes) :
    ss.map (Setting.renumbered numeral) = ss :=
  (List.map_congr_left (g := id) fun s hs => if_neg (Reading.valuesOf_eq_nil_iff.1 h s hs)).trans (List.map_id ss)

/-- A selection's offset stands after the name of the command. -/
theorem Arrangement.exists_offset (a : Arrangement i) (h : i.command.part = .select) :
    ∃ s ∈ a.after, s.1 = .offset := by
  obtain ⟨s, hs, hoffset⟩ : ∃ s ∈ i.command.settings, s.1 = .offset := by
    generalize i.command = c at h
    cases c with
    | select candidate superName patterns offset =>
      exact ⟨_, List.mem_append_right _ (List.mem_cons_self ..), rfl⟩
    | probe | options => cases h
  refine ⟨s, ?_, hoffset⟩
  obtain hbefore | hafter := List.mem_append.1 (a.perm.mem_iff.2 (List.mem_append_right i.globals hs))
  · exact absurd hoffset (Reading.valuesOf_eq_nil_iff.1 (a.valuesOf_before rfl) s hbefore)
  · exact hafter

/-- With the numeral of a larger number for its offset no arrangement of a selection is read. -/
theorem read_renumbered (h : i.command.Expressible) (a : Arrangement i) (hselect : i.command.part = .select)
    {numeral : String} (hdigits : numeral.toList.all Char.isDigit = true)
    (hlarge : Numeral.wordLimit ≤ Numeral.value numeral.toList) :
    read (wordsOf i.command (a.before.map (Setting.renumbered (Utf8.encode numeral)))
      (a.after.map (Setting.renumbered (Utf8.encode numeral)))) = .error .badNumber := by
  have hbefore : a.before.map (Setting.renumbered (Utf8.encode numeral)) = a.before :=
    map_renumbered (a.valuesOf_before rfl) _
  obtain ⟨⟨t, value⟩, hmem, rfl : t = .offset⟩ := a.exists_offset hselect
  obtain ⟨ss, ss', hafter⟩ := List.append_of_mem hmem
  have hdistinct : Reading.Distinct (ss ++ (.offset, value) :: ss') := hafter ▸ a.distinct_after
  have hnew : Reading.valuesOf ss .offset = [] := hdistinct.valuesOf_eq_nil rfl
  have hsplit : a.after.map (Setting.renumbered (Utf8.encode numeral)) =
      ss ++ (.offset, Utf8.encode numeral) :: ss'.map (Setting.renumbered (Utf8.encode numeral)) := by
    rw [hafter, List.map_append, List.map_cons, map_renumbered hnew]
    rfl
  have hfault : Slot.offset.fault? (Utf8.encode numeral) = some .badNumber := by
    simp [Slot.fault?, Utf8.decode?_encode, Numeral.word?_of_large hdigits hlarge]
  have htakes : i.command.part.Takes (.offset, Utf8.encode numeral) := by
    rw [hselect]
    exact Part.takes_option (by decide +kernel) rfl _
  -- Up to the offset the line is that of the arrangement.
  have hinner : readPart i.command.part .start
      ((a.after.map (Setting.renumbered (Utf8.encode numeral))).map Setting.word ++ [escape, i.command.operand.2]) =
        .error .badNumber := by
    rw [hsplit, List.map_append, List.append_assoc,
      Reading.readPart_words .start (fun s hs => a.takes_after h (hafter ▸ List.mem_append_left _ hs))
        (.sublist (List.sublist_append_left _ _) hdistinct)]
    exact Reading.readPart_word_of_fault (.keep .start _) htakes (fun _ => hnew) hfault _
  rw [hbefore, read, a.readTop_wordsOf, hinner]
  rfl

/-- An invocation whose paths are not empty and whose offset is a word can be written on a command line, and every
such line is read as the invocation.  If it is a selection, none is read whose offset is replaced by the digits of
a number that is no word. -/
theorem read_words (h : i.command.Expressible) :
    Nonempty (Arrangement i) ∧ ∀ a : Arrangement i, read a.words = .ok i ∧
      (i.command.part = .select → ∀ numeral : String, numeral.toList.all Char.isDigit = true →
        Numeral.wordLimit ≤ Numeral.value numeral.toList →
          read (wordsOf i.command (a.before.map (Setting.renumbered (Utf8.encode numeral)))
            (a.after.map (Setting.renumbered (Utf8.encode numeral)))) = .error .badNumber) :=
  ⟨⟨.plain i⟩, fun a => ⟨read_arrangement h a, fun hselect _ hdigits hlarge =>
    read_renumbered h a hselect hdigits hlarge⟩⟩

/-- Values that look like flags and patterns that are scattered among the other options. -/
theorem read_words_scattered :
    18446744073709551615 < Numeral.wordLimit ∧
      parse ["--json", "match", "--pattern=", "--super-name==", "--pattern=!a=b", "--log=",
        "--offset=18446744073709551615", "--pattern=-p", "--", "--"] =
          .ok ⟨true, some "", .select "--" (some "=") ["", "!a=b", "-p"] 18446744073709551615⟩ ∧
      parse ["--json", "match", "--pattern=", "--super-name==", "--pattern=!a=b", "--log=",
        "--offset=018446744073709551616", "--pattern=-p", "--", "--"] = .error .badNumber := by
  have hword : 18446744073709551615 < Numeral.wordLimit := by decide
  let i : Invocation := ⟨true, some "", .select "--" (some "=") ["", "!a=b", "-p"] 18446744073709551615⟩
  let a : Arrangement i := {
    before := [(.json, [])]
    after := [(.pattern, []), (.superName, Utf8.encode "="), (.pattern, Utf8.encode "!a=b"), (.log, []),
      (.offset, Utf8.encode "18446744073709551615"), (.pattern, Utf8.encode "-p")]
    perm := by decide +kernel
    patterns := by decide +kernel
    globals := by decide +kernel }
  obtain ⟨hread, hlarge⟩ := (read_words (i := i) hword).2 a
  exact ⟨hword, hread, hlarge rfl "018446744073709551616" (by decide +kernel) (by decide +kernel)⟩

end CommandLine

end AgentRelay
