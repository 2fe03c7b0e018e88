import AgentRelay.CommandLine
import AgentRelay.Proofs.Split
import AgentRelay.Proofs.Utf8.Lenient
import Mathlib.Data.List.Basic

set_option autoImplicit false

/-!
# Settings on a command line

A setting is a flag, or an option with its value.  It is written in one word, the name and the value with an equals sign
between them, so that no value can be taken for something else.

Reading such a word settles the setting, or fails for what is wrong with its value (`meet_word`).  So a run over the
words of settings keeps all of them, in their order, if each is known, none is wrong, and none is given twice that may
be given only once (`readPart_words`, `readTop_words`).
-/

namespace AgentRelay.CommandLine

/-- A flag or an option, and its value.  The value of a flag is empty. -/
abbrev Setting := Slot × Utf8.Bytes

/-! ## Words of settings -/

/-- The long name of a flag or an option.  Operands have none. -/
def Slot.longName : Slot → String
  | json => "json"
  | log => "log"
  | help => "help"
  | version => "version"
  | symbol => "symbol"
  | pattern => "pattern"
  | offset => "offset"
  | superName => "super-name"
  | config => "config"
  | path | candidate | hostOptions => ""

/-- The bytes of the long name. -/
def Slot.nameBytes (s : Slot) : Utf8.Bytes := Utf8.encode s.longName

/-- The word of a setting. -/
def Setting.word (s : Setting) : Utf8.Bytes :=
  escape ++ (s.1.nameBytes ++ if s.1.isFlag then [] else equalsSign :: s.2)

theorem Slot.equalsSign_notMem_nameBytes (s : Slot) : equalsSign ∉ s.nameBytes := by cases s <;> decide +kernel

theorem Slot.nameBytes_ne_nil {s : Slot} (h : s.isFlag = true) : s.nameBytes ≠ [] := by
  cases s <;> first | decide +kernel | cases h

/-- The word of a setting looks like its name, and the value of an option is kept as it is. -/
theorem Word.ofBytes_word (s : Setting) :
    Word.ofBytes s.word = .long s.1.nameBytes (if s.1.isFlag then none else some s.2) := by
  have hfree := s.1.equalsSign_notMem_nameBytes
  have hescape : ∀ rest, CommandLine.escape.isPrefixOf (CommandLine.escape ++ rest) = true :=
    fun rest => List.isPrefixOf_iff_prefix.2 (List.prefix_append _ rest)
  have hdrop : ∀ rest, (CommandLine.escape ++ rest).drop 2 = rest := fun rest => rfl
  have hne : s.word ≠ CommandLine.escape := by
    rw [Setting.word, ne_eq, List.append_right_eq_self, List.append_eq_nil_iff]
    rintro ⟨hname, hvalue⟩
    cases hflag : s.1.isFlag with
    | true => exact Slot.nameBytes_ne_nil hflag hname
    | false => simp [hflag] at hvalue
  rw [ofBytes, if_neg hne, Setting.word, if_pos (hescape _), hdrop]
  cases s.1.isFlag with
  | true =>
    have hcut : Split.cut? [equalsSign] s.1.nameBytes = none := by
      rw [Split.cut?_eq_none_iff, List.singleton_infix_iff]
      exact hfree
    simp only [if_true, List.append_nil, hcut]
  | false => simp only [Bool.false_eq_true, if_false, Split.cut?_singleton hfree]

/-! ## What may be given where, and as what -/

namespace Slot

/-- Whether something may be given in every part. -/
def isGlobal : Slot → Bool
  | json | log => true
  | _ => false

/-- Whether every text is a right value for something. -/
def isText : Slot → Bool
  | path | config | offset => false
  | _ => true

theorem fault?_encode {t : Slot} (h : t.isText = true) (text : String) : t.fault? (Utf8.encode text) = none := by
  cases t <;> first | contradiction | simp [fault?, Utf8.decode?_encode]

end Slot

/-- The part takes the setting: it knows its name, and only an option has a value. -/
structure Part.Takes (p : Part) (s : Setting) : Prop where
  known : p.long? s.1.longName = some s.1
  ne_help : s.1 ≠ .help
  ne_version : s.1 ≠ .version
  bare : s.1.isFlag = true → s.2 = []

/-- An operand has no long name. -/
theorem Part.long?_operand {p : Part} {t : Slot} (h : p.operand? = some t) : p.long? t.longName = none := by
  cases p <;> cases h <;> decide +kernel

/-- An option is taken with every value. -/
theorem Part.takes_option {p : Part} {t : Slot} (hknown : p.long? t.longName = some t) (hflag : t.isFlag = false)
    (value : Utf8.Bytes) : p.Takes (t, value) where
  known := hknown
  ne_help := by rintro rfl; cases hflag
  ne_version := by rintro rfl; cases hflag
  bare h := absurd h (Bool.eq_false_iff.1 hflag)

/-- What is taken is no operand. -/
theorem Part.Takes.ne_operand {p : Part} {s : Setting} (h : p.Takes s) {t : Slot} (ht : p.operand? = some t) :
    s.1 ≠ t := by
  rintro rfl
  have hknown := h.known
  rw [Part.long?_operand ht] at hknown
  cases hknown

/-! ## Names of commands -/

namespace Part

/-- The name of a command. -/
def name : Part → String
  | top => ""
  | probe => "probe"
  | select => "match"
  | options => "options"

/-- The bytes of the name. -/
def nameBytes (p : Part) : Utf8.Bytes := Utf8.encode p.name

theorem ofWord?_nameBytes {p : Part} (h : p ≠ .top) : ofWord? p.nameBytes = some p := by
  cases p <;> first | decide +kernel | contradiction

theorem eq_nameBytes_of_ofWord? {p : Part} {word : Utf8.Bytes} (h : ofWord? word = some p) : word = p.nameBytes := by
  obtain ⟨text, htext, hp⟩ := Option.bind_eq_some_iff.1 h
  rw [(Utf8.decode?_eq_some_iff ..).1 htext]
  rw [ofName?] at hp
  split_ifs at hp with hprobe hselect hoptions
  all_goals
    obtain rfl := Option.some.inj hp
    subst text
    rfl

/-- The name of a command is not taken for a flag or an option, and it does not ask for help. -/
theorem head?_nameBytes (p : Part) : p.nameBytes.head? ≠ some hyphen := by cases p <;> decide +kernel

theorem nameBytes_ne_helpCommand (p : Part) : p.nameBytes ≠ helpCommand := by cases p <;> decide +kernel

end Part

/-! ## One word -/

namespace Reading

/-- Nothing is pending, and every word still counts. -/
structure Idle (r : Reading) : Prop where
  pending : r.pending = none
  escaped : r.escaped = false

/-- The reading with settings kept. -/
def keep (r : Reading) (ss : List Setting) : Reading := { r with settled := r.settled ++ ss }

theorem Idle.keep {r : Reading} (h : r.Idle) (ss : List Setting) : (r.keep ss).Idle := ⟨h.pending, h.escaped⟩

theorem Idle.start : start.Idle := ⟨rfl, rfl⟩

theorem keep_nil (r : Reading) : r.keep [] = r := by
  rw [keep, List.append_nil]

theorem keep_keep (r : Reading) (ss ss' : List Setting) : (r.keep ss).keep ss' = r.keep (ss ++ ss') := by
  simp only [keep, List.append_assoc]

theorem resolve_of_idle {r : Reading} (h : r.Idle) : r.resolve = .ok r := by
  simp only [resolve, h.pending]

theorem Idle.not_waiting {r : Reading} (h : r.Idle) : (r.escaped || r.isWaiting) = false := by
  rw [isWaiting, h.pending, h.escaped]
  rfl

/-- The word of a setting settles it. -/
theorem meet_word {r : Reading} (hr : r.Idle) {p : Part} {s : Setting} (hs : p.Takes s) :
    r.meet p s.word = r.settle s.1 s.2 := by
  have hname : (Utf8.decode? s.1.nameBytes).bind p.long? = some s.1 := by
    rw [Slot.nameBytes, Utf8.decode?_encode, Option.bind_some, hs.known]
  rw [meet, hr.escaped, if_neg Bool.false_ne_true, Word.ofBytes_word]
  simp only [meetLong, hname]
  cases hflag : s.1.isFlag with
  | true =>
    simp only [if_true, flag, resolve_of_idle hr, hs.bare hflag]
    obtain ⟨slot, value⟩ := s
    have hhelp := hs.ne_help
    have hversion := hs.ne_version
    cases slot <;> first | rfl | contradiction
  | false =>
    simp only [Bool.false_eq_true, if_false, attached, resolve_of_idle hr]
    rfl

/-! ## Keeping settings -/

/-- The values that settings give to something, in order. -/
def valuesOf (ss : List Setting) (t : Slot) : List Utf8.Bytes := (ss.filter fun s => s.1 == t).map Prod.snd

theorem values_eq (r : Reading) (t : Slot) : r.values t = valuesOf r.settled t := rfl

variable {ss ss' : List Setting} {t : Slot}

@[simp]
theorem valuesOf_append (ss ss' : List Setting) (t : Slot) :
    valuesOf (ss ++ ss') t = valuesOf ss t ++ valuesOf ss' t := by
  rw [valuesOf, List.filter_append, List.map_append]
  rfl

@[simp]
theorem valuesOf_cons (s : Setting) (ss : List Setting) (t : Slot) :
    valuesOf (s :: ss) t = if s.1 = t then s.2 :: valuesOf ss t else valuesOf ss t := by
  by_cases h : s.1 = t <;> simp [valuesOf, h]

@[simp]
theorem valuesOf_nil (t : Slot) : valuesOf [] t = [] := rfl

theorem valuesOf_eq_nil_iff : valuesOf ss t = [] ↔ ∀ s ∈ ss, s.1 ≠ t := by
  simp [valuesOf]

theorem valuesOf_eq_nil_of_isGlobal {global : Bool} (h : ∀ s ∈ ss, s.1.isGlobal = global) (ht : t.isGlobal ≠ global) :
    valuesOf ss t = [] := by
  rw [valuesOf_eq_nil_iff]
  rintro s hs rfl
  exact ht (h s hs)

/-- Values that are all given to one thing. -/
@[simp]
theorem valuesOf_map {α : Type} (xs : List α) (u : Slot) (value : α → Utf8.Bytes) :
    valuesOf (xs.map fun x => (u, value x)) t = if u = t then xs.map value else [] := by
  induction xs with
  | nil => simp
  | cons x xs ih =>
    rw [List.map_cons, valuesOf_cons, ih]
    split_ifs <;> rfl

/-- Nothing is given twice that may be given only once. -/
def Distinct (ss : List Setting) : Prop := ((ss.filter fun s => !s.1.isRepeatable).map Prod.fst).Nodup

theorem Distinct.sublist (h : ss.Sublist ss') (h' : Distinct ss') : Distinct ss :=
  List.Nodup.sublist ((h.filter _).map _) h'

theorem Distinct.perm (h : ss.Perm ss') (h' : Distinct ss') : Distinct ss :=
  (((h.filter _).map _).nodup_iff).2 h'

/-- What may be given only once has one value at most. -/
theorem Distinct.length_valuesOf_le_one (h : Distinct ss) (ht : t.isRepeatable = false) :
    (valuesOf ss t).length ≤ 1 := by
  let given := (ss.filter fun s => s.1 == t).map Prod.fst
  have hgiven : given = List.replicate (valuesOf ss t).length t := by
    refine List.eq_replicate_iff.2 ⟨by simp [given, valuesOf], fun u hu => ?_⟩
    obtain ⟨s, hs, rfl⟩ := List.mem_map.1 hu
    exact eq_of_beq (List.mem_filter.1 hs).2
  have hsublist : given.Sublist ((ss.filter fun s => !s.1.isRepeatable).map Prod.fst) := by
    refine (List.monotone_filter_right ss fun s hs => ?_).map _
    rw [eq_of_beq hs, ht]
    rfl
  exact List.nodup_replicate.1 (hgiven ▸ List.Nodup.sublist hsublist h)

/-- In which order settings stand does not matter for it. -/
theorem Distinct.valuesOf_of_perm (h : Distinct ss') (hperm : ss.Perm ss') (ht : t.isRepeatable = false) :
    valuesOf ss t = valuesOf ss' t := by
  have hvalues : (valuesOf ss t).Perm (valuesOf ss' t) := (hperm.filter _).map _
  have hlength := h.length_valuesOf_le_one ht
  match hss' : valuesOf ss' t with
  | [] => exact List.perm_nil.1 (hss' ▸ hvalues)
  | [value] => exact List.perm_singleton.1 (hss' ▸ hvalues)
  | _ :: _ :: _ => simp [hss'] at hlength

/-- What may be given only once has not been given before. -/
theorem Distinct.valuesOf_eq_nil {s : Setting} (h : Distinct (ss ++ s :: ss'))
    (hs : s.1.isRepeatable = false) : valuesOf ss s.1 = [] := by
  rw [Distinct, List.filter_append, List.filter_cons_of_pos (by rw [hs]; rfl), List.map_append, List.map_cons] at h
  obtain ⟨-, -, hdisjoint⟩ := List.nodup_append.1 h
  rw [valuesOf, List.map_eq_nil_iff, List.filter_eq_nil_iff]
  intro other hother heq
  rw [beq_iff_eq] at heq
  refine hdisjoint s.1 (List.mem_map.2 ⟨other, List.mem_filter.2 ⟨hother, ?_⟩, heq⟩) s.1 (List.mem_cons_self ..) rfl
  rw [heq, hs]
  rfl

variable {r : Reading} {s : Setting}

theorem settle_of_new (hnew : s.1.isRepeatable = false → valuesOf r.settled s.1 = []) :
    r.settle s.1 s.2 = match s.1.fault? s.2 with
      | some fault => .error fault
      | none => .ok (r.keep [s]) := by
  have hfirst : (!s.1.isRepeatable && (r.value? s.1).isSome) = false := by
    cases hrepeatable : s.1.isRepeatable with
    | true => rfl
    | false => rw [value?, values_eq, hnew hrepeatable]; rfl
  rw [settle, hfirst, if_neg Bool.false_ne_true]
  rfl

/-! ## Many words -/

/-- Over the words of settings that are right the reading keeps all of them. -/
theorem readPart_words {p : Part} {ss : List Setting} (hr : r.Idle) (hss : ∀ s ∈ ss, p.Takes s ∧ s.1.fault? s.2 = none)
    (hdistinct : Distinct (r.settled ++ ss)) (rest : List Utf8.Bytes) :
    readPart p r (ss.map Setting.word ++ rest) = readPart p (r.keep ss) rest := by
  induction ss generalizing r with
  | nil => rw [List.map_nil, List.nil_append, keep_nil]
  | cons s ss ih =>
    obtain ⟨⟨htakes, hfault⟩, hss⟩ := List.forall_mem_cons.1 hss
    have hmeet : r.meet p s.word = .ok (r.keep [s]) := by
      rw [meet_word hr htakes, settle_of_new hdistinct.valuesOf_eq_nil, hfault]
    rw [List.map_cons, List.cons_append, readPart, hmeet]
    dsimp only
    -- The setting moved from what is to come to what is settled, so together they are still distinct.
    rw [ih (hr.keep [s]) hss (by simpa [keep] using hdistinct), keep_keep, List.singleton_append]

/-- At the word of a setting that is wrong the reading fails, whatever follows. -/
theorem readPart_word_of_fault {p : Part} {fault : UsageFault} (hr : r.Idle) (hs : p.Takes s)
    (hnew : s.1.isRepeatable = false → valuesOf r.settled s.1 = []) (hfault : s.1.fault? s.2 = some fault)
    (rest : List Utf8.Bytes) : readPart p r (s.word :: rest) = .error fault := by
  rw [readPart, meet_word hr hs, settle_of_new hnew, hfault]

/-- The word of a setting is not in the place of a command: no command begins with a hyphen. -/
theorem ofWord?_word (s : Setting) : Part.ofWord? s.word = none := by
  have hhead : s.word.head? = some hyphen := rfl
  rw [← Option.not_isSome_iff_eq_none, Option.isSome_iff_exists]
  rintro ⟨p, hp⟩
  rw [Part.eq_nameBytes_of_ofWord? hp] at hhead
  exact p.head?_nameBytes hhead

theorem word_ne_helpCommand (s : Setting) : s.word ≠ helpCommand := by
  intro h
  have hhead : some hyphen = helpCommand.head? := congrArg List.head? h
  revert hhead
  decide +kernel

/-- Before the name of a command it is the same. -/
theorem readTop_words {ss : List Setting} (hr : r.Idle) (hss : ∀ s ∈ ss, Part.top.Takes s ∧ s.1.fault? s.2 = none)
    (hdistinct : Distinct (r.settled ++ ss)) (rest : List Utf8.Bytes) :
    readTop r (ss.map Setting.word ++ rest) = readTop (r.keep ss) rest := by
  induction ss generalizing r with
  | nil => rw [List.map_nil, List.nil_append, keep_nil]
  | cons s ss ih =>
    obtain ⟨⟨htakes, hfault⟩, hss⟩ := List.forall_mem_cons.1 hss
    have hmeet : r.meet .top s.word = .ok (r.keep [s]) := by
      rw [meet_word hr htakes, settle_of_new hdistinct.valuesOf_eq_nil, hfault]
    rw [List.map_cons, List.cons_append, readTop, hr.not_waiting, if_neg Bool.false_ne_true,
      if_neg (word_ne_helpCommand s), ofWord?_word, hmeet]
    dsimp only
    rw [ih (hr.keep [s]) hss (by simpa [keep] using hdistinct), keep_keep, List.singleton_append]

/-- After the name of a command only the reading of its part goes on. -/
theorem readTop_name {p : Part} (hr : r.Idle) (hp : p ≠ .top) (rest : List Utf8.Bytes) :
    readTop r (p.nameBytes :: rest) = (readPart p .start rest).map fun inner => (r, p, inner) := by
  rw [readTop, hr.not_waiting, if_neg Bool.false_ne_true, if_neg p.nameBytes_ne_helpCommand, Part.ofWord?_nameBytes hp]
  simp only [resolve_of_idle hr]
  cases readPart p .start rest <;> rfl

/-- After the escape an operand is kept, whatever it looks like. -/
theorem readPart_operand {p : Part} {t : Slot} {operand : Utf8.Bytes} (hr : r.Idle) (hoperand : r.hasOperand = false)
    (ht : p.operand? = some t) (hnew : valuesOf r.settled t = []) (hfault : t.fault? operand = none) :
    readPart p r [escape, operand] = .ok ⟨r.settled ++ [(t, operand)], none, true, true⟩ := by
  obtain ⟨settled, pending, escaped, hasOperand⟩ := r
  obtain ⟨rfl, rfl⟩ : pending = none ∧ escaped = false := ⟨hr.pending, hr.escaped⟩
  obtain rfl : hasOperand = false := hoperand
  have hescape : meet ⟨settled, none, false, false⟩ p escape = .ok ⟨settled, none, true, false⟩ := by
    rw [meet, if_neg Bool.false_ne_true]
    rfl
  have hmeet : meet ⟨settled, none, true, false⟩ p operand = .ok ⟨settled, some (t, some operand), true, true⟩ := by
    rw [meet, if_pos rfl, meetOperand, ht]
    rfl
  have hsettle : settle ⟨settled, none, true, true⟩ t operand = .ok ⟨settled ++ [(t, operand)], none, true, true⟩ := by
    have hkept := settle_of_new (r := ⟨settled, none, true, true⟩) (s := (t, operand)) fun _ => hnew
    simp only [hfault] at hkept
    exact hkept
  have hgiven : (value? ⟨settled ++ [(t, operand)], none, true, true⟩ t).isSome = true := by
    simp [value?, values]
  rw [readPart, hescape]
  dsimp only
  rw [readPart, hmeet]
  dsimp only
  rw [readPart, resolve]
  simp only [hsettle, ht, bind, Except.bind, hgiven, if_true]

end Reading

end AgentRelay.CommandLine
