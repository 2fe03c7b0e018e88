import AgentRelay.Command
import AgentRelay.Number.Numeral

set_option autoImplicit false

/-!
# Command lines

A command line is a list of words: flags and options with values, the name of a command, and its operand.  A word is a
string of bytes, like a path; all but paths must be text.

    [--json] [--log LEVEL] probe PATH [--symbol NAME]
    [--json] [--log LEVEL] match NAME [-p PATTERN]... [--offset N] [--super-name NAME]
    [--json] [--log LEVEL] options TEXT [--config PATH]

The flag `--json` and the option `--log` may stand before the command and after its name; the inner one
counts.  After the word `--` every word is an operand.

A word is looked at in the order in which it stands.  The value of an option and an operand are *pending*
until the next option or operand is met, and only then *settled*, that is, checked and kept.  So of two
mistakes the one that is noticed first is reported.
-/

namespace AgentRelay.CommandLine

/-- Why a command line was not accepted.  Asking for help or for the version counts. -/
inductive UsageFault where
  | unknownArgument
  | missingArgument
  | missingValue
  | badNumber
  | notText
  | repeatedArgument
  | unknownCommand
  | unneededValue
  | missingCommand
  | nothingGiven
  | helpWanted
  | versionWanted
  deriving DecidableEq, Repr

/-! ## What may be given -/

/-- Something that can be given on a command line. -/
inductive Slot where
  | json
  | log
  | help
  | version
  | path
  | symbol
  | candidate
  | pattern
  | offset
  | superName
  | hostOptions
  | config
  deriving DecidableEq, Repr

/-- A part of a command line: what stands before the name of a command, or what follows the name of one. -/
inductive Part where
  | top
  | probe
  | select
  | options
  deriving DecidableEq, Repr

namespace Slot

/-- Whether something is a flag, which has no value. -/
def isFlag : Slot → Bool
  | json | help | version => true
  | _ => false

/-- Whether something may be given more than once. -/
def isRepeatable : Slot → Bool
  | pattern => true
  | _ => false

/-- What is wrong with a value. -/
def fault? (s : Slot) (value : Utf8.Bytes) : Option UsageFault :=
  match s with
  | path | config => if value = [] then some .missingValue else none
  | offset =>
    match Utf8.decode? value with
    | some text => if (Numeral.word? text).isSome then none else some .badNumber
    | none => some .notText
  | _ => if (Utf8.decode? value).isSome then none else some .notText

end Slot

namespace Part

/-- The commands by name. -/
def ofName? (name : String) : Option Part :=
  if name = "probe" then some probe
  else if name = "match" then some select
  else if name = "options" then some options
  else none

/-- What a long name stands for. -/
def long? (p : Part) (name : String) : Option Slot :=
  if name = "json" then some .json
  else if name = "log" then some .log
  else if name = "help" then some .help
  else
    match p with
    | top => if name = "version" then some .version else none
    | probe => if name = "symbol" then some .symbol else none
    | select =>
      if name = "pattern" then some .pattern
      else if name = "offset" then some .offset
      else if name = "super-name" then some .superName
      else none
    | options => if name = "config" then some .config else none

/-- What a letter stands for. -/
def short? (p : Part) (letter : Char) : Option Slot :=
  if letter = 'h' then some .help
  else
    match p with
    | top => if letter = 'V' then some .version else none
    | select => if letter = 'p' then some .pattern else none
    | _ => none

/-- The operand of a command. -/
def operand? : Part → Option Slot
  | top => none
  | probe => some .path
  | select => some .candidate
  | options => some .hostOptions

end Part

/-! ## Words -/

/-- The byte `-`, which begins what is no operand. -/
def hyphen : UInt8 := 0x2D

/-- The byte `=`, which separates a name from its value. -/
def equalsSign : UInt8 := 0x3D

/-- The word after which every word is an operand. -/
def escape : Utf8.Bytes := [hyphen, hyphen]

/-- The word that asks for help, in the place of a command. -/
def helpCommand : Utf8.Bytes := Utf8.encode "help"

/-- The command that a word names. -/
def Part.ofWord? (word : Utf8.Bytes) : Option Part := (Utf8.decode? word).bind Part.ofName?

/-- What a word looks like. -/
inductive Word where
  | escape
  | long (name : Utf8.Bytes) (value : Option Utf8.Bytes)
  | short (letters : Utf8.Bytes)
  | plain (bytes : Utf8.Bytes)
  deriving DecidableEq, Repr

/-- The look of a word. -/
def Word.ofBytes (word : Utf8.Bytes) : Word :=
  if word = CommandLine.escape then .escape
  else if CommandLine.escape.isPrefixOf word then
    match Split.cut? [equalsSign] (word.drop 2) with
    | some (name, value) => .long name (some value)
    | none => .long (word.drop 2) none
  else if word.head? = some hyphen ∧ word ≠ [hyphen] then .short (word.drop 1)
  else .plain word

/-! ## Reading one part -/

/-- What has been read of a part: what is settled, in order, what is pending, and whether the escape was met
and the operand was given. -/
structure Reading where
  settled : List (Slot × Utf8.Bytes)
  pending : Option (Slot × Option Utf8.Bytes)
  escaped : Bool
  hasOperand : Bool
  deriving DecidableEq, Repr

namespace Reading

/-- Nothing has been read. -/
def start : Reading := ⟨[], none, false, false⟩

/-- The values that were given for something, in order. -/
def values (r : Reading) (s : Slot) : List Utf8.Bytes :=
  (r.settled.filter fun entry => entry.1 == s).map Prod.snd

/-- The value that was given for something. -/
def value? (r : Reading) (s : Slot) : Option Utf8.Bytes := (r.values s).head?

/-- The texts that were given for something, in order. -/
def texts (r : Reading) (s : Slot) : List String := (r.values s).filterMap Utf8.decode?

/-- The text that was given for something. -/
def text? (r : Reading) (s : Slot) : Option String := (r.texts s).head?

/-- Checks a value and keeps it. -/
def settle (r : Reading) (s : Slot) (value : Utf8.Bytes) : Except UsageFault Reading :=
  if !s.isRepeatable && (r.value? s).isSome then .error .repeatedArgument
  else
    match s.fault? value with
    | some fault => .error fault
    | none => .ok { r with settled := r.settled ++ [(s, value)] }

/-- Settles what is pending. -/
def resolve (r : Reading) : Except UsageFault Reading :=
  match r.pending with
  | none => .ok r
  | some (_, none) => .error .missingValue
  | some (s, some value) => { r with pending := none }.settle s value

/-- Whether an option waits for its value. -/
def isWaiting (r : Reading) : Bool := r.pending.any fun entry => entry.2.isNone

/-- Meets a flag. -/
def flag (r : Reading) (s : Slot) : Except UsageFault Reading := do
  let r ← r.resolve
  match s with
  | .help => .error .helpWanted
  | .version => .error .versionWanted
  | _ => r.settle s []

/-- Meets an option with its value in the same word. -/
def attached (r : Reading) (s : Slot) (value : Utf8.Bytes) : Except UsageFault Reading := do
  let r ← r.resolve
  r.settle s value

/-- Meets an option whose value is the next word. -/
def opened (r : Reading) (s : Slot) : Except UsageFault Reading := do
  let r ← r.resolve
  return { r with pending := some (s, none) }

/-- Meets a word that begins with two hyphens. -/
def meetLong (r : Reading) (p : Part) (name : Utf8.Bytes) (value : Option Utf8.Bytes) : Except UsageFault Reading :=
  match (Utf8.decode? name).bind p.long? with
  | none => .error .unknownArgument
  | some s =>
    match s.isFlag, value with
    | true, none => r.flag s
    | true, some _ => .error .unneededValue
    | false, some value => r.attached s value
    | false, none => r.opened s

/-- Meets the letters of a word that begins with one hyphen.  What follows the letter of an option is its
value, after an equals sign or without one. -/
def meetShort (p : Part) (r : Reading) : Utf8.Bytes → Except UsageFault Reading
  | [] => .ok r
  | lead :: rest =>
    match _h : Utf8.next lead rest with
    | (.broken _, _) => .error .unknownArgument
    | (.char letter, after) =>
      match p.short? letter with
      | none => .error .unknownArgument
      | some s =>
        if s.isFlag then
          match r.flag s with
          | .ok r => meetShort p r after
          | .error fault => .error fault
        else
          match after with
          | [] => r.opened s
          | b :: value => r.attached s (if b = equalsSign then value else b :: value)
termination_by word => word.length
decreasing_by
  have hlength := Utf8.next_length_le lead rest
  rw [_h] at hlength
  exact Nat.lt_succ_of_le hlength

/-- Meets an operand.  Where none is expected the name of a command must stand, before the escape. -/
def meetOperand (r : Reading) (p : Part) (word : Utf8.Bytes) : Except UsageFault Reading :=
  match p.operand? with
  | none =>
    if (Part.ofWord? word).isSome || word = helpCommand then .error .unknownArgument
    else .error .unknownCommand
  | some s =>
    if r.hasOperand then .error .unknownArgument
    else r.resolve.map fun r => { r with pending := some (s, some word), hasOperand := true }

/-- Meets a word. -/
def meet (r : Reading) (p : Part) (word : Utf8.Bytes) : Except UsageFault Reading :=
  if r.escaped then r.meetOperand p word
  else
    match Word.ofBytes word with
    | .escape => .ok { r with escaped := true }
    | .long name value => r.meetLong p name value
    | .short letters => meetShort p r letters
    | .plain bytes =>
      if r.isWaiting then .ok { r with pending := r.pending.map fun entry => (entry.1, some bytes) }
      else r.meetOperand p bytes

end Reading

/-! ## Reading the whole -/

/-- Reads the words after the name of a command. -/
def readPart (p : Part) : Reading → List Utf8.Bytes → Except UsageFault Reading
  | r, [] => do
    let r ← r.resolve
    match p.operand? with
    | some s => if (r.value? s).isSome then .ok r else .error .missingArgument
    | none => .ok r
  | r, word :: rest =>
    match r.meet p word with
    | .ok r => readPart p r rest
    | .error fault => .error fault

/-- What the words after `help` ask for: nothing else, or one command. -/
def helpFor : List Utf8.Bytes → UsageFault
  | [] => .helpWanted
  | [word] => if (Part.ofWord? word).isSome || word = helpCommand then .helpWanted else .unknownCommand
  | _ => .unknownCommand

/-- Reads a command line: what stands before the name of the command, the command, and what follows it. -/
def readTop : Reading → List Utf8.Bytes → Except UsageFault (Reading × Part × Reading)
  | r, [] => do
    let r ← r.resolve
    if r.settled.isEmpty then .error .nothingGiven else .error .missingCommand
  | r, word :: rest =>
    if r.escaped || r.isWaiting then
      match r.meet .top word with
      | .ok r => readTop r rest
      | .error fault => .error fault
    else if word = helpCommand then .error (helpFor rest)
    else
      match Part.ofWord? word with
      | some p => do
        let inner ← readPart p .start rest
        let outer ← r.resolve
        return (outer, p, inner)
      | none =>
        match r.meet .top word with
        | .ok r => readTop r rest
        | .error fault => .error fault

/-! ## What is asked for -/

/-- What the user asks for, and how it is printed and logged. -/
structure Invocation where
  json : Bool
  log : Option String
  command : Command
  deriving DecidableEq, Repr

/-- The format of an invocation's output. -/
def Invocation.format (i : Invocation) : Format := if i.json then .json else .lines

/-- The command that was read. -/
def commandOf (p : Part) (r : Reading) : Option Command :=
  match p with
  | .top => none
  | .probe => (r.value? .path).map fun path => .probe ⟨path⟩ ((r.text? .symbol).getD agentSymbol)
  | .select => (r.text? .candidate).map fun candidate =>
      .select candidate (r.text? .superName) (r.texts .pattern)
        (((r.text? .offset).bind Numeral.word?).getD 0)
  | .options => (r.text? .hostOptions).map fun text => .options text ((r.value? .config).map Path.mk)

/-- The invocation that the words of a command line write. -/
def read (words : List Utf8.Bytes) : Except UsageFault Invocation := do
  let (outer, p, inner) ← readTop .start words
  match commandOf p inner with
  | some command =>
    return ⟨(outer.value? .json).isSome || (inner.value? .json).isSome,
      (inner.text? .log).or (outer.text? .log), command⟩
  | none => .error .missingArgument

/-- The invocation that a command line writes whose words are all text. -/
def parse (words : List String) : Except UsageFault Invocation := read (words.map Utf8.encode)

end AgentRelay.CommandLine
