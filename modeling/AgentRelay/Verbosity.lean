import AgentRelay.Regex
import AgentRelay.Text.Utf8
import AgentRelay.Trace

set_option autoImplicit false

/-!
# Verbosity

How much is logged is decided by a *filter*, a list of directives.  A directive gives a level, and it may say
for which targets, for which spans and for which fields.  Of the directives that concern an event the most
specific one decides.

The first filter that is installed stays.  Its text is the one from the environment if that is a filter at
all; else it gives the verbosity that was asked for; and if that is no level, `info`.
-/

namespace AgentRelay

/-- The rank that a word gives as a verbosity: `off`, or the rank or the name of a level. -/
def verbosityRank? (word : String) : Option MaxRank :=
  match Numeral.word? word with
  | some n => if n = 0 then some 0 else (Level.ofRank? n).map Level.rank
  | none => if word.map Char.toLower = "off" then some 0 else (Level.ofName? word).map Level.rank

/-! ## Demands -/

/-- What a directive demands: that there be a field of a name, and perhaps that it have a certain value. -/
structure Demand where
  field : String
  value : Option String
  deriving DecidableEq, Repr

/-- The demand that a text writes: the name of a field, an equals sign and a value, which ends before a second
equals sign.  A value is a number or a regular expression. -/
def Demand.parse (text : String) : Option Demand :=
  match Split.pieces ['='] text.toList with
  | [] => none
  | [name] => some ⟨String.ofList name, none⟩
  | name :: value :: _ =>
    let value := String.ofList value
    if Numeral.isReal value || Regex.accepts value then some ⟨String.ofList name, some value⟩ else none

/-! ## Directives -/

/-- One part of a filter: a rank for the targets that begin with a text, the spans of a name and the events
and spans that meet a demand.  What is not there is no restriction. -/
structure Directive where
  rank : MaxRank
  target : Option String
  span : Option String
  demand : Option Demand
  deriving DecidableEq, Repr

/-- Why a text writes no directive.  Either it is none, or one of its words would begin or end inside a character;
then the reader gives up, and the whole program with it. -/
inductive DirectiveFault where
  | malformed
  | brokenCharacter
  deriving DecidableEq, Repr

namespace Directive

/-! ### Reading

The signs of a directive are looked for in its text without the blanks at both ends, but its words are cut out
of the whole text, at the places that were counted without those blanks.  So a directive with a blank in front
of it has other words than the one without. -/

/-- How many bytes a text takes. -/
def size (cs : List Char) : Nat := (Utf8.encode (String.ofList cs)).length

/-- Some bytes as text. -/
def word (bytes : Utf8.Bytes) : Except DirectiveFault String :=
  match Utf8.decode? bytes with
  | some text => .ok text
  | none => .error .brokenCharacter

/-- The part of a text between two places. -/
def cut (text : String) (first last : Nat) : Except DirectiveFault String :=
  word (((Utf8.encode text).take last).drop first)

/-- What was read, if it is anything. -/
def required {α : Type} (read : Option α) : Except DirectiveFault α :=
  match read with
  | some a => .ok a
  | none => .error .malformed

/-- The rank that stands from a place on.  Nothing there stands for every event. -/
def rankFrom (text : String) (place : Nat) : Except DirectiveFault MaxRank := do
  let rank ← word ((Utf8.encode text).drop place)
  if rank = "" then return Level.trace.rank else required (verbosityRank? rank)

/-- The rank behind a closing bracket: none is needed. -/
def finalRank (text : String) (place : Nat) : List Char → Except DirectiveFault MaxRank
  | [] => .ok Level.trace.rank
  | c :: _ => if c = '=' then rankFrom text (place + 1) else .error .malformed

/-- Reads what follows an opening brace: a demand. -/
def parseDemand (text : String) (target span : Option String) (place : Nat) (cs : List Char) :
    Except DirectiveFault Directive :=
  let inner := cs.span (· != '\x7d')
  let brace := place + size inner.1
  match inner.2 with
  | [] => .error .malformed
  | _ :: rest => do
    let field ← cut text place brace
    let demand ← if field = "" then .error .malformed else required (Demand.parse field)
    match rest with
    | [] => .error .malformed
    | bracket :: rest =>
      if bracket = ']' then return ⟨← finalRank text (brace + 2) rest, target, span, some demand⟩
      else .error .malformed

/-- Reads what follows an opening bracket: the name of a span, and a demand between braces. -/
def parseSpan (text : String) (target : Option String) (place : Nat) (cs : List Char) :
    Except DirectiveFault Directive :=
  let parts := cs.span fun c => c != ']' && c != '\x7b'
  let close := place + size parts.1
  match parts.2 with
  | [] => .error .malformed
  | mark :: rest => do
    let name ← cut text place close
    if mark = ']' then return ⟨← finalRank text (close + 1) rest, target, some name, none⟩
    else parseDemand text target (if name = "" then none else some name) (close + 1) rest

/-- The directive of a single word: a level for all targets, or a target for all levels. -/
def ofWord (word : String) : Directive :=
  match verbosityRank? word with
  | some rank => ⟨rank, none, none, none⟩
  | none => ⟨Level.trace.rank, some word, none, none⟩

/-- Whether a target or a level may begin with a character. -/
def startsWord (c : Char) : Bool := c == '-' || c == ':' || c == '_' || isAlphanumeric c

/-- The directive that a text writes. -/
def parse (text : String) : Except DirectiveFault Directive :=
  let body := trimBlanks text.toList
  match body with
  | [] => .error .malformed
  | first :: rest =>
    if first = '[' then parseSpan text none 1 rest
    else if !startsWord first then .error .malformed
    else
      let parts := body.span fun c => c != '=' && c != '['
      let place := size parts.1
      match parts.2 with
      | [] => .ok (ofWord text)
      | mark :: rest => do
        let target ← cut text 0 place
        if mark = '=' then return ⟨← rankFrom text (place + 1), some target, none, none⟩
        else parseSpan text (some target) (place + 1) rest

/-! ### Precedence -/

/-- The field that a directive demands. -/
def field? (d : Directive) : Option String := d.demand.map Demand.field

/-- Whether a directive concerns what is outside every span: it names no span and demands no value. -/
def concernsEvents (d : Directive) : Bool := d.span.isNone && d.demand.all (·.value.isNone)

/-- Whether a directive concerns the events of a target, as far as can be said before there is an event. -/
def concernsTarget (d : Directive) (target : String) : Bool :=
  d.concernsEvents && d.target.all fun start => start.toList.isPrefixOf target.toList

/-- Whether a directive concerns an event of a target: the event has the field that is demanded. -/
def concerns (d : Directive) (target : String) : Bool :=
  d.concernsTarget target && d.field?.all Event.fields.contains

/-- How long the target of a directive is; any target is longer than none. -/
def targetLength (d : Directive) : Nat := (d.target.map fun start => start.length + 1).getD 0

/-- Whether one field gives way to another: none to any, and of two the earlier in the alphabet. -/
def fieldLe : Option String → Option String → Bool
  | none, _ => true
  | some _, none => false
  | some a, some b => a ≤ b

/-- Whether a directive gives way to another one that concerns the same target and stands behind it. -/
def givesWay (d later : Directive) : Bool :=
  d.targetLength < later.targetLength || (d.targetLength == later.targetLength && fieldLe d.field? later.field?)

end Directive

/-! ## Filters -/

/-- A filter: its directives, in order. -/
structure Filter where
  directives : List Directive
  deriving DecidableEq, Repr

namespace Filter

/-- The filter of one rank for all events. -/
def uniform (rank : MaxRank) : Filter := ⟨[⟨rank, none, none, none⟩]⟩

/-- The filter that a text writes: its directives are separated by commas.  The first one with a fault decides. -/
def parse (text : String) : Except DirectiveFault Filter :=
  let words := (Split.pieces [','] text.toList).filter (· ≠ [])
  (words.mapM fun word => Directive.parse (String.ofList word)).map Filter.mk

/-- The most specific of some directives; of equally specific ones the last. -/
def mostSpecific? (directives : List Directive) : Option Directive :=
  directives.foldl (fun chosen d => if chosen.all (·.givesWay d) then some d else chosen) none

/-- Whether the filter expects events of a level and a target, before there is one.  Without a directive that
concerns them it does not. -/
def expects (f : Filter) (level : Level) (target : String) : Bool :=
  (mostSpecific? (f.directives.filter (·.concernsTarget target))).any fun d => level.rank ≤ d.rank

/-- Whether the filter lets the events of a level and a target through. -/
def accepts (f : Filter) (level : Level) (target : String) : Bool :=
  (mostSpecific? (f.directives.filter (·.concerns target))).any fun d => level.rank ≤ d.rank

end Filter

/-! ## Installing a filter -/

/-- The text of the filter that gives one verbosity to all targets, and to the relay's own by name. -/
def filterText (level : String) : String := level ++ ",agent_bootstrap=" ++ level

/-- The filter of a text, or another if the text writes none.  There is neither if the reader gives up. -/
def Filter.parseOr (text : String) (other : Option Filter) : Option Filter :=
  match Filter.parse text with
  | .ok f => some f
  | .error .malformed => other
  | .error .brokenCharacter => none

/-- The filter for the text in the environment and for the verbosity that was asked for, unless the reader gives
up. -/
def Filter.choose (environment : Option String) (level : String) : Option Filter :=
  let asked := Filter.parseOr (filterText level) (some (uniform Level.info.rank))
  match environment with
  | some text => Filter.parseOr text asked
  | none => asked

/-- The filter of the process, once there is one. -/
structure Telemetry where
  environment : Option String
  installed : Option Filter
  deriving DecidableEq, Repr

namespace Telemetry

/-- Before a filter is installed. -/
def start (environment : Option String) : Telemetry := ⟨environment, none⟩

/-- Asks for a verbosity, and tells whether a filter was installed.  The texts are read in any case, and there is no
answer if the reader gives up. -/
def install (t : Telemetry) (level : String) : Option (Bool × Telemetry) :=
  (Filter.choose t.environment level).map fun f =>
    match t.installed with
    | some _ => (false, t)
    | none => (true, { t with installed := some f })

/-- Who hears the events: nobody before a filter is installed. -/
def subscriber (t : Telemetry) : Subscriber where
  expects level target := t.installed.any fun f => f.expects level target
  accepts level target := t.installed.any fun f => f.accepts level target
  failsOn _ := false

end Telemetry

end AgentRelay
