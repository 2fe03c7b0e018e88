import AgentRelay.Number.Numeral
import AgentRelay.Text.Blank
import AgentRelay.Text.Split

set_option autoImplicit false

/-!
# Events and subscribers

What the relay reports while it works is a sequence of *events*: a level, the target that reports it and a
message.  A *subscriber* receives them.  It may be deaf to levels and to targets, and it may be faulty: it
may fail on an event instead of keeping it.

The names of the targets are part of the output, because filter directives refer to them.
-/

namespace AgentRelay

/-! ## Levels -/

/-- How serious an event is, from the most serious to the least. -/
inductive Level where
  | error
  | warn
  | info
  | debug
  | trace
  deriving DecidableEq, Repr

namespace Level

/-- The rank of a level: the greater, the less serious. -/
def rank : Level → Nat
  | error => 1
  | warn => 2
  | info => 3
  | debug => 4
  | trace => 5

/-- The levels in order of rank. -/
def all : List Level := [error, warn, info, debug, trace]

/-- The name of a level. -/
def name : Level → String
  | error => "ERROR"
  | warn => "WARN"
  | info => "INFO"
  | debug => "DEBUG"
  | trace => "TRACE"

/-- The level of a rank. -/
def ofRank? (n : Nat) : Option Level := all.find? (·.rank == n)

/-- The level of a name, up to the case of ASCII letters. -/
def ofName? (text : String) : Option Level := all.find? (·.name == text.map Char.toUpper)

/-- The level that a text denotes, by its rank or by its name, without regard to blanks around it. -/
def parse? (text : String) : Option Level :=
  let word := trim text
  match Numeral.word? word with
  | some n => ofRank? n
  | none => ofName? word

end Level

/-- The greatest rank that a filter lets through; rank 0 lets nothing through. -/
abbrev MaxRank := Nat

/-! ## Events -/

/-- One report: how serious it is, who reports it and what is said. -/
structure Event where
  level : Level
  target : String
  message : String
  deriving DecidableEq, Repr

/-- The names of the fields of every event: it has a message and nothing else. -/
def Event.fields : List String := ["message"]

/-! ### The targets that report events -/

namespace Target

/-- Reports the reading of configuration files. -/
def config : String := "agent_bootstrap::config"

/-- Reports every request to the dynamic linker. -/
def linker : String := "agent_bootstrap::loader::posix"

/-- Reports whether an agent is available. -/
def loader : String := "agent_bootstrap::loader"

/-- Reports the steps of a launch. -/
def launch : String := "agent_bootstrap::starter"

/-- Reports what happens at the boundary to the host. -/
def host : String := "agent_bootstrap::ffi"

/-- Reports on behalf of the commands. -/
def command : String := "agent_bootstrap::handlers"

/-- Reports messages whose level is known only when they are sent. -/
def logging : String := "agent_bootstrap::logging"

end Target

/-! ## Subscribers -/

/-- Which events are expected, by their levels and targets.  Whoever has an event to report may ask for that before
building its message. -/
abbrev Expectation := Level → String → Bool

/-- All events are expected. -/
def Expectation.everything : Expectation := fun _ _ => true

/-- Who receives the events: it hears those of the levels and targets that it accepts, and fails on those
that it cannot bear.  Whoever reports an event may ask beforehand whether one of a level and a target is
expected. -/
structure Subscriber where
  expects : Expectation
  accepts : Level → String → Bool
  failsOn : Event → Bool

namespace Subscriber

/-- Whether a text contains another. -/
def contains (text part : String) : Bool := (Split.cut? part.toList text.toList).isSome

/-- The subscriber with a greatest rank and a set of targets that it does not hear.  It fails on the events
whose message contains `tripwire`, if there is one. -/
def filtered (max : MaxRank) (off : List String) (tripwire : Option String) : Subscriber where
  expects level target := level.rank ≤ max && !off.contains target
  accepts level target := level.rank ≤ max && !off.contains target
  failsOn e := tripwire.any (contains e.message ·)

/-- The subscriber that hears everything and never fails. -/
def allHearing : Subscriber := filtered Level.trace.rank [] none

/-- Whether a subscriber hears an event. -/
def hears (s : Subscriber) (e : Event) : Bool := s.accepts e.level e.target

/-- How often the message of an event is built: a message that nobody expects or that nobody hears is never
built. -/
def buildsMessage (s : Subscriber) (level : Level) (target : String) : Nat :=
  if s.expects level target && s.accepts level target then 1 else 0

end Subscriber

end AgentRelay
