import AgentRelay.Library
import AgentRelay.Trace

set_option autoImplicit false

/-!
# Scripts

An operation of the relay answers with a value, and on the way it does things that others see: it reports
events, it asks for a verbosity, it requests a symbol of a library, and it calls an agent.  None of these
*deeds* influences the answer, because an agent's code is a function of what it is called with.  So an
operation is given as data, by its *script*: the deeds in the order in which they are done, and the answer.

How a script looks to a subscriber is decided afterwards.  `Subscriber.play` performs the deeds one after
the other; events that the subscriber does not hear leave no trace, and an event on which it fails ends the
performance, without an answer and without the deeds that follow.

One question is asked before: whether an event with a costly message is expected.  Such an event is not reported but
*offered*, and the script of an operation that offers events depends on what is expected.
-/

namespace AgentRelay

/-- The arguments of an agent's entry point: the bytes of its options, without the closing NUL, and the two
words that the host handed over. -/
structure Arguments where
  options : Utf8.Bytes
  vm : UInt64
  reserved : UInt64
  deriving DecidableEq, Repr

/-- The call of an agent: the library it is in, and what it is given. -/
structure Call where
  library : Library
  arguments : Arguments
  deriving DecidableEq, Repr

/-- What an operation does besides answering. -/
inductive Deed where
  | report (event : Event)
  | setVerbosity (text : String)
  | request (path : Path) (symbol : String)
  | call (call : Call)
  deriving DecidableEq, Repr

namespace Deed

/-- The event of a report. -/
def event? : Deed → Option Event
  | report e => some e
  | _ => none

/-- The text of a demand for a verbosity. -/
def verbosity? : Deed → Option String
  | setVerbosity text => some text
  | _ => none

/-- The path and the symbol of a request. -/
def request? : Deed → Option (Path × String)
  | request path symbol => some (path, symbol)
  | _ => none

/-- The call of an agent. -/
def call? : Deed → Option Call
  | call c => some c
  | _ => none

end Deed

/-! ## Scripts -/

/-- An operation as data: what it does, in order, and what it answers. -/
structure Script (α : Type) where
  deeds : List Deed
  answer : α
  deriving DecidableEq, Repr

namespace Script

variable {α β : Type}

/-- Answering at once. -/
protected def pure (a : α) : Script α := ⟨[], a⟩

/-- One script after the other. -/
protected def bind (s : Script α) (f : α → Script β) : Script β :=
  ⟨s.deeds ++ (f s.answer).deeds, (f s.answer).answer⟩

instance : Monad Script where
  pure := Script.pure
  bind := Script.bind

@[simp] theorem deeds_pure (a : α) : (pure a : Script α).deeds = [] := rfl

@[simp] theorem answer_pure (a : α) : (pure a : Script α).answer = a := rfl

@[simp] theorem deeds_bind (s : Script α) (f : α → Script β) :
    (s >>= f).deeds = s.deeds ++ (f s.answer).deeds := rfl

@[simp] theorem answer_bind (s : Script α) (f : α → Script β) :
    (s >>= f).answer = (f s.answer).answer := rfl

/-- The script of a single deed. -/
def perform (d : Deed) : Script Unit := ⟨[d], ()⟩

/-- Reports an event. -/
def report (level : Level) (target message : String) : Script Unit := perform (.report ⟨level, target, message⟩)

/-- Offers an event with a costly message: it is reported if it is expected.  Every level asks its own question and
makes its own report, because the level of a report cannot be chosen while the relay runs. -/
def offer (expects : Expectation) (level : Level) (target message : String) : Script Unit :=
  match level with
  | .error => if expects .error target then report .error target message else pure ()
  | .warn => if expects .warn target then report .warn target message else pure ()
  | .info => if expects .info target then report .info target message else pure ()
  | .debug => if expects .debug target then report .debug target message else pure ()
  | .trace => if expects .trace target then report .trace target message else pure ()

/-- Continues with the value of a success and stops at a failure. -/
def andThen {ε : Type} (s : Script (Except ε α)) (f : α → Script (Except ε β)) : Script (Except ε β) :=
  s >>= fun
    | .ok a => f a
    | .error e => pure (.error e)

/-- The events of a script. -/
def events (s : Script α) : List Event := s.deeds.filterMap Deed.event?

/-- The requests of a script. -/
def requests (s : Script α) : List (Path × String) := s.deeds.filterMap Deed.request?

/-- The calls of a script. -/
def calls (s : Script α) : List Call := s.deeds.filterMap Deed.call?

end Script

/-! ## Performances -/

/-- What is left of a script after a subscriber has received its events: the deeds that took place, of the
reports only those that were kept, and the answer unless the subscriber failed. -/
structure Performance (α : Type) where
  deeds : List Deed
  answer? : Option α
  deriving DecidableEq, Repr

namespace Performance

variable {α : Type}

/-- The events that were kept. -/
def events (p : Performance α) : List Event := p.deeds.filterMap Deed.event?

/-- The requests that were made. -/
def requests (p : Performance α) : List (Path × String) := p.deeds.filterMap Deed.request?

/-- The calls that took place. -/
def calls (p : Performance α) : List Call := p.deeds.filterMap Deed.call?

end Performance

namespace Subscriber

variable {α : Type}

/-- What took place, with one more deed in front. -/
def preceded (d : Deed) (rest : List Deed × Bool) : List Deed × Bool := (d :: rest.1, rest.2)

/-- The deeds that take place before the subscriber fails, and whether it gets through. -/
def performed (s : Subscriber) : List Deed → List Deed × Bool
  | [] => ([], true)
  | .report e :: rest =>
    if s.hears e then
      if s.failsOn e then ([], false) else preceded (.report e) (performed s rest)
    else performed s rest
  | d :: rest => preceded d (performed s rest)

/-- Performs a script before a subscriber. -/
def play (s : Subscriber) (script : Script α) : Performance α :=
  let done := s.performed script.deeds
  ⟨done.1, if done.2 then some script.answer else none⟩

/-- The subscriber does not fail on anything that it hears. -/
def NeverFails (s : Subscriber) : Prop := ∀ e : Event, s.hears e = true → s.failsOn e = false

/-- A subscriber that never fails hears a script to its end. -/
theorem performed_of_neverFails {s : Subscriber} (h : s.NeverFails) (ds : List Deed) :
    s.performed ds = (ds.filter fun d => d.event?.all s.hears, true) := by
  induction ds with
  | nil => rfl
  | cons d rest ih =>
    cases d with
    | report e =>
      by_cases hh : s.hears e = true
      · simp [performed, preceded, hh, h e hh, ih, Deed.event?]
      · simp [performed, hh, ih, Deed.event?]
    | setVerbosity t => simp [performed, preceded, ih, Deed.event?]
    | request p y => simp [performed, preceded, ih, Deed.event?]
    | call c => simp [performed, preceded, ih, Deed.event?]

end Subscriber

end AgentRelay
