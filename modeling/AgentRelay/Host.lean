import AgentRelay.Launch

set_option autoImplicit false

/-!
# The boundary to the host

The host calls the relay twice: when it starts and when it ends.  At the start it hands over the bytes of an
option string, or nothing.

A subscriber of the host may fail while the relay runs.  The start is guarded against that: the host then
gets the code for success, and the failure is reported where no guard stands.
-/

namespace AgentRelay.Host

/-- The option string that the host's bytes stand for. -/
def optionText (bytes : Option Utf8.Bytes) : String :=
  match bytes with
  | some bytes => Utf8.decodeLossy bytes
  | none => ""

/-- What is reported when the start fails. -/
def failureReport : Script Int32 := do
  Script.report .error Target.host "Bootstrap panicked, continuing without the agent"
  return Launch.ok

/-- Performs a script before a subscriber.  If the subscriber fails, what was done stays done, and the
failure is reported. -/
def guarded (s : Subscriber) (script : Script Int32) : Performance Int32 :=
  let first := s.play script
  match first.answer? with
  | some _ => first
  | none =>
    let last := s.play failureReport
    ⟨first.deeds ++ last.deeds, last.answer?⟩

/-- The start.  `expects` says which events are expected of those that are only offered. -/
def start (m : Machine) (s : Subscriber) (bytes : Option Utf8.Bytes) (vm reserved : UInt64)
    (expects : Expectation := Expectation.everything) : Performance Int32 :=
  guarded s (launch m (.ofMachine m) (optionText bytes) vm reserved expects)

/-- What is done at the end: nothing is released. -/
def finish : Script Unit := Script.report .debug Target.host "Agent_OnUnload"

/-- The end. -/
def stop (s : Subscriber) : Performance Unit := s.play finish

end AgentRelay.Host
