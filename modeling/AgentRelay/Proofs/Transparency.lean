import AgentRelay.Proofs.Host.Guard
import AgentRelay.Report

set_option autoImplicit false

/-!
# Reporting is transparent

An operation learns one thing from its subscriber: before it builds a costly message, it asks whether the event is
expected, and if not it goes on without it.  A subscriber that expects whatever it hears loses nothing by that.  It
cannot tell the operation from the one that asks nobody (`Alike`), because what is left out would not have been heard.

All filters by levels and targets are such subscribers.  So they decide which events are kept and nothing else: not the
answer of an operation, not what is requested, not what is called (`perform_transparent`).
-/

namespace AgentRelay

namespace Subscriber

variable {α β : Type} {s : Subscriber}

/-! ## Subscribers that expect what they hear -/

/-- The subscriber expects whatever it hears. -/
def Candid (s : Subscriber) : Prop := ∀ level target, s.accepts level target = true → s.expects level target = true

/-- A filter by levels and targets expects precisely what it hears, whatever it fails on. -/
theorem candid_filtered (max : MaxRank) (off : List String) (tripwire : Option String) :
    (filtered max off tripwire).Candid := fun _ _ h => h

theorem neverFails_filtered (max : MaxRank) (off : List String) : (filtered max off none).NeverFails :=
  fun _ _ => rfl

/-! ## Scripts that look alike -/

/-- To the subscriber two scripts look alike: they have the same answer, and of their deeds the same leave a trace. -/
structure Alike (s : Subscriber) (script script' : Script α) : Prop where
  deeds : script.deeds.filter s.keeps = script'.deeds.filter s.keeps
  answer : script.answer = script'.answer

namespace Alike

theorem refl (s : Subscriber) (script : Script α) : s.Alike script script := ⟨rfl, rfl⟩

/-- Scripts in sequence look alike when their parts do. -/
theorem bind {script script' : Script α} {f f' : α → Script β} (h : s.Alike script script')
    (hf : ∀ a, s.Alike (f a) (f' a)) : s.Alike (script >>= f) (script' >>= f') := by
  constructor
  · rw [Script.deeds_bind, Script.deeds_bind, List.filter_append, List.filter_append, h.deeds, h.answer,
      (hf script'.answer).deeds]
  · rw [Script.answer_bind, Script.answer_bind, h.answer, (hf script'.answer).answer]

end Alike

/-- Deeds that leave no trace do not change a performance. -/
theorem performed_filter_keeps (s : Subscriber) (ds : List Deed) : s.performed (ds.filter s.keeps) = s.performed ds := by
  induction ds with
  | nil => rfl
  | cons d rest ih =>
    cases d with
    | report e =>
      by_cases he : s.hears e = true
      · simp [performed, keeps, Deed.event?, he, ih]
      · simp [performed, keeps, Deed.event?, he, ih]
    | _ => simp [performed, List.filter_cons, keeps, Deed.event?, ih]

/-- What looks alike is performed alike. -/
theorem Alike.play_eq {script script' : Script α} (h : s.Alike script script') : s.play script = s.play script' := by
  rw [play, play, ← performed_filter_keeps s script.deeds, h.deeds, performed_filter_keeps, h.answer]

/-! ## Offers -/

/-- Whatever its level, an event that is offered is reported if it is expected at this very level. -/
theorem offer_eq (expects : Expectation) (level : Level) (target message : String) :
    Script.offer expects level target message =
      if expects level target then Script.report level target message else pure () := by
  cases level <;> rfl

/-- To a subscriber that expects what it hears, an offer looks like a report. -/
theorem Candid.alike_offer (h : s.Candid) (level : Level) (target message : String) :
    s.Alike (Script.offer s.expects level target message)
      (Script.offer Expectation.everything level target message) := by
  rw [offer_eq, offer_eq, if_pos (show Expectation.everything level target = true from rfl)]
  by_cases hexpects : s.expects level target = true
  · rw [if_pos hexpects]
    exact .refl s _
  · rw [if_neg hexpects]
    -- the report that is missing would not have been heard
    have hhears : s.hears ⟨level, target, message⟩ = false := by
      rw [← Bool.not_eq_true]
      exact fun haccepts => hexpects (h level target haccepts)
    exact ⟨by simp [keeps, Deed.event?, hhears], rfl⟩

end Subscriber

/-! ## Operations that offer events -/

variable {s : Subscriber}

open Subscriber (Candid Alike)

/-- Trying to load an agent looks the same whether or not the subscriber is asked. -/
theorem Loader.alike_tryLoad (h : s.Candid) (l : Loader) (path : Path) :
    s.Alike (l.tryLoad path s.expects) (l.tryLoad path) := by
  refine (Alike.refl s (l.load path)).bind fun found => ?_
  cases found with
  | ok library => exact .refl s _
  | error fault => exact (h.alike_offer ..).bind fun _ => .refl s _

/-- Handing over to an agent looks the same whether or not the subscriber is asked. -/
theorem Launch.alike_handOver (h : s.Candid) (m : Machine) (agent : Prepared) (options : Utf8.Bytes)
    (vm reserved : UInt64) :
    s.Alike (handOver m s.expects agent options vm reserved)
      (handOver m Expectation.everything agent options vm reserved) :=
  (h.alike_offer ..).bind fun _ => .refl s _

/-- A launch looks the same whether or not the subscriber is asked. -/
theorem alike_launch (h : s.Candid) (m : Machine) (loader : Loader) (text : String) (vm reserved : UInt64) :
    s.Alike (launch m loader text vm reserved s.expects) (launch m loader text vm reserved) := by
  refine (Alike.refl s _).bind fun _ => (Alike.refl s (prepare m loader text)).bind fun prepared => ?_
  cases prepared with
  | error fault => exact .refl s _
  | ok found =>
    cases found with
    | none => exact .refl s _
    | some agent =>
      cases hbytes : agent.plan.optionBytes with
      | error fault =>
        simp only [hbytes]
        exact .refl s _
      | ok bytes =>
        simp only [hbytes]
        exact Launch.alike_handOver h m agent bytes vm reserved

namespace Host

/-- A start is the same whether or not the subscriber is asked, even if the subscriber fails. -/
theorem start_expects (h : s.Candid) (m : Machine) (bytes : Option Utf8.Bytes) (vm reserved : UInt64) :
    start m s bytes vm reserved s.expects = start m s bytes vm reserved := by
  rw [start, start, guarded, guarded, (alike_launch h m _ (optionText bytes) vm reserved).play_eq]

/-- The guard does nothing before a subscriber that never fails. -/
theorem guarded_of_neverFails (hs : s.NeverFails) (script : Script Int32) : guarded s script = s.play script := by
  rw [guarded, Subscriber.answer?_play hs]

end Host

/-! ## All operations -/

/-- The operations that report events, by the answers that they give. -/
inductive Operation : Type → Type where
  | loadConfig (path : Path) : Operation (Except Fault Config)
  | find (path : Path) (symbol : String) : Operation (Except Fault Library)
  | tryLoad (path : Path) : Operation (Option Library)
  | probe (path : Path) (symbol : String) : Operation ProbeReport
  | launch (loader : Loader) (text : String) (vm reserved : UInt64) : Operation Int32
  | start (bytes : Option Utf8.Bytes) (vm reserved : UInt64) : Operation Int32

namespace Operation

variable {α : Type}

/-- Performs an operation before a subscriber, which is asked about the events that are offered. -/
def perform (m : Machine) (s : Subscriber) : Operation α → Performance α
  | loadConfig path => s.play (Config.load m path)
  | find path symbol => s.play ((Loader.ofMachine m).request path symbol)
  | tryLoad path => s.play ((Loader.ofMachine m).tryLoad path s.expects)
  | probe path symbol => s.play (AgentRelay.probe (.ofMachine m) path symbol)
  | launch loader text vm reserved => s.play (AgentRelay.launch m loader text vm reserved s.expects)
  | start bytes vm reserved => Host.start m s bytes vm reserved s.expects

/-- The script of an operation that asks nobody and is not guarded. -/
def script (m : Machine) : Operation α → Script α
  | loadConfig path => Config.load m path
  | find path symbol => (Loader.ofMachine m).request path symbol
  | tryLoad path => (Loader.ofMachine m).tryLoad path
  | probe path symbol => AgentRelay.probe (.ofMachine m) path symbol
  | launch loader text vm reserved => AgentRelay.launch m loader text vm reserved
  | start bytes vm reserved => AgentRelay.launch m (.ofMachine m) (Host.optionText bytes) vm reserved

/-- Before a subscriber that never fails and expects what it hears, an operation is its script. -/
theorem perform_eq_play (hs : s.NeverFails) (h : s.Candid) (m : Machine) (op : Operation α) :
    op.perform m s = s.play (op.script m) := by
  cases op with
  | loadConfig path => rfl
  | find path symbol => rfl
  | tryLoad path => exact (Loader.alike_tryLoad h _ path).play_eq
  | probe path symbol => rfl
  | launch loader text vm reserved => exact (alike_launch h m loader text vm reserved).play_eq
  | start bytes vm reserved =>
    rw [perform, Host.start_expects h, Host.start, Host.guarded_of_neverFails hs, script]

/-- Under any two filters by levels and targets, an operation gives the same answer, requests the same and calls the same.
The events under a filter are those of the operation before the subscriber that hears everything, in their order, less
the ones that the filter does not let through. -/
theorem perform_transparent (m : Machine) (op : Operation α) (max max' : MaxRank) (off off' : List String) :
    let run := op.perform m (.filtered max off none)
    let run' := op.perform m (.filtered max' off' none)
    (∃ answer, run.answer? = some answer ∧ run'.answer? = some answer) ∧
    run.requests = run'.requests ∧ run.calls = run'.calls ∧
    run.events = (op.perform m .allHearing).events.filter fun e => e.level.rank ≤ max ∧ e.target ∉ off := by
  intro run run'
  have hplay (max : MaxRank) (off : List String) :
      op.perform m (.filtered max off none) = (Subscriber.filtered max off none).play (op.script m) :=
    perform_eq_play (Subscriber.neverFails_filtered max off) (Subscriber.candid_filtered max off none) m op
  have hnever (max : MaxRank) (off : List String) := Subscriber.neverFails_filtered max off
  have hrun : run = _ := hplay max off
  have hrun' : run' = _ := hplay max' off'
  have hall : (op.perform m .allHearing).events = (op.script m).events := by
    rw [Subscriber.allHearing, hplay, Subscriber.events_play (hnever _ _), List.filter_eq_self]
    intro e _
    cases e with
    | mk level target message => cases level <;> rfl
  refine ⟨⟨(op.script m).answer, ?_, ?_⟩, ?_, ?_, ?_⟩
  · rw [hrun, Subscriber.answer?_play (hnever _ _)]
  · rw [hrun', Subscriber.answer?_play (hnever _ _)]
  · rw [hrun, hrun', Subscriber.requests_play (hnever _ _), Subscriber.requests_play (hnever _ _)]
  · rw [hrun, hrun', Subscriber.calls_play (hnever _ _), Subscriber.calls_play (hnever _ _)]
  · rw [hrun, hall, Subscriber.events_play (hnever _ _)]
    apply List.filter_congr
    intro e _
    simp [Subscriber.hears, Subscriber.filtered]

end Operation

end AgentRelay
