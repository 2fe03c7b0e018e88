import AgentRelay.Host
import AgentRelay.Proofs.Performance

set_option autoImplicit false

/-!
# What the guard keeps from the host

A failure of the subscriber does not get past the guard while it is the launch that is cut.  But the guard reports
the failure, and the end reports that it was called, and neither report is guarded.  So a failure reaches the host in
these two cases and in no other (`returns_iff`), and it does reach the host (`not_forall_returns`).
-/

namespace AgentRelay.Host

variable {s : Subscriber} {script : Script Int32} {before after : List Deed} {e : Event}

/-! ## The unguarded reports -/

/-- What the guard reports. -/
def failureEvent : Event := ⟨.error, Target.host, "Bootstrap panicked, continuing without the agent"⟩

/-- What the end reports. -/
def endEvent : Event := ⟨.debug, Target.host, "Agent_OnUnload"⟩

/-- A subscriber that bears the report of the guard hears it, unless it is deaf to it. -/
theorem play_failureReport_of_bears (h : s.bears failureEvent = true) :
    s.play failureReport = ⟨[Deed.report failureEvent].filter s.keeps, some Launch.ok⟩ := by
  have hsurvives : s.Survives failureReport.deeds := (s.survives_report_iff failureEvent).2 h
  rw [Subscriber.play_of_survives hsurvives, Subscriber.play_unfailing]
  rfl

/-- Otherwise there is nothing left of the guard. -/
theorem play_failureReport_of_not_bears (h : s.bears failureEvent = false) :
    s.play failureReport = ⟨[], none⟩ := by
  have hcut : s.CutAt failureReport.deeds [] failureEvent [] := Subscriber.cutAt_report h
  rw [Subscriber.play_of_cutAt hcut]
  rfl

/-- The guard gives the code for success, if it gives any. -/
theorem answer?_failureReport (s : Subscriber) :
    (s.play failureReport).answer? = if s.bears failureEvent then some Launch.ok else none := by
  cases h : s.bears failureEvent with
  | true => rw [play_failureReport_of_bears h, if_pos rfl]
  | false => rw [play_failureReport_of_not_bears h, if_neg Bool.false_ne_true]

/-- The guard calls no agent. -/
theorem calls_failureReport (s : Subscriber) : (s.play failureReport).calls = [] := by
  cases h : s.bears failureEvent with
  | true =>
    rw [play_failureReport_of_bears h, Performance.calls, Subscriber.filterMap_keeps _ fun _ => rfl]
    rfl
  | false =>
    rw [play_failureReport_of_not_bears h]
    rfl

/-! ## Behind the guard -/

/-- What is survived passes the guard as it is. -/
theorem guarded_of_survives (h : s.Survives script.deeds) : guarded s script = s.unfailing.play script := by
  rw [guarded, Subscriber.play_of_survives h, Subscriber.play_unfailing]

/-- What is cut is done up to the cut, and then the guard steps in. -/
theorem guarded_of_cutAt (h : s.CutAt script.deeds before e after) :
    guarded s script =
      ⟨before.filter s.keeps ++ (s.play failureReport).deeds, (s.play failureReport).answer?⟩ := by
  rw [guarded, Subscriber.play_of_cutAt h]

/-- What is cut has called what it called up to the cut. -/
theorem calls_guarded_of_cutAt (h : s.CutAt script.deeds before e after) :
    (guarded s script).calls = before.filterMap Deed.call? := by
  have hfailure := calls_failureReport s
  rw [Performance.calls] at hfailure
  rw [guarded_of_cutAt h, Performance.calls, List.filterMap_append, hfailure, List.append_nil,
    Subscriber.filterMap_keeps before fun _ => rfl]

/-- What is cut has reported what was reported up to the cut. -/
theorem events_guarded_of_cutAt (h : s.CutAt script.deeds before e after) :
    (guarded s script).events =
      (s.unfailing.play script).events.takeWhile (fun e => !s.failsOn e) ++ (s.play failureReport).events := by
  rw [guarded_of_cutAt h, Performance.events, List.filterMap_append, h.takeWhile_events, Performance.events]

/-- What is cut is answered by the guard. -/
theorem answer?_guarded_of_cutAt (h : s.CutAt script.deeds before e after) :
    (guarded s script).answer? = if s.bears failureEvent then some Launch.ok else none := by
  rw [guarded_of_cutAt h, answer?_failureReport]

/-- Before a subscriber that never fails there is nothing to guard against. -/
theorem guarded_unfailing (s : Subscriber) (script : Script Int32) :
    guarded s.unfailing script = s.unfailing.play script :=
  guarded_of_survives (s.survives_unfailing script.deeds)

/-- A guarded script is answered unless a failure of the subscriber is followed by another one in the guard. -/
theorem answer?_guarded_iff (s : Subscriber) (script : Script Int32) :
    (∃ code, (guarded s script).answer? = some code) ↔
      (∀ e ∈ script.events, s.bears e = true) ∨ s.bears failureEvent = true := by
  rw [← s.survives_deeds_iff]
  rcases s.survives_or_cut script.deeds with hsurvives | ⟨before, e, after, hcut⟩
  · rw [guarded_of_survives hsurvives, Subscriber.play_unfailing]
    exact ⟨fun _ => .inl hsurvives, fun _ => ⟨_, rfl⟩⟩
  · rw [answer?_guarded_of_cutAt hcut]
    cases h : s.bears failureEvent with
    | true => exact ⟨fun _ => .inr rfl, fun _ => ⟨_, rfl⟩⟩
    | false =>
      constructor
      · rintro ⟨code, hcode⟩
        cases hcode
      · rintro (hsurvives | hbears)
        · exact absurd hsurvives hcut.not_survives
        · cases hbears

/-! ## Returning to the host -/

/-- The launch behind a start. -/
def guardedLaunch (m : Machine) (bytes : Option Utf8.Bytes) (vm reserved : UInt64) (expects : Expectation) :
    Script Int32 :=
  launch m (.ofMachine m) (optionText bytes) vm reserved expects

theorem start_eq_guarded (m : Machine) (s : Subscriber) (bytes : Option Utf8.Bytes) (vm reserved : UInt64)
    (expects : Expectation) :
    start m s bytes vm reserved expects = guarded s (guardedLaunch m bytes vm reserved expects) := rfl

/-- Whatever is expected, the start returns to the host unless the subscriber fails on an event of the launch and on the
report of the guard, and the end returns unless the subscriber fails on its only report. -/
theorem returns_iff (m : Machine) (s : Subscriber) (bytes : Option Utf8.Bytes) (vm reserved : UInt64)
    (expects : Expectation) :
    ((∃ code, (start m s bytes vm reserved expects).answer? = some code) ↔
      (∀ e ∈ (launch m (.ofMachine m) (optionText bytes) vm reserved expects).events, s.bears e = true) ∨
        s.bears failureEvent = true) ∧
    ((stop s).answer? = some () ↔ s.bears endEvent = true) := by
  refine ⟨answer?_guarded_iff s _, ?_⟩
  cases h : s.bears endEvent with
  | true =>
    have hsurvives : s.Survives finish.deeds := (s.survives_report_iff endEvent).2 h
    rw [stop, Subscriber.play_of_survives hsurvives, Subscriber.play_unfailing]
    exact ⟨fun _ => rfl, fun _ => rfl⟩
  | false =>
    have hcut : s.CutAt finish.deeds [] endEvent [] := Subscriber.cutAt_report h
    rw [stop, Subscriber.play_of_cutAt hcut]
    exact ⟨fun hanswer => (nomatch hanswer), fun hbears => (nomatch hbears)⟩

/-- Neither call always returns: not the end, before a subscriber that fails on its report, and not the start, before
one that fails on whatever speaks of the bootstrap. -/
theorem not_forall_returns :
    (¬ ∀ s : Subscriber, (stop s).answer? = some ()) ∧
    ¬ ∀ (m : Machine) (s : Subscriber) (bytes : Option Utf8.Bytes) (vm reserved : UInt64),
      ∃ code, (start m s bytes vm reserved s.expects).answer? = some code := by
  constructor
  · intro h
    have hstop : (stop (.filtered Level.trace.rank [] (some "Agent_OnUnload"))).answer? ≠ some () := by decide +kernel
    exact hstop (h _)
  · intro h
    let m : Machine := ⟨none, fun _ => .error .notFound, ⟨fun _ => .error "no such library"⟩, fun _ _ => 0⟩
    let s : Subscriber := .filtered Level.trace.rank [] (some "Bootstrap")
    obtain ⟨code, hcode⟩ := h m s (some (Utf8.encode "malformed")) 0 0
    have hstart : (start m s (some (Utf8.encode "malformed")) 0 0 s.expects).answer? = none := by decide +kernel
    rw [hstart] at hcode
    cases hcode

end AgentRelay.Host
