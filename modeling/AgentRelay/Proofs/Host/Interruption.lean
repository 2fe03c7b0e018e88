import AgentRelay.Proofs.Host.Verdict

set_option autoImplicit false

/-!
# A start that is interrupted

A start before a failing subscriber is compared with the start before the subscriber that hears the same and never
fails.  As long as nothing that is heard does harm, the two are one.  The first event that does harm ends the launch,
and the guard takes over: what was heard before it is kept, and the agent has been called exactly if this event tells of
its return (`start_interrupted`).
-/

namespace AgentRelay.Host

variable {m : Machine} {s : Subscriber} {bytes : Option Utf8.Bytes} {vm reserved : UInt64}
  {expects : Expectation}

/-- An interrupted start has called the agent if the event that interrupts it tells of its return, and then as the whole
start does. -/
theorem calls_interrupted {before after : List Deed} {e : Event}
    (hcut : s.CutAt (guardedLaunch m bytes vm reserved expects).deeds before e after) :
    ((start m s bytes vm reserved expects).calls ≠ [] ↔ e.TellsReturn) ∧
    ((start m s bytes vm reserved expects).calls ≠ [] →
      ∃ call, (start m s bytes vm reserved expects).calls = [call] ∧
        (start m s.unfailing bytes vm reserved expects).calls = [call]) := by
  obtain ⟨ending, hends⟩ := Launch.Ends.exists m (.ofMachine m) (optionText bytes)
  have hsurvives : s.unfailing.Survives (guardedLaunch m bytes vm reserved expects).deeds := s.survives_unfailing _
  obtain ⟨hwhole, _⟩ := start_of_survives hends hsurvives
  rcases calls_start_of_cutAt hends hcut with ⟨hcalls, rfl⟩ | ⟨hcalls, htells⟩
  · rw [hcalls, hwhole, Launch.Ending.tellsReturn_lastEvent_iff]
    cases ending.call? vm reserved with
    | none => simp
    | some call => simp
  · rw [hcalls]
    exact ⟨⟨fun hne => absurd rfl hne, fun h => absurd h htells⟩, fun hne => absurd rfl hne⟩

/-- Whatever is expected, a subscriber that bears the report of the guard interrupts a start at the first event on which
it fails, if it hears one.  The failures may be those on all events with a certain text, or on any others: for a filtering subscriber, the
whole start is the one before the subscriber without a tripwire (`Subscriber.unfailing_filtered`). -/
theorem start_interrupted {s : Subscriber} (hguard : s.bears failureEvent = true) (m : Machine)
    (bytes : Option Utf8.Bytes) (vm reserved : UInt64) (expects : Expectation) :
    let whole := start m s.unfailing bytes vm reserved expects
    let run := start m s bytes vm reserved expects
    ((∀ e ∈ whole.events, s.failsOn e = false) → run = whole) ∧
    ∀ e, whole.events.find? s.failsOn = some e →
      run.answer? = some Launch.ok ∧
      run.events = whole.events.takeWhile (fun e => !s.failsOn e) ++ [failureEvent].filter s.hears ∧
      (run.calls ≠ [] ↔ e.TellsReturn) ∧
      (run.calls ≠ [] → ∃ call, run.calls = [call] ∧ whole.calls = [call]) := by
  intro whole run
  have hwhole : whole = s.unfailing.play (guardedLaunch m bytes vm reserved expects) := guarded_unfailing s _
  rcases s.survives_or_cut (guardedLaunch m bytes vm reserved expects).deeds with hsurvives | ⟨before, e, after, hcut⟩
  · refine ⟨fun _ => (guarded_of_survives hsurvives).trans hwhole.symm, fun e hfind => ?_⟩
    -- nothing that is heard does harm
    have hharmless := hsurvives.failsOn_of_mem_events (hwhole ▸ List.mem_of_find?_eq_some hfind)
    rw [List.find?_some hfind] at hharmless
    cases hharmless
  · have hfound : whole.events.find? s.failsOn = some e := hwhole ▸ hcut.find?_events
    constructor
    · intro hharmless
      have hfailed := hharmless e (List.mem_of_find?_eq_some hfound)
      rw [hcut.failed] at hfailed
      cases hfailed
    · intro e' hfind
      obtain rfl : e = e' := Option.some.inj (hfound.symm.trans hfind)
      have hanswer : run.answer? = _ := answer?_guarded_of_cutAt hcut
      have hevents : run.events = _ := events_guarded_of_cutAt hcut
      refine ⟨?_, ?_, calls_interrupted hcut⟩
      · rw [hanswer, if_pos hguard]
      · rw [hevents, hwhole, play_failureReport_of_bears hguard, Performance.events, Performance.events,
          Subscriber.event?_keeps]
        rfl

/-- The report of the return interrupts the start: the agent was called, and its code is lost. -/
theorem start_interrupted_return :
    let s : Subscriber := .filtered Level.trace.rank [] (some "returned")
    s.bears failureEvent = true ∧
    (start calling s callingOptions 3 4 s.expects).answer? = some Launch.ok ∧
    (start calling s callingOptions 3 4 s.expects).calls ≠ [] := by
  intro s
  have hguard : s.bears failureEvent = true := by decide +kernel
  have hfind : (start calling s.unfailing callingOptions 3 4 s.expects).events.find? s.failsOn =
      some (Launch.returnEvent 7) := by
    rw [start_calling, Subscriber.unfailing_filtered]
    decide +kernel
  obtain ⟨hanswer, _, hcalls, _⟩ := (start_interrupted hguard calling callingOptions 3 4 s.expects).2 _ hfind
  exact ⟨hguard, hanswer, hcalls.2 ⟨rfl, rfl, by simp [Launch.returnEvent]⟩⟩

end AgentRelay.Host
