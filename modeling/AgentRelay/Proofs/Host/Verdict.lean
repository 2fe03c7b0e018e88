import AgentRelay.Proofs.Host.Guard
import AgentRelay.Proofs.Launch.Cut

set_option autoImplicit false

/-!
# Whether the host gets the code of the agent

A start calls at most one agent.  Once it has called one, a single event stands between the code and the host: the
report of the return.  If the subscriber fails on it, then the guard answers in place of the agent, and the host is told
that all is well whatever the agent said (`start_verdict`, `not_forall_verdict`).
-/

namespace AgentRelay.Host

variable {m : Machine} {s : Subscriber} {bytes : Option Utf8.Bytes} {vm reserved : UInt64}
  {expects : Expectation} {ending : Launch.Ending}

/-! ## Starts that are interrupted, and starts that are not -/

/-- A start that nothing interrupts calls what its launch calls, and gives the code of its launch. -/
theorem start_of_survives (hends : Launch.Ends m (.ofMachine m) (optionText bytes) ending)
    (h : s.Survives (guardedLaunch m bytes vm reserved expects).deeds) :
    (start m s bytes vm reserved expects).calls = (ending.call? vm reserved).toList ∧
    (start m s bytes vm reserved expects).answer? = some (ending.code m vm reserved) := by
  rw [start_eq_guarded, guarded_of_survives h, Subscriber.calls_play s.neverFails_unfailing,
    Subscriber.answer?_play s.neverFails_unfailing, guardedLaunch, Launch.calls_launch hends,
    Launch.answer_launch hends]
  exact ⟨rfl, rfl⟩

/-- A start that is interrupted by the report of a return has called the agent, and otherwise it has called none. -/
theorem calls_start_of_cutAt (hends : Launch.Ends m (.ofMachine m) (optionText bytes) ending)
    {before after : List Deed} {e : Event}
    (hcut : s.CutAt (guardedLaunch m bytes vm reserved expects).deeds before e after) :
    ((start m s bytes vm reserved expects).calls = (ending.call? vm reserved).toList ∧
      e = ending.lastEvent m vm reserved) ∨
    ((start m s bytes vm reserved expects).calls = [] ∧ ¬ e.TellsReturn) := by
  rw [start_eq_guarded, calls_guarded_of_cutAt hcut]
  exact Launch.calls_of_cutAt_launch hends (Loader.not_isTerminal_ofMachine m) hcut

/-- A launch that is survived has its report of the return borne. -/
theorem bears_returnEvent (hends : Launch.Ends m (.ofMachine m) (optionText bytes) ending)
    (h : s.Survives (guardedLaunch m bytes vm reserved expects).deeds) {call : Call}
    (hcall : ending.call? vm reserved = some call) : s.bears (Launch.returnEvent (call.code m)) = true := by
  obtain ⟨front, hdeeds, _⟩ := Launch.deeds_launch_eq hends (Loader.not_isTerminal_ofMachine m) vm reserved expects
  rw [guardedLaunch, hdeeds, (Launch.Ending.return_of_call hcall).1] at h
  exact h _ (by simp)

/-! ## The verdict -/

/-- A start that nothing interrupts gives the code of the agent that it has called. -/
theorem answer?_of_mem_calls_of_survives (hends : Launch.Ends m (.ofMachine m) (optionText bytes) ending)
    (h : s.Survives (guardedLaunch m bytes vm reserved expects).deeds) {call : Call}
    (hcall : call ∈ (start m s bytes vm reserved expects).calls) :
    (start m s bytes vm reserved expects).calls = [call] ∧
    s.bears (Launch.returnEvent (call.code m)) = true ∧
    (start m s bytes vm reserved expects).answer? = some (call.code m) := by
  obtain ⟨hcalls, hanswer⟩ := start_of_survives hends h
  rw [hcalls, Option.mem_toList] at hcall
  refine ⟨?_, bears_returnEvent hends h hcall, ?_⟩
  · rw [hcalls, hcall]
    rfl
  · rw [hanswer, (Launch.Ending.return_of_call hcall).2]

/-- A start that is interrupted after it has called an agent is interrupted by the report of the return. -/
theorem not_bears_of_mem_calls_of_cutAt (hends : Launch.Ends m (.ofMachine m) (optionText bytes) ending)
    {before after : List Deed} {e : Event} (hcut : s.CutAt (guardedLaunch m bytes vm reserved expects).deeds before e after)
    {call : Call} (hcall : call ∈ (start m s bytes vm reserved expects).calls) :
    (start m s bytes vm reserved expects).calls = [call] ∧ s.bears (Launch.returnEvent (call.code m)) = false := by
  rcases calls_start_of_cutAt hends hcut with ⟨hcalls, rfl⟩ | ⟨hcalls, _⟩
  · rw [hcalls, Option.mem_toList] at hcall
    have hbears := hcut.not_bears
    rw [(Launch.Ending.return_of_call hcall).1] at hbears
    rw [hcalls, hcall]
    exact ⟨rfl, hbears⟩
  · rw [hcalls] at hcall
    cases hcall

/-- An agent that was called gives the start its code when the subscriber bears the report of its return; otherwise
the guard answers.  Without a call, no other code is given than the one for success.  What is expected does not matter
for that. -/
theorem start_verdict (m : Machine) (s : Subscriber) (bytes : Option Utf8.Bytes) (vm reserved : UInt64)
    (expects : Expectation) :
    let run := start m s bytes vm reserved expects
    (∀ call ∈ run.calls,
      run.calls = [call] ∧
      run.answer? =
        if s.bears (Launch.returnEvent (call.code m)) then some (call.code m)
        else if s.bears failureEvent then some Launch.ok else none) ∧
    (run.calls = [] → ∀ code, run.answer? = some code → code = Launch.ok) := by
  intro run
  obtain ⟨ending, hends⟩ := Launch.Ends.exists m (.ofMachine m) (optionText bytes)
  rcases s.survives_or_cut (guardedLaunch m bytes vm reserved expects).deeds with hsurvives | ⟨before, e, after, hcut⟩
  · constructor
    · intro call hcall
      obtain ⟨hcalls, hbears, hanswer⟩ := answer?_of_mem_calls_of_survives hends hsurvives hcall
      exact ⟨hcalls, hanswer.trans (if_pos hbears).symm⟩
    · intro hnone code hcode
      obtain ⟨hcalls, hanswer⟩ : run.calls = _ ∧ run.answer? = _ := start_of_survives hends hsurvives
      rw [hcalls, Option.toList_eq_nil_iff] at hnone
      rw [hanswer, Launch.Ending.code_of_no_call hnone] at hcode
      exact (Option.some.inj hcode).symm
  · have hanswer : run.answer? = if s.bears failureEvent then some Launch.ok else none :=
      answer?_guarded_of_cutAt hcut
    constructor
    · intro call hcall
      obtain ⟨hcalls, hbears⟩ := not_bears_of_mem_calls_of_cutAt hends hcut hcall
      refine ⟨hcalls, ?_⟩
      rw [hanswer, hbears, if_neg Bool.false_ne_true]
    · intro _ code hcode
      rw [hanswer, Option.ite_none_right_eq_some] at hcode
      exact (Option.some.inj hcode.2).symm

/-! ## An agent whose code is lost -/

/-- A machine whose configuration names an agent that is there and returns 7. -/
def calling : Machine := { Launch.pathOnly with linker := ⟨fun _ => .ok fun _ => .ok 1⟩ }

/-- The options that name this configuration. -/
def callingOptions : Option Utf8.Bytes := some (Utf8.encode "bootstrapConfigPath=b.conf")

/-- The call of this agent. -/
def callingCall : Call :=
  ⟨⟨.ofString "/a", agentSymbol, ⟨1, by decide⟩⟩,
    ⟨Utf8.encode "bootstrapConfigPath=b.conf,coreLibPath=/a,agentPath=/a", 3, 4⟩⟩

/-- What is done when this agent is called. -/
def callingDeeds : List Deed := [
  .setVerbosity "info",
  .report ⟨.debug, Target.config, "Loading bootstrap configuration from b.conf"⟩,
  .report ⟨.debug, Target.config, "Bootstrap configuration has 1 entries"⟩,
  .request (.ofString "/a") agentSymbol,
  .report ⟨.debug, Target.linker, "dlopen(/a, 0x1) for 'Agent_OnLoad'"⟩,
  .report ⟨.debug, Target.launch,
    "Chaining to /a with options: bootstrapConfigPath=b.conf,coreLibPath=/a,agentPath=/a"⟩,
  .report ⟨.info, Target.launch, "Native agent loaded from /a, calling Agent_OnLoad"⟩,
  .call callingCall,
  .report ⟨.info, Target.launch, "Native agent returned 7"⟩]

/-- Before a subscriber that hears every level and every target. -/
theorem launch_calling (tripwire : Option String) :
    launch calling (.ofMachine calling) (optionText callingOptions) 3 4
      (Subscriber.filtered Level.trace.rank [] tripwire).expects = ⟨callingDeeds, 7⟩ := by
  have hdeeds : launch calling (.ofMachine calling) (optionText callingOptions) 3 4 Subscriber.allHearing.expects =
      ⟨callingDeeds, 7⟩ := by decide +kernel
  exact hdeeds

theorem start_calling (s : Subscriber) (tripwire : Option String) :
    start calling s callingOptions 3 4 (Subscriber.filtered Level.trace.rank [] tripwire).expects =
      guarded s ⟨callingDeeds, 7⟩ := by
  rw [start, launch_calling]

theorem start_verdict_seven :
    let run := start calling .allHearing callingOptions 3 4 Subscriber.allHearing.expects
    callingCall ∈ run.calls ∧ run.answer? = some 7 := by
  intro run
  have hcall : callingCall ∈ run.calls := by
    rw [show run = _ from start_calling .allHearing none]
    decide +kernel
  obtain ⟨_, hanswer⟩ := (start_verdict ..).1 _ hcall
  exact ⟨hcall, hanswer⟩

/-- The code of an agent that was called does not always reach the host. -/
theorem not_forall_verdict :
    ¬ ∀ (m : Machine) (s : Subscriber) (bytes : Option Utf8.Bytes) (vm reserved : UInt64),
      ∀ call ∈ (start m s bytes vm reserved s.expects).calls,
        (start m s bytes vm reserved s.expects).answer? = some (call.code m) := by
  intro h
  let s : Subscriber := .filtered Level.trace.rank [] (some "Native agent returned")
  have hrun : callingCall ∈ (guarded s ⟨callingDeeds, 7⟩).calls ∧
      (guarded s ⟨callingDeeds, 7⟩).answer? ≠ some (callingCall.code calling) := by decide +kernel
  rw [← start_calling s (some "Native agent returned")] at hrun
  exact hrun.2 (h calling s callingOptions 3 4 callingCall hrun.1)

end AgentRelay.Host
