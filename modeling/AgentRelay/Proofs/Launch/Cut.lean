import AgentRelay.Proofs.Launch.Run
import AgentRelay.Proofs.Performance

set_option autoImplicit false

/-!
# Where a launch is cut

The call of the agent is the last but one of the deeds of a launch, and the report that follows it is the only one that
tells of a return (`deeds_launch_eq`).  So the event at which a launch is cut says whether the agent was called before:
if the event tells of a return, then it was, and else it was not (`calls_of_cutAt_launch`).
-/

namespace AgentRelay

/-- The event tells that an agent has returned. -/
def Event.TellsReturn (e : Event) : Prop :=
  e.target = Target.launch ∧ e.level = .info ∧ "Native agent returned ".toList <+: e.message.toList

theorem Event.TellsReturn.isTerminal {e : Event} (h : e.TellsReturn) : e.IsTerminal :=
  ⟨h.1, .inr (.inr h.2)⟩

/-- The loader of a machine does not tell how a launch ends. -/
theorem Loader.not_isTerminal_ofMachine (m : Machine) (path : Path) (symbol : String) :
    ∀ e ∈ ((Loader.ofMachine m).find path symbol).1, ¬ e.IsTerminal := by
  intro e he
  have hannouncement : e = Loader.announcement path symbol := by simpa [Loader.ofMachine] using he
  rw [hannouncement]
  exact Launch.not_isTerminal_of_target (show Target.linker ≠ Target.launch by decide)

/-- What an agent returns when it is called. -/
def Call.code (m : Machine) (call : Call) : Int32 := m.agentCode call.library.entry.address call.arguments

namespace Launch

variable {m : Machine} {loader : Loader} {text : String} {ending : Ending} {vm reserved : UInt64}
  {expects : Expectation}

/-! ## The call and the report of the return -/

/-- What is reported when an agent has returned. -/
def returnEvent (code : Int32) : Event :=
  ⟨.info, Target.launch, "Native agent returned " ++ toString code.toInt⟩

/-- After a call its return is reported, and its code is the answer. -/
theorem Ending.return_of_call {call : Call} (h : ending.call? vm reserved = some call) :
    ending.lastEvent m vm reserved = returnEvent (call.code m) ∧ ending.code m vm reserved = call.code m := by
  cases ending with
  | called agent =>
    obtain rfl := Option.some.inj h
    exact ⟨rfl, rfl⟩
  | _ => cases h

/-- Without a call the host is told that all is well. -/
theorem Ending.code_of_no_call (h : ending.call? vm reserved = none) : ending.code m vm reserved = ok := by
  cases ending with
  | called agent => cases h
  | _ => rfl

/-- The last event tells of a return when there was a call. -/
theorem Ending.tellsReturn_lastEvent_iff :
    (ending.lastEvent m vm reserved).TellsReturn ↔ ∃ call, ending.call? vm reserved = some call := by
  cases ending with
  | called agent => exact ⟨fun _ => ⟨_, rfl⟩, fun _ => ⟨rfl, rfl, by simp [lastEvent]⟩⟩
  | idle =>
    constructor
    · rintro ⟨_, _, rest, hmessage⟩
      have hletter := congrArg (fun letters : List Char => letters[1]?) hmessage
      simp [lastEvent] at hletter
    · rintro ⟨call, hcall⟩
      cases hcall
  | _ =>
    constructor
    · rintro ⟨_, hlevel, _⟩
      cases hlevel
    · rintro ⟨call, hcall⟩
      cases hcall

/-! ## The deeds in their order -/

/-- A launch ends with the call, if there is one, and with the last report.  What is done before calls nothing, and it
does not tell how the launch ends unless the loader does. -/
theorem deeds_launch_eq (h : Ends m loader text ending)
    (hloader : ∀ path symbol, ∀ e ∈ (loader.find path symbol).1, ¬ e.IsTerminal) (vm reserved : UInt64)
    (expects : Expectation) :
    ∃ front, (launch m loader text vm reserved expects).deeds =
        front ++ ((ending.call? vm reserved).toList.map .call ++ [.report (ending.lastEvent m vm reserved)]) ∧
      front.filterMap Deed.call? = [] ∧ ∀ e ∈ front.filterMap Deed.event?, ¬ e.IsTerminal := by
  have hdeeds := deeds_launch h vm reserved expects
  refine ⟨_, hdeeds, ?_, ?_⟩
  · -- the call at the end is the only one
    have hcalls := calls_launch h vm reserved expects
    rw [Script.calls, hdeeds, List.filterMap_append, List.filterMap_append, calls_of_call] at hcalls
    change _ ++ ((ending.call? vm reserved).toList ++ []) = (ending.call? vm reserved).toList at hcalls
    rw [List.append_nil] at hcalls
    exact List.append_left_eq_self.1 hcalls
  · -- the report at the end is the only terminal one
    obtain ⟨earlier, hevents, hearlier⟩ := events_launch h vm reserved expects
    rw [Script.events, hdeeds, List.filterMap_append, List.filterMap_append, events_of_call, List.nil_append] at hevents
    obtain ⟨hfront, _⟩ := List.append_singleton_inj.1 hevents
    intro e he hterminal
    obtain ⟨plan, _, hmem⟩ := hearlier e (hfront ▸ he) hterminal
    exact hloader plan.agentPath agentSymbol e hmem hterminal

/-! ## The cut -/

/-- A launch is cut at its last report, and then it has called what it calls at all, or at a report that does not tell
of a return, and then it has called nothing. -/
theorem calls_of_cutAt_launch (h : Ends m loader text ending)
    (hloader : ∀ path symbol, ∀ e ∈ (loader.find path symbol).1, ¬ e.IsTerminal) {s : Subscriber}
    {before after : List Deed} {e : Event}
    (hcut : s.CutAt (launch m loader text vm reserved expects).deeds before e after) :
    (before.filterMap Deed.call? = (ending.call? vm reserved).toList ∧ e = ending.lastEvent m vm reserved) ∨
      (before.filterMap Deed.call? = [] ∧ ¬ e.TellsReturn) := by
  obtain ⟨front, hdeeds, hcalls, hterminal⟩ := deeds_launch_eq h hloader vm reserved expects
  rw [hdeeds] at hcut
  rcases hcut.of_append with ⟨rest, hfront⟩ | ⟨more, rfl, hclosing⟩
  · refine .inr ⟨?_, fun htells => hterminal e hfront.mem_events htells.isTerminal⟩
    rw [hfront.split, List.filterMap_append] at hcalls
    exact (List.append_eq_nil_iff.1 hcalls).1
  · rcases hclosing.of_append with ⟨rest, hcall⟩ | ⟨more, rfl, hlast⟩
    · -- a call is no event
      have hmem := hcall.mem_events
      rw [events_of_call] at hmem
      cases hmem
    · obtain ⟨rfl, rfl⟩ := hlast.eq_of_report
      refine .inl ⟨?_, rfl⟩
      rw [List.append_nil, List.filterMap_append, hcalls, calls_of_call, List.nil_append]

end Launch

end AgentRelay
