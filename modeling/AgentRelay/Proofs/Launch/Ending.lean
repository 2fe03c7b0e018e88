import AgentRelay.Launch
import AgentRelay.Proofs.Plan.Delivery

set_option autoImplicit false

/-!
# How a launch ends

A launch has five exits.  `Ending` names them, together with what was found on the way, and `Ends` says which one is
taken: always one (`Ends.exists`) and never two (`Ends.unique`).

The ending decides everything that others see of a launch: what it does (`deeds_launch`) and what the host is told
(`answer_launch`), and so what is requested, what is called and what the last event is.  Which events are expected
makes a difference to the announcements before the call alone.
-/

namespace AgentRelay

namespace Launch

/-! ## The exits -/

/-- How a launch ends. -/
inductive Ending where
  /-- The options name no configuration. -/
  | idle
  /-- There is no plan. -/
  | refused (fault : Fault)
  /-- There is a plan, but its agent is not found. -/
  | unloaded (plan : Plan) (fault : Fault)
  /-- The agent is found, but its options cannot be handed over. -/
  | unwritable (agent : Prepared) (fault : Fault)
  /-- The agent is called. -/
  | called (agent : Prepared)
  deriving DecidableEq, Repr

/-- Which exit a launch takes. -/
inductive Ends (m : Machine) (loader : Loader) (text : String) : Ending → Prop where
  | idle : (Plan.ofOptionString m text).answer = .ok none → Ends m loader text .idle
  | refused {fault : Fault} :
      (Plan.ofOptionString m text).answer = .error fault → Ends m loader text (.refused fault)
  | unloaded {plan : Plan} {fault : Fault} :
      (Plan.ofOptionString m text).answer = .ok (some plan) →
      (loader.find plan.agentPath agentSymbol).2 = .error fault → Ends m loader text (.unloaded plan fault)
  | unwritable {plan : Plan} {library : Library} {fault : Fault} :
      (Plan.ofOptionString m text).answer = .ok (some plan) →
      (loader.find plan.agentPath agentSymbol).2 = .ok library →
      plan.optionBytes = .error fault → Ends m loader text (.unwritable ⟨library, plan⟩ fault)
  | called {plan : Plan} {library : Library} {bytes : Utf8.Bytes} :
      (Plan.ofOptionString m text).answer = .ok (some plan) →
      (loader.find plan.agentPath agentSymbol).2 = .ok library →
      plan.optionBytes = .ok bytes → Ends m loader text (.called ⟨library, plan⟩)

variable {m : Machine} {loader : Loader} {text : String} {ending : Ending}

/-- Every launch takes one of the exits. -/
theorem Ends.exists (m : Machine) (loader : Loader) (text : String) : ∃ ending, Ends m loader text ending := by
  cases hplan : (Plan.ofOptionString m text).answer with
  | error fault => exact ⟨_, .refused hplan⟩
  | ok found =>
    cases found with
    | none => exact ⟨_, .idle hplan⟩
    | some plan =>
      cases hfind : (loader.find plan.agentPath agentSymbol).2 with
      | error fault => exact ⟨_, .unloaded hplan hfind⟩
      | ok library =>
        cases hbytes : plan.optionBytes with
        | error fault => exact ⟨_, .unwritable hplan hfind hbytes⟩
        | ok bytes => exact ⟨_, .called hplan hfind hbytes⟩

/-- No launch takes two exits. -/
theorem Ends.unique {ending' : Ending} (h : Ends m loader text ending) (h' : Ends m loader text ending') :
    ending = ending' := by
  cases h with
  | idle hplan => cases h' <;> simp_all
  | refused hplan => cases h' <;> simp_all
  | unloaded hplan hfind => cases h' <;> simp_all
  | unwritable hplan hfind hbytes => cases h' <;> simp_all
  | called hplan hfind hbytes => cases h' <;> simp_all

/-! ## What follows from the exit -/

namespace Ending

/-- The plan whose agent is requested. -/
def sought? : Ending → Option Plan
  | idle => none
  | refused _ => none
  | unloaded plan _ => some plan
  | unwritable agent _ => some agent.plan
  | called agent => some agent.plan

/-- What is known before the options are handed over: a fault, no agent, or one. -/
def prepared : Ending → Except Fault (Option Prepared)
  | idle => .ok none
  | refused fault => .error fault
  | unloaded _ fault => .error fault
  | unwritable agent _ => .ok (some agent)
  | called agent => .ok (some agent)

/-- The agent that is called. -/
def agent? : Ending → Option Prepared
  | called agent => some agent
  | _ => none

end Ending

/-- What an agent is given: the bytes of its options, and the two words of the host. -/
def argumentsFor (agent : Prepared) (vm reserved : UInt64) : Arguments :=
  ⟨Utf8.encode agent.plan.options.render, vm, reserved⟩

/-- What an agent returns. -/
def codeOf (m : Machine) (agent : Prepared) (vm reserved : UInt64) : Int32 :=
  m.agentCode agent.library.entry.address (argumentsFor agent vm reserved)

namespace Ending

/-- What the host is told. -/
def code (m : Machine) (vm reserved : UInt64) : Ending → Int32
  | called agent => codeOf m agent vm reserved
  | _ => ok

/-- The last event. -/
def lastEvent (m : Machine) (vm reserved : UInt64) : Ending → Event
  | idle => ⟨.info, Target.launch, "No " ++ Config.configPathKey ++ " in agent options, nothing to chain"⟩
  | refused fault => ⟨.error, Target.launch, "Bootstrap aborted: " ++ fault.message⟩
  | unloaded _ fault => ⟨.error, Target.launch, "Bootstrap aborted: " ++ fault.message⟩
  | unwritable _ fault => ⟨.error, Target.launch, "Bootstrap aborted: " ++ fault.message⟩
  | called agent =>
    ⟨.info, Target.launch, "Native agent returned " ++ toString (codeOf m agent vm reserved).toInt⟩

/-- What is announced before the call: the options if that is expected, and then the agent. -/
def announcements (expects : Expectation) : Ending → List Event
  | called agent =>
    (if expects .debug Target.launch then
      [⟨.debug, Target.launch,
        "Chaining to " ++ agent.plan.agentPath.shown ++ " with options: " ++ agent.plan.options.render⟩]
    else []) ++
    [⟨.info, Target.launch,
      "Native agent loaded from " ++ agent.library.path.shown ++ ", calling " ++ agent.library.symbol⟩]
  | _ => []

/-- The call of the agent. -/
def call? (vm reserved : UInt64) (ending : Ending) : Option Call :=
  ending.agent?.map fun agent => ⟨agent.library, argumentsFor agent vm reserved⟩

/-- What is done to find the agent. -/
def search (loader : Loader) (ending : Ending) : List Deed :=
  match ending.sought? with
  | none => []
  | some plan => (loader.load plan.agentPath).deeds

end Ending

/-- The plan that a launch makes, as far as the ending shows it. -/
theorem Ends.sought?_eq_some_iff (h : Ends m loader text ending) (plan : Plan) :
    ending.sought? = some plan ↔ (Plan.ofOptionString m text).answer = .ok (some plan) := by
  cases h with
  | idle hplan => simp [Ending.sought?, hplan]
  | refused hplan => simp [Ending.sought?, hplan]
  | unloaded hplan hfind => simp [Ending.sought?, hplan]
  | unwritable hplan hfind hbytes => simp [Ending.sought?, hplan]
  | called hplan hfind hbytes => simp [Ending.sought?, hplan]

/-- An agent is called when there is a plan, its agent is found, and its options hold no NUL. -/
theorem Ends.agent?_eq_some_iff (h : Ends m loader text ending) (agent : Prepared) :
    ending.agent? = some agent ↔
      (Plan.ofOptionString m text).answer = .ok (some agent.plan) ∧
      (loader.find agent.plan.agentPath agentSymbol).2 = .ok agent.library ∧ agent.plan.options.NulFree := by
  constructor
  · intro hagent
    cases h with
    | called hplan hfind hbytes =>
      obtain rfl := Option.some.inj hagent
      exact ⟨hplan, hfind, ((Plan.optionBytes_eq_ok_iff ..).1 hbytes).1⟩
    | _ => cases hagent
  · rintro ⟨hplan, hfind, hfree⟩
    have hbytes := (agent.plan.optionBytes_eq_ok_iff _).2 ⟨hfree, rfl⟩
    rw [h.unique (.called hplan hfind hbytes), Ending.agent?]

/-! ## What a launch does -/

/-- Up to the call, a launch makes its plan and searches for the agent. -/
theorem prepare_of_ends (h : Ends m loader text ending) :
    prepare m loader text = ⟨(Plan.ofOptionString m text).deeds ++ ending.search loader, ending.prepared⟩ := by
  -- the answer of a request is the one that the loader gives
  have hanswer (path : Path) : (loader.load path).answer = (loader.find path agentSymbol).2 := rfl
  cases h with
  | idle hplan =>
    rw [prepare, Script.andThen_of_ok hplan]
    rfl
  | refused hplan =>
    rw [prepare, Script.andThen_of_error hplan, Ending.search, Ending.sought?, List.append_nil]
    rfl
  | unloaded hplan hfind =>
    rw [prepare, Script.andThen_of_ok hplan]
    simp only [Script.andThen_of_error ((hanswer _).trans hfind)]
    rfl
  | unwritable hplan hfind hbytes =>
    rw [prepare, Script.andThen_of_ok hplan]
    simp only [Script.andThen_of_ok ((hanswer _).trans hfind), Script.deeds_pure, List.append_nil]
    rfl
  | called hplan hfind hbytes =>
    rw [prepare, Script.andThen_of_ok hplan]
    simp only [Script.andThen_of_ok ((hanswer _).trans hfind), Script.deeds_pure, List.append_nil]
    rfl

/-- An agent that is handed its options is announced and called, and its return is reported. -/
theorem deeds_handOver (agent : Prepared) (vm reserved : UInt64) (expects : Expectation) :
    (handOver m expects agent (Utf8.encode agent.plan.options.render) vm reserved).deeds =
      ((Ending.called agent).announcements expects).map .report ++
        (((Ending.called agent).call? vm reserved).toList.map .call ++
          [.report ((Ending.called agent).lastEvent m vm reserved)]) := by
  cases hexpects : expects .debug Target.launch <;>
    simp [handOver, Script.offer, hexpects, Ending.announcements, Ending.call?, Ending.agent?, Ending.lastEvent,
      argumentsFor, codeOf, Script.report, Script.perform]

/-- A launch makes its plan, searches for the agent, announces and calls it, and reports how it ended. -/
theorem deeds_launch (h : Ends m loader text ending) (vm reserved : UInt64) (expects : Expectation) :
    (launch m loader text vm reserved expects).deeds =
      .setVerbosity (levelText text) :: ((Plan.ofOptionString m text).deeds ++ ending.search loader ++
        (ending.announcements expects).map .report) ++
        ((ending.call? vm reserved).toList.map .call ++ [.report (ending.lastEvent m vm reserved)]) := by
  rw [launch, Script.deeds_bind, Script.deeds_perform, run, Script.deeds_bind, prepare_of_ends h]
  cases h with
  | idle hplan => simp [Ending.prepared, Ending.announcements, Ending.call?, Ending.agent?, Ending.lastEvent]
  | refused hplan => simp [Ending.prepared, abort, Ending.announcements, Ending.call?, Ending.agent?, Ending.lastEvent]
  | unloaded hplan hfind =>
    simp [Ending.prepared, abort, Ending.announcements, Ending.call?, Ending.agent?, Ending.lastEvent]
  | unwritable hplan hfind hbytes =>
    simp [Ending.prepared, hbytes, abort, Ending.announcements, Ending.call?, Ending.agent?, Ending.lastEvent]
  | called hplan hfind hbytes =>
    simp only [Ending.prepared, hbytes]
    rw [((Plan.optionBytes_eq_ok_iff ..).1 hbytes).2, deeds_handOver]
    simp only [List.nil_append, List.cons_append, List.append_assoc]

/-- The host is told what the agent returned, or that all is well. -/
theorem answer_launch (h : Ends m loader text ending) (vm reserved : UInt64) (expects : Expectation) :
    (launch m loader text vm reserved expects).answer = ending.code m vm reserved := by
  rw [launch, Script.answer_bind, run, Script.answer_bind, prepare_of_ends h]
  cases h with
  | idle hplan => rfl
  | refused hplan => rfl
  | unloaded hplan hfind => rfl
  | unwritable hplan hfind hbytes =>
    simp only [Ending.prepared, hbytes]
    rfl
  | called hplan hfind hbytes =>
    simp only [Ending.prepared, hbytes]
    rw [((Plan.optionBytes_eq_ok_iff ..).1 hbytes).2]
    rfl

/-! ## Requests and calls -/

theorem calls_of_call (call? : Option Call) : (call?.toList.map Deed.call).filterMap Deed.call? = call?.toList := by
  cases call? <;> rfl

theorem events_of_call (call? : Option Call) : (call?.toList.map Deed.call).filterMap Deed.event? = [] := by
  cases call? <;> rfl

/-- Of what a launch does, the search and the call of the agent are left when the reports are dropped. -/
theorem filterMap_launch {β : Type} (h : Ends m loader text ending) (vm reserved : UInt64) (expects : Expectation)
    {f : Deed → Option β} (hverbosity : ∀ text, f (.setVerbosity text) = none)
    (hreport : ∀ e, f (.report e) = none) :
    (launch m loader text vm reserved expects).deeds.filterMap f =
      (ending.search loader).filterMap f ++ (ending.call? vm reserved).toList.filterMap fun call => f (.call call) := by
  have hplan : (Plan.ofOptionString m text).deeds.filterMap f = [] :=
    (Plan.reportsFrom_ofOptionString m text).filterMap_eq_nil hreport
  rw [deeds_launch h, List.cons_append, List.filterMap_cons_none (hverbosity _)]
  simp [hplan, hreport, List.filterMap_map]

/-- Searching an agent is requesting it; the rest is what the loader reports. -/
theorem filterMap_search {β : Type} (loader : Loader) (ending : Ending) {f : Deed → Option β}
    (hreport : ∀ e, f (.report e) = none) :
    (ending.search loader).filterMap f =
      (ending.sought?.bind fun plan => f (.request plan.agentPath agentSymbol)).toList := by
  have hevents (events : List Event) : (events.map Deed.report).filterMap f = [] := by
    rw [List.filterMap_map, List.filterMap_eq_nil_iff]
    intro e _
    exact hreport e
  rw [Ending.search]
  cases ending.sought? with
  | none => rfl
  | some plan =>
    change (Deed.request plan.agentPath agentSymbol :: _).filterMap f = _
    rw [List.filterMap_cons, hevents]
    cases hf : f (.request plan.agentPath agentSymbol) <;> simp [hf]

/-- The agent of the plan is requested, and nothing else. -/
theorem requests_launch (h : Ends m loader text ending) (vm reserved : UInt64) (expects : Expectation) :
    (launch m loader text vm reserved expects).requests =
      (ending.sought?.map fun plan => (plan.agentPath, agentSymbol)).toList := by
  have hcall : ((ending.call? vm reserved).toList.filterMap fun call => Deed.request? (.call call)) = [] := by
    cases ending.call? vm reserved <;> rfl
  rw [Script.requests, filterMap_launch h vm reserved expects (fun _ => rfl) (fun _ => rfl),
    filterMap_search loader ending (fun _ => rfl), hcall, List.append_nil]
  cases ending.sought? <;> rfl

/-- The agent that was prepared is called, and nothing else. -/
theorem calls_launch (h : Ends m loader text ending) (vm reserved : UInt64) (expects : Expectation) :
    (launch m loader text vm reserved expects).calls = (ending.call? vm reserved).toList := by
  have hsearch : (ending.search loader).filterMap Deed.call? = [] := by
    rw [filterMap_search loader ending (fun _ => rfl)]
    cases ending.sought? <;> rfl
  rw [Script.calls, filterMap_launch h vm reserved expects (fun _ => rfl) (fun _ => rfl), hsearch, List.nil_append]
  cases ending.call? vm reserved <;> rfl

end Launch

end AgentRelay
