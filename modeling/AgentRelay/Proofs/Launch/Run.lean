import AgentRelay.Proofs.Launch.Ending

set_option autoImplicit false

/-!
# What others see of a launch

Before a subscriber that never fails, the loader, the agent, the host and the subscriber see the following
(`launch_spec`).

* The loader is asked once if the configuration names an agent whose path can be resolved, and else never.
* The agent is called once if it was found and its options hold no NUL, and else never.
* The host is told what the agent returned, or that all is well.
* The last event tells how the launch ended, and no earlier one does.
-/

namespace AgentRelay

/-! ## Terminal events -/

/-- The event tells that a launch has ended: nothing was to be done, it was given up, or the agent returned. -/
def Event.IsTerminal (e : Event) : Prop :=
  e.target = Target.launch ∧
    ((e.level = .info ∧ e.message = "No " ++ Config.configPathKey ++ " in agent options, nothing to chain") ∨
      (e.level = .error ∧ "Bootstrap aborted: ".toList <+: e.message.toList) ∨
      (e.level = .info ∧ "Native agent returned ".toList <+: e.message.toList))

namespace Launch

variable {m : Machine} {loader : Loader} {text : String} {ending : Ending}

/-- The last event of a launch is terminal. -/
theorem isTerminal_lastEvent (m : Machine) (vm reserved : UInt64) (ending : Ending) :
    (ending.lastEvent m vm reserved).IsTerminal := by
  cases ending with
  | idle => exact ⟨rfl, .inl ⟨rfl, rfl⟩⟩
  | refused fault => exact ⟨rfl, .inr (.inl ⟨rfl, by simp [Ending.lastEvent]⟩)⟩
  | unloaded plan fault => exact ⟨rfl, .inr (.inl ⟨rfl, by simp [Ending.lastEvent]⟩)⟩
  | unwritable agent fault => exact ⟨rfl, .inr (.inl ⟨rfl, by simp [Ending.lastEvent]⟩)⟩
  | called agent => exact ⟨rfl, .inr (.inr ⟨rfl, by simp [Ending.lastEvent]⟩)⟩

/-- An event of another target is not terminal. -/
theorem not_isTerminal_of_target {e : Event} (h : e.target ≠ Target.launch) : ¬ e.IsTerminal :=
  fun hterminal => h hterminal.1

/-- The announcements before the call are not terminal. -/
theorem not_isTerminal_of_mem_announcements {expects : Expectation} {e : Event}
    (he : e ∈ ending.announcements expects) : ¬ e.IsTerminal := by
  cases ending with
  | called agent =>
    rintro ⟨_, hterminal⟩
    rcases List.mem_append.1 he with hshown | hloaded
    · -- no terminal event has the level of the announcement that shows the options
      split at hshown
      · obtain rfl := List.mem_singleton.1 hshown
        simp at hterminal
      · cases hshown
    · -- and no terminal message has the second and the fourteenth letter of the other one
      obtain rfl := List.mem_singleton.1 hloaded
      simp only [String.toList_append, List.append_assoc] at hterminal
      rcases hterminal with ⟨_, hidle⟩ | ⟨hlevel, _⟩ | ⟨_, rest, hreturned⟩
      · have hletter := congrArg (fun message : String => message.toList[1]?) hidle
        simp at hletter
      · cases hlevel
      · have hletter := congrArg (fun letters : List Char => letters[13]?) hreturned
        simp at hletter
  | _ => cases he

/-- The events of a launch: its last event, and before it none that is terminal, unless the loader reports one. -/
theorem events_launch (h : Ends m loader text ending) (vm reserved : UInt64) (expects : Expectation) :
    ∃ before, (launch m loader text vm reserved expects).events = before ++ [ending.lastEvent m vm reserved] ∧
      ∀ e ∈ before, e.IsTerminal →
        ∃ plan, ending.sought? = some plan ∧ e ∈ (loader.find plan.agentPath agentSymbol).1 := by
  have hannouncements :
      ((ending.announcements expects).map Deed.report).filterMap Deed.event? = ending.announcements expects := by
    rw [List.filterMap_map]
    exact List.filterMap_some
  refine ⟨(Plan.ofOptionString m text).events ++ (ending.search loader).filterMap Deed.event? ++
    ending.announcements expects, ?_, ?_⟩
  · rw [Script.events, deeds_launch h, List.cons_append, List.filterMap_cons_none rfl, List.filterMap_append,
      List.filterMap_append, List.filterMap_append, List.filterMap_append, hannouncements, events_of_call]
    rfl
  · intro e he hterminal
    rcases List.mem_append.1 he with he | hannounced
    · rcases List.mem_append.1 he with hplan | hsearch
      · have htarget := (Plan.reportsFrom_ofOptionString m text).target_of_mem_events hplan
        exact absurd hterminal (not_isTerminal_of_target (by rw [htarget]; decide))
      · rw [Ending.search] at hsearch
        cases hsought : ending.sought? with
        | none => simp [hsought] at hsearch
        | some plan =>
          refine ⟨plan, rfl, ?_⟩
          simpa [hsought, Loader.load, Loader.request, Deed.event?, List.filterMap_map, Function.comp_def]
            using hsearch
    · exact absurd hterminal (not_isTerminal_of_mem_announcements hannounced)

/-! ## The whole launch -/

/-- There is a plan for the options and their configuration, and its agent is found. -/
structure Reached (m : Machine) (loader : Loader) (text : String) (agent : Prepared) : Prop where
  planned : ∃ host config, Configured m text host config ∧ Plan.ofParts m host config = .ok agent.plan
  found : (loader.find agent.plan.agentPath agentSymbol).2 = .ok agent.library

theorem Ends.agent?_eq_some_iff_reached (h : Ends m loader text ending) (agent : Prepared) :
    ending.agent? = some agent ↔ Reached m loader text agent ∧ agent.plan.options.NulFree := by
  rw [h.agent?_eq_some_iff, Plan.ofOptionString_eq_some_iff]
  constructor
  · rintro ⟨hplanned, hfound, hfree⟩
    exact ⟨⟨hplanned, hfound⟩, hfree⟩
  · rintro ⟨⟨hplanned, hfound⟩, hfree⟩
    exact ⟨hplanned, hfound, hfree⟩

/-- The path that is requested is the one that the loaded configuration names. -/
theorem Ends.mem_requests_iff (h : Ends m loader text ending) (vm reserved : UInt64) (expects : Expectation)
    (request : Path × String) :
    request ∈ (launch m loader text vm reserved expects).requests ↔
      ∃ host config path, Configured m text host config ∧ config.agentPath m = .ok path ∧
        request = (path, agentSymbol) := by
  rw [requests_launch h, Option.mem_toList, Option.map_eq_some_iff]
  simp only [h.sought?_eq_some_iff, Plan.ofOptionString_eq_some_iff]
  constructor
  · rintro ⟨plan, ⟨host, config, hconfigured, hplan⟩, rfl⟩
    exact ⟨host, config, plan.agentPath, hconfigured, Plan.agentPath_of_ofParts hplan, rfl⟩
  · rintro ⟨host, config, path, hconfigured, hpath, rfl⟩
    obtain ⟨plan, hplan, rfl⟩ := Plan.ofParts_of_agentPath host hpath
    exact ⟨plan, ⟨host, config, hconfigured, hplan⟩, rfl⟩

/-! ### A launch that goes all the way -/

/-- A loader that finds every symbol, and always at the same place. -/
def finding (entry : EntryPoint) : Loader where
  find path symbol := ([], .ok ⟨path, symbol, entry⟩)

/-- A machine whose configuration holds nothing but the path of an agent, which returns 7. -/
def pathOnly : Machine := .ofFile "b.conf" "agentPath=/a\n" 7

/-- The plan of this machine. -/
def pathOnlyPlan : Plan where
  agentPath := .ofString "/a"
  options := .ofPairs [("bootstrapConfigPath", "b.conf"), ("coreLibPath", "/a"), ("agentPath", "/a")]

theorem ofOptionString_pathOnly :
    (Plan.ofOptionString pathOnly "bootstrapConfigPath=b.conf").answer = .ok (some pathOnlyPlan) := by
  decide +kernel

theorem nulFree_pathOnly : pathOnlyPlan.options.NulFree := by decide +kernel

/-! ### Every launch -/

/-- Before a subscriber that never fails, whatever it expects: what is requested and when, what is called and when,
what the host is told, and how the events end. -/
theorem launch_spec {s : Subscriber} (hs : s.NeverFails) (m : Machine) (loader : Loader) (text : String)
    (vm reserved : UInt64) (expects : Expectation) :
    let run := s.play (launch m loader text vm reserved expects)
    (run.requests.length ≤ 1 ∧
      ∀ request, request ∈ run.requests ↔
        ∃ host config path, Configured m text host config ∧ config.agentPath m = .ok path ∧
          request = (path, agentSymbol)) ∧
    (run.calls ≠ [] ↔ ∃ agent, Reached m loader text agent ∧ agent.plan.options.NulFree) ∧
    (∀ agent, Reached m loader text agent → agent.plan.options.NulFree →
      let arguments : Arguments := ⟨Utf8.encode agent.plan.options.render, vm, reserved⟩
      run.calls = [⟨agent.library, arguments⟩] ∧
      run.answer? = some (m.agentCode agent.library.entry.address arguments)) ∧
    (run.calls = [] → run.answer? = some ok) ∧
    ((∀ e, s.hears e = true) →
      ∃ ending before, Ends m loader text ending ∧
        run.events = before ++ [ending.lastEvent m vm reserved] ∧ (ending.lastEvent m vm reserved).IsTerminal ∧
        ∀ e ∈ before, e.IsTerminal →
          ∃ plan, ending.sought? = some plan ∧ e ∈ (loader.find plan.agentPath agentSymbol).1) := by
  intro run
  obtain ⟨ending, hends⟩ := Ends.exists m loader text
  have hrequests : run.requests = (launch m loader text vm reserved expects).requests := Subscriber.requests_play hs _
  have hcalls : run.calls = (ending.call? vm reserved).toList := by
    rw [Subscriber.calls_play hs, calls_launch hends]
  have hanswer : run.answer? = some (ending.code m vm reserved) := by
    rw [Subscriber.answer?_play hs, answer_launch hends]
  refine ⟨⟨?_, fun request => ?_⟩, ?_, fun agent hreached hfree => ?_, fun hnone => ?_, fun hhears => ?_⟩
  · rw [hrequests, requests_launch hends]
    cases ending.sought? <;> simp
  · rw [hrequests]
    exact hends.mem_requests_iff vm reserved expects request
  · simp only [← hends.agent?_eq_some_iff_reached, hcalls, Ending.call?]
    cases ending.agent? <;> simp
  · have hagent := (hends.agent?_eq_some_iff_reached agent).2 ⟨hreached, hfree⟩
    rw [hcalls, hanswer, Ending.call?, hagent]
    refine ⟨rfl, ?_⟩
    cases ending with
    | called agent' =>
      obtain rfl := Option.some.inj hagent
      rfl
    | _ => cases hagent
  · cases ending with
    | called agent =>
      rw [hcalls] at hnone
      cases hnone
    | _ => exact hanswer
  · obtain ⟨before, hevents, hbefore⟩ := events_launch hends vm reserved expects
    refine ⟨ending, before, hends, ?_, isTerminal_lastEvent m vm reserved ending, hbefore⟩
    rw [Subscriber.events_play hs, ← hevents, List.filter_eq_self]
    exact fun e _ => hhears e

/-- The host gets the code of the agent. -/
theorem launch_spec_called :
    let run := Subscriber.allHearing.play
      (launch pathOnly (finding ⟨1, by decide⟩) "bootstrapConfigPath=b.conf" 3 4 Subscriber.allHearing.expects)
    run.calls = [⟨⟨.ofString "/a", agentSymbol, ⟨1, by decide⟩⟩,
      ⟨Utf8.encode "bootstrapConfigPath=b.conf,coreLibPath=/a,agentPath=/a", 3, 4⟩⟩] ∧
    run.answer? = some 7 := by
  have hrun := launch_spec (s := .allHearing) (fun _ _ => rfl) pathOnly (finding ⟨1, by decide⟩)
    "bootstrapConfigPath=b.conf" 3 4 Subscriber.allHearing.expects
  have hplanned := (Plan.ofOptionString_eq_some_iff ..).1 ofOptionString_pathOnly
  obtain ⟨hcalls, hanswer⟩ := hrun.2.2.1 ⟨⟨.ofString "/a", agentSymbol, ⟨1, by decide⟩⟩, pathOnlyPlan⟩
    ⟨hplanned, rfl⟩ nulFree_pathOnly
  exact ⟨hcalls.trans (by decide +kernel), hanswer⟩

end Launch

end AgentRelay
