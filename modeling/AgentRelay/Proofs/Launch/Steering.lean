import AgentRelay.Proofs.Launch.Run

set_option autoImplicit false

/-!
# What the host can steer

Host and configuration share one space of keys, so the options of a host may set the keys that say which agent is
loaded.  They do so in vain: the path of the agent is read off the configuration before anything is merged
(`ofParts_agentPath_or_fault`), and in the merged options the configuration wins (`get?_merged_of_configured`).

What is left to the host is the choice of the configuration.  Two hosts that choose the same one get the same agent
(`steered_by_configPath`).
-/

namespace AgentRelay

variable {m : Machine} {loader : Loader} {text text' configPath : String} {host host' : Options} {config : Config}

/-! ## Two hosts, one configuration -/

namespace Plan

/-- What the configuration sets, and the path of the agent's own library, are worth the same for every host. -/
theorem get?_merged_of_configured (host host' : Options) (written : String) {configured : Options} {key : String}
    (hkey : key = Config.corePathKey ∨ key ∈ configured.keys) :
    (merged host written configured).get? key = (merged host' written configured).get? key := by
  rw [get?_merged, get?_merged]
  rcases hkey with rfl | hmem
  · rw [if_pos rfl, if_pos rfl]
  · cases hget : configured.get? key with
    | none => exact absurd hmem ((configured.get?_eq_none_iff key).1 hget)
    | some value => rfl

/-- For every host there is a plan with the configured path of the agent, or for every host there is none, for the same
reason. -/
theorem ofParts_agentPath_or_fault (m : Machine) (config : Config) :
    (∃ fault, ∀ host, ofParts m host config = .error fault) ∨
    ∃ written path, config.options.get? Config.agentPathKey = some written ∧
      ∀ host, ofParts m host config = .ok ⟨path, merged host written config.options⟩ := by
  cases hpath : config.agentPath m with
  | error fault =>
    refine .inl ⟨fault, fun host => ?_⟩
    rw [ofParts, hpath]
  | ok path =>
    obtain ⟨written, hwritten, hresolve⟩ := (Config.agentPath_eq_ok_iff ..).1 hpath
    refine .inr ⟨written, path, hwritten, fun host => ?_⟩
    rw [ofParts_eq_ok_iff]
    exact ⟨written, hwritten, hresolve, rfl⟩

end Plan

/-- Two option strings that name the same configuration come to the same fault, or to plans that differ in the options
of the hosts alone. -/
theorem Plan.ofOptionString_of_same_named (hparse : Options.parse text = .ok host)
    (hparse' : Options.parse text' = .ok host') (hnamed : host.get? Config.configPathKey = some configPath)
    (hnamed' : host'.get? Config.configPathKey = some configPath) (m : Machine) :
    (∃ fault, (ofOptionString m text).answer = .error fault ∧ (ofOptionString m text').answer = .error fault) ∨
    ∃ config written path, (Config.load m (.ofString configPath)).answer = .ok config ∧
      config.options.get? Config.agentPathKey = some written ∧
      (ofOptionString m text).answer = .ok (some ⟨path, merged host written config.options⟩) ∧
      (ofOptionString m text').answer = .ok (some ⟨path, merged host' written config.options⟩) := by
  rw [ofOptionString_of_named hparse hnamed, ofOptionString_of_named hparse' hnamed']
  cases (Config.load m (.ofString configPath)).answer with
  | error fault => exact .inl ⟨fault, rfl, rfl⟩
  | ok config =>
    simp only [Except.bind]
    rcases ofParts_agentPath_or_fault m config with ⟨fault, hparts⟩ | ⟨written, path, hwritten, hparts⟩
    · rw [hparts host, hparts host']
      exact .inl ⟨fault, rfl, rfl⟩
    · rw [hparts host, hparts host']
      exact .inr ⟨config, written, path, rfl, hwritten, rfl, rfl⟩

/-! ## What is asked of a loader -/

/-- Preparing a plan asks for its agent. -/
theorem requests_prepare_of_plan {plan : Plan} (hplan : (Plan.ofOptionString m text).answer = .ok (some plan))
    (loader : Loader) : (prepare m loader text).requests = [(plan.agentPath, agentSymbol)] := by
  obtain ⟨ending, hends⟩ := Launch.Ends.exists m loader text
  have hsought : ending.sought? = some plan := (hends.sought?_eq_some_iff plan).2 hplan
  rw [Script.requests, Launch.prepare_of_ends hends, List.filterMap_append,
    Launch.filterMap_search loader ending fun _ => rfl, hsought]
  change (Plan.ofOptionString m text).requests ++ _ = _
  rw [Plan.requests_ofOptionString]
  rfl

/-- Without a plan nothing is asked for. -/
theorem requests_prepare_of_fault {fault : Fault} (hplan : (Plan.ofOptionString m text).answer = .error fault)
    (loader : Loader) : (prepare m loader text).requests = [] := by
  rw [prepare, Script.andThen_of_error hplan]
  exact Plan.requests_ofOptionString m text

/-! ## Two hosts that name the same configuration -/

/-- Two option strings that name the same configuration come to the same fault, or to plans for the same agent.  Then
every loader is asked for the same symbol of the same library, and the plans agree on the path of the agent's own
library and on all keys of the configuration, whatever the two hosts say about these keys. -/
theorem steered_by_configPath (hparse : Options.parse text = .ok host) (hparse' : Options.parse text' = .ok host')
    (hnamed : host.get? Config.configPathKey = some configPath)
    (hnamed' : host'.get? Config.configPathKey = some configPath) (m : Machine) :
    (∃ fault, (Plan.ofOptionString m text).answer = .error fault ∧
      (Plan.ofOptionString m text').answer = .error fault ∧
      ∀ loader : Loader, (prepare m loader text).requests = [] ∧ (prepare m loader text').requests = []) ∨
    ∃ plan plan' config, (Plan.ofOptionString m text).answer = .ok (some plan) ∧
      (Plan.ofOptionString m text').answer = .ok (some plan') ∧
      plan.agentPath = plan'.agentPath ∧
      (∀ loader : Loader, (prepare m loader text).requests = [(plan.agentPath, agentSymbol)] ∧
        (prepare m loader text').requests = [(plan.agentPath, agentSymbol)]) ∧
      (Config.load m (.ofString configPath)).answer = .ok config ∧
      Config.agentPathKey ∈ config.options.keys ∧
      ∀ key, key = Config.corePathKey ∨ key ∈ config.options.keys →
        plan.options.get? key = plan'.options.get? key := by
  rcases Plan.ofOptionString_of_same_named hparse hparse' hnamed hnamed' m with
    ⟨fault, hplan, hplan'⟩ | ⟨config, written, path, hload, hwritten, hplan, hplan'⟩
  · refine .inl ⟨fault, hplan, hplan', fun loader => ?_⟩
    exact ⟨requests_prepare_of_fault hplan loader, requests_prepare_of_fault hplan' loader⟩
  · refine .inr ⟨_, _, config, hplan, hplan', rfl, fun loader => ?_, hload, ?_, fun key hkey => ?_⟩
    · exact ⟨requests_prepare_of_plan hplan loader, requests_prepare_of_plan hplan' loader⟩
    · exact Options.mem_keys_of_get? hwritten
    · exact Plan.get?_merged_of_configured host host' written hkey

/-- A host that sets the path of the agent and the path of its library gets the agent of the configuration, and both
keys as the configuration has them. -/
theorem steered_by_configPath_overridden :
    ∃ plan plan', (Plan.ofOptionString Launch.pathOnly "bootstrapConfigPath=b.conf").answer = .ok (some plan) ∧
      (Plan.ofOptionString Launch.pathOnly "agentPath=/b,coreLibPath=/c,bootstrapConfigPath=b.conf").answer =
        .ok (some plan') ∧
      plan'.agentPath = .ofString "/a" ∧
      plan'.options.get? Config.agentPathKey = some "/a" ∧ plan'.options.get? Config.corePathKey = some "/a" ∧
      ∀ loader : Loader, (prepare Launch.pathOnly loader
        "agentPath=/b,coreLibPath=/c,bootstrapConfigPath=b.conf").requests = [(.ofString "/a", agentSymbol)] := by
  have hparse : Options.parse "bootstrapConfigPath=b.conf" = .ok (.ofPairs [("bootstrapConfigPath", "b.conf")]) := by
    decide +kernel
  have hparse' : Options.parse "agentPath=/b,coreLibPath=/c,bootstrapConfigPath=b.conf" =
      .ok (.ofPairs [("agentPath", "/b"), ("coreLibPath", "/c"), ("bootstrapConfigPath", "b.conf")]) := by
    decide +kernel
  rcases steered_by_configPath hparse hparse' (by decide +kernel : _ = some "b.conf") (by decide +kernel)
    Launch.pathOnly with ⟨fault, hfault, _⟩ | ⟨plan, plan', config, hplan, hplan', hpath, hrequests, _, hkey, hagree⟩
  · rw [Launch.ofOptionString_pathOnly] at hfault
    cases hfault
  · have hpathOnly : plan = Launch.pathOnlyPlan := by
      rw [Launch.ofOptionString_pathOnly] at hplan
      exact (Option.some.inj (Except.ok.inj hplan)).symm
    refine ⟨plan, plan', hplan, hplan', ?_, ?_, ?_, fun loader => ?_⟩
    · rw [← hpath, hpathOnly]
      rfl
    · rw [← hagree _ (.inr hkey), hpathOnly]
      decide +kernel
    · rw [← hagree _ (.inl rfl), hpathOnly]
      decide +kernel
    · rw [(hrequests loader).2, hpathOnly]
      rfl

end AgentRelay
