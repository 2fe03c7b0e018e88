import AgentRelay.Launch
import AgentRelay.Proofs.Plan.Delivery

set_option autoImplicit false

/-!
# Plans that are planned again

The options of a plan are an option string like any other, so they can be handed to a relay once more.  They name a
configuration, they hold all its keys and the path of the agent's own library, and what they hold has the values that
a merge would set.  So a second merge finds nothing left to do (`merged_merged`).

Two things have to be asked of the configuration: that its options survive as text, and that it does not name another
configuration.  Then the second relay makes the same plan in the same way (`ofOptionString_render`).
-/

namespace AgentRelay.Plan

variable {m : Machine} {text : String} {host host' : Options} {config : Config} {plan : Plan}

/-! ## A second merge -/

/-- The merged options have the keys of all three sources and no others. -/
theorem mem_keys_merged_iff (host : Options) (written : String) (configured : Options) (key : String) :
    key ∈ (merged host written configured).keys ↔
      key ∈ host.keys ∨ key = Config.corePathKey ∨ key ∈ configured.keys := by
  rw [merged, Options.keys_merge, Options.keys_insert]
  by_cases hcore : Config.corePathKey ∈ host.keys
  · have himp : key = Config.corePathKey → key ∈ host.keys := fun h => h ▸ hcore
    simp only [if_pos hcore, List.mem_append, List.mem_filter, decide_eq_true_eq]
    tauto
  · simp only [if_neg hcore, List.mem_append, List.mem_filter, decide_eq_true_eq, List.mem_singleton]
    tauto

/-- What was merged already is not changed by the same merge. -/
theorem merged_merged (host : Options) (written : String) (configured : Options) :
    merged (merged host written configured) written configured = merged host written configured := by
  have hcore : Config.corePathKey ∈ (merged host written configured).keys :=
    (mem_keys_merged_iff ..).2 (.inr (.inl rfl))
  have hconfigured : ∀ key ∈ configured.keys, key ∈ (merged host written configured).keys :=
    fun key hkey => (mem_keys_merged_iff ..).2 (.inr (.inr hkey))
  apply Options.eq_of_keys_of_get?
  · -- no key is new
    have hnew : configured.keys.filter (fun key =>
        key ∉ (merged host written configured).keys ∧ key ≠ Config.corePathKey) = [] := by
      rw [List.filter_eq_nil_iff]
      intro key hkey
      simp [hconfigured key hkey]
    rw [keys_merged, if_pos hcore, hnew, List.append_nil, List.append_nil]
  · intro key
    rw [get?_merged, get?_merged]
    by_cases h : key = Config.corePathKey
    · simp [h]
    · simp [h, ← Option.or_assoc]

/-! ## A second relay -/

/-- The merged options name the configuration that the host named, unless the configuration names another one. -/
theorem get?_configPathKey_merged (written : String)
    (h : config.options.get? Config.configPathKey = none ∨
      config.options.get? Config.configPathKey = host.get? Config.configPathKey) :
    (merged host written config.options).get? Config.configPathKey = host.get? Config.configPathKey := by
  have hne : Config.configPathKey ≠ Config.corePathKey := by decide
  rw [get?_merged, if_neg hne]
  rcases h with hnone | hsame
  · rw [hnone, Option.none_or]
  · rw [hsame, Option.or_self]

/-- Making a plan is loading the configuration that is named, and then making the plan for it. -/
theorem ofOptionString_eq_of_configured (hconfigured : Configured m text host config) :
    ∃ configPath, host.get? Config.configPathKey = some configPath ∧
      ofOptionString m text =
        ⟨(Config.load m (.ofString configPath)).deeds, (ofParts m host config).map some⟩ := by
  obtain ⟨configPath, hnamed, hload⟩ := hconfigured.loaded
  refine ⟨configPath, hnamed, ?_⟩
  rw [ofOptionString, hconfigured.parsed, Script.pure_ok_andThen]
  simp only [hnamed]
  rw [Script.andThen_of_ok hload, Script.deeds_pure, List.append_nil, Script.answer_pure]

/-- Option strings whose options name the same configuration, and come to the same plan with it, are planned in the same
way. -/
theorem ofOptionString_congr {text' : String} (hconfigured : Configured m text host config)
    (hparse : Options.parse text' = .ok host')
    (hnamed : host'.get? Config.configPathKey = host.get? Config.configPathKey)
    (hparts : ofParts m host' config = ofParts m host config) : ofOptionString m text' = ofOptionString m text := by
  obtain ⟨configPath, hpath, hload⟩ := hconfigured.loaded
  have hconfigured' : Configured m text' host' config := ⟨hparse, configPath, hnamed.trans hpath, hload⟩
  obtain ⟨path, hget, hscript⟩ := ofOptionString_eq_of_configured hconfigured
  obtain ⟨path', hget', hscript'⟩ := ofOptionString_eq_of_configured hconfigured'
  have hsame : path' = path := Option.some.inj (hget'.symm.trans (hnamed.trans hget))
  rw [hscript, hscript', hparts, hsame]

/-- The options of a plan, handed to a relay again, lead to the same plan, and to the same agent with every loader.  This
asks of the configuration that it holds no delimiter and that it does not name another configuration than the host. -/
theorem ofOptionString_render (hplan : (ofOptionString m text).answer = .ok (some plan))
    (hconfigured : Configured m text host config)
    (hfree : ∀ entry ∈ config.options.entries,
      ',' ∉ entry.1.toList ∧ '=' ∉ entry.1.toList ∧ ',' ∉ entry.2.toList)
    (hnamed : config.options.get? Config.configPathKey = none ∨
      config.options.get? Config.configPathKey = host.get? Config.configPathKey) :
    (ofOptionString m plan.options.render).answer = .ok (some plan) ∧
      ∀ loader : Loader, prepare m loader plan.options.render = prepare m loader text := by
  obtain ⟨_, _, hscript⟩ := ofOptionString_eq_of_configured hconfigured
  have hparts : ofParts m host config = .ok plan := by
    rw [hscript] at hplan
    cases h : ofParts m host config with
    | error fault => simp [h, Except.map] at hplan
    | ok plan' => simpa [h, Except.map] using hplan
  obtain ⟨written, hwritten, hresolve, hoptions⟩ := (ofParts_eq_ok_iff ..).1 hparts
  -- the options survive as text
  have hparse : Options.parse plan.options.render = .ok plan.options := by
    refine (Options.parseWith_renderWith_iff Options.toList_comma (by decide) plan.options).2 ?_
    have hhost : host.Separable ',' := Options.separable_of_parseWith Options.toList_comma hconfigured.parsed
    rw [hoptions]
    exact (separable_merged_iff hhost hwritten).2 hfree
  -- they name the same configuration, and the merge finds nothing left to do
  have hsame : plan.options.get? Config.configPathKey = host.get? Config.configPathKey := by
    rw [hoptions]
    exact get?_configPathKey_merged written hnamed
  have hagain : ofParts m plan.options config = ofParts m host config := by
    rw [hparts, ofParts_eq_ok_iff]
    refine ⟨written, hwritten, hresolve, ?_⟩
    rw [hoptions, merged_merged]
  have heq : ofOptionString m plan.options.render = ofOptionString m text :=
    ofOptionString_congr hconfigured hparse hsame hagain
  refine ⟨heq ▸ hplan, fun loader => ?_⟩
  rw [prepare, prepare, heq]

/-- A configuration that sets all three keys of the relay itself, one of them against the host. -/
theorem ofOptionString_render_overridden :
    let m : Machine := .ofFile "b.conf" "coreLibPath=/c\nagentPath=/a\nbootstrapConfigPath=b.conf\n" 0
    let plan : Plan := ⟨.ofString "/a", .ofPairs
      [("agentPath", "/a"), ("bootstrapConfigPath", "b.conf"), ("x", ""), ("coreLibPath", "/c")]⟩
    (ofOptionString m "agentPath=/b,,bootstrapConfigPath=b.conf,x=").answer = .ok (some plan) ∧
      (ofOptionString m "agentPath=/a,bootstrapConfigPath=b.conf,x=,coreLibPath=/c").answer = .ok (some plan) := by
  intro m plan
  have hplan : (ofOptionString m "agentPath=/b,,bootstrapConfigPath=b.conf,x=").answer = .ok (some plan) := by
    decide +kernel
  have hconfigured : Configured m "agentPath=/b,,bootstrapConfigPath=b.conf,x="
      (.ofPairs [("agentPath", "/b"), ("bootstrapConfigPath", "b.conf"), ("x", "")])
      ⟨some (.ofString "b.conf"),
        .ofPairs [("coreLibPath", "/c"), ("agentPath", "/a"), ("bootstrapConfigPath", "b.conf")]⟩ :=
    ⟨by decide +kernel, "b.conf", by decide +kernel, by decide +kernel⟩
  have hrender : plan.options.render = "agentPath=/a,bootstrapConfigPath=b.conf,x=,coreLibPath=/c" := by
    decide +kernel
  obtain ⟨hagain, _⟩ := ofOptionString_render hplan hconfigured (by decide +kernel) (.inr (by decide +kernel))
  exact ⟨hplan, hrender ▸ hagain⟩

end AgentRelay.Plan
