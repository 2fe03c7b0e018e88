import AgentRelay.Plan
import AgentRelay.Proofs.Options.Lookup

set_option autoImplicit false

/-!
# The options of a plan

Three sources compete for the options of a plan: the host, the path of the agent as it is written, and the
configuration.  For the place of a key the first source decides and for its value the last (`keys_merged` and
`get?_merged`), and both together determine the plan (`ofParts_spec`).

A plan fails only over the path of the agent: the configuration may not have it, and its home directory may be
unknown.
-/

namespace AgentRelay

variable {m : Machine} {host : Options} {config : Config}

/-! ## The path of the agent -/

theorem Options.require_eq_ok_iff (o : Options) (key value : String) :
    o.require key = .ok value ↔ o.get? key = some value := by
  rw [require]
  cases o.get? key <;> simp

/-- The path of the agent is there when the configuration has it and its home directory is known. -/
theorem Config.agentPath_eq_ok_iff (m : Machine) (config : Config) (path : Path) :
    config.agentPath m = .ok path ↔
      ∃ written, config.options.get? agentPathKey = some written ∧ resolve m (.ofString written) = .ok path := by
  simp only [← Options.require_eq_ok_iff, agentPath, writtenAgentPath]
  cases config.options.require agentPathKey with
  | error fault => simp
  | ok written => simp

namespace Plan

/-! ## The options from three sources -/

/-- The options of a plan: what the host gave, the written path of the agent, and the configuration, each over what
stands there before it. -/
def merged (host : Options) (written : String) (configured : Options) : Options :=
  (host.insert Config.corePathKey written).merge configured

/-- A key stands where its first source has it. -/
theorem keys_merged (host : Options) (written : String) (configured : Options) :
    (merged host written configured).keys =
      host.keys ++ (if Config.corePathKey ∈ host.keys then [] else [Config.corePathKey]) ++
        configured.keys.filter fun key => key ∉ host.keys ∧ key ≠ Config.corePathKey := by
  have hinsert : (host.insert Config.corePathKey written).keys =
      host.keys ++ if Config.corePathKey ∈ host.keys then [] else [Config.corePathKey] := by
    rw [Options.keys_insert]
    split <;> simp
  rw [merged, Options.keys_merge, hinsert]
  congr 1
  apply List.filter_congr
  intro key _
  by_cases hcore : Config.corePathKey ∈ host.keys
  · -- a key that the host lacks is no `coreLibPath` if the host has that
    have himp : key ∉ host.keys → key ≠ Config.corePathKey := fun hkey he => hkey (he ▸ hcore)
    by_cases hkey : key ∈ host.keys
    · simp [hkey]
    · simp [hcore, hkey, himp hkey]
  · simp [hcore, not_or]

/-- A key is worth what its last source says. -/
theorem get?_merged (host : Options) (written : String) (configured : Options) (key : String) :
    (merged host written configured).get? key =
      (configured.get? key).or (if key = Config.corePathKey then some written else host.get? key) := by
  rw [merged, Options.get?_merge, Options.get?_insert]

/-! ## The plan -/

/-- The plan for options and a configuration, whenever there is one. -/
theorem ofParts_eq_ok_iff (m : Machine) (host : Options) (config : Config) (plan : Plan) :
    ofParts m host config = .ok plan ↔
      ∃ written, config.options.get? Config.agentPathKey = some written ∧
        Config.resolve m (.ofString written) = .ok plan.agentPath ∧
        plan.options = merged host written config.options := by
  obtain ⟨agentPath, options⟩ := plan
  cases hwritten : config.options.get? Config.agentPathKey with
  | none =>
    have hrequire : config.writtenAgentPath = .error (.missingOption Config.agentPathKey) := by
      rw [Config.writtenAgentPath, Options.require, hwritten]
    simp [ofParts, Config.agentPath, hrequire]
  | some written =>
    have hrequire : config.writtenAgentPath = .ok written := (config.options.require_eq_ok_iff ..).2 hwritten
    cases hpath : Config.resolve m (.ofString written) with
    | error fault => simp [ofParts, Config.agentPath, hrequire, hpath]
    | ok path => simp [ofParts, Config.agentPath, hrequire, hpath, Except.map, merged, eq_comm]

/-- There is a plan when there is a path of the agent, and then the plan has this path. -/
theorem ofParts_of_agentPath {path : Path} (host : Options) (h : config.agentPath m = .ok path) :
    ∃ plan, ofParts m host config = .ok plan ∧ plan.agentPath = path := by
  obtain ⟨written, hwritten, hresolve⟩ := (Config.agentPath_eq_ok_iff ..).1 h
  refine ⟨⟨path, merged host written config.options⟩, ?_, rfl⟩
  rw [ofParts_eq_ok_iff]
  exact ⟨written, hwritten, hresolve, rfl⟩

theorem agentPath_of_ofParts {plan : Plan} (h : ofParts m host config = .ok plan) :
    config.agentPath m = .ok plan.agentPath := by
  obtain ⟨written, hwritten, hresolve, _⟩ := (ofParts_eq_ok_iff ..).1 h
  exact (Config.agentPath_eq_ok_iff ..).2 ⟨written, hwritten, hresolve⟩

/-- When there is a plan, and which one: the keys in the order of their first sources, each with the value of its
last source. -/
theorem ofParts_spec (m : Machine) (host : Options) (config : Config) :
    ((∃ plan, ofParts m host config = .ok plan) ↔
      ∃ written path, config.options.get? Config.agentPathKey = some written ∧
        Config.resolve m (.ofString written) = .ok path) ∧
    ∀ plan, ofParts m host config = .ok plan ↔
      ∃ written, config.options.get? Config.agentPathKey = some written ∧
        Config.resolve m (.ofString written) = .ok plan.agentPath ∧
        plan.options.keys =
          host.keys ++ (if Config.corePathKey ∈ host.keys then [] else [Config.corePathKey]) ++
            config.options.keys.filter (fun key => key ∉ host.keys ∧ key ≠ Config.corePathKey) ∧
        ∀ key, plan.options.get? key =
          (config.options.get? key).or (if key = Config.corePathKey then some written else host.get? key) := by
  constructor
  · constructor
    · rintro ⟨plan, hplan⟩
      obtain ⟨written, hwritten, hresolve, _⟩ := (ofParts_eq_ok_iff ..).1 hplan
      exact ⟨written, plan.agentPath, hwritten, hresolve⟩
    · rintro ⟨written, path, hwritten, hresolve⟩
      have hpath : config.agentPath m = .ok path := (Config.agentPath_eq_ok_iff ..).2 ⟨written, hwritten, hresolve⟩
      obtain ⟨plan, hplan, _⟩ := ofParts_of_agentPath host hpath
      exact ⟨plan, hplan⟩
  · intro plan
    rw [ofParts_eq_ok_iff]
    constructor
    · rintro ⟨written, hwritten, hresolve, hoptions⟩
      refine ⟨written, hwritten, hresolve, ?_, fun key => ?_⟩
      · rw [hoptions, keys_merged]
      · rw [hoptions, get?_merged]
    · rintro ⟨written, hwritten, hresolve, hkeys, hget⟩
      refine ⟨written, hwritten, hresolve, ?_⟩
      apply Options.eq_of_keys_of_get?
      · rw [hkeys, keys_merged]
      · intro key
        rw [hget, get?_merged]

end Plan

end AgentRelay
