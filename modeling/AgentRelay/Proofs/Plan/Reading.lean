import AgentRelay.Plan
import AgentRelay.Proofs.Config.Loading

set_option autoImplicit false

/-!
# From an option string to a plan

The way to a plan leads through the options of the host and the configuration that they name.  `Configured` says that
both were read; then the plan is the one of `Plan.ofParts` (`ofOptionString_eq_some_iff`).

Nothing on this way is asked of a loader, and all events come from the reading of the configuration
(`reportsFrom_ofOptionString`).
-/

namespace AgentRelay

variable {m : Machine} {text configPath : String} {host : Options} {config : Config} {fault : Fault}

/-! ## Options and configuration, both read -/

/-- The options of the host were read, they name a configuration, and it was loaded. -/
structure Configured (m : Machine) (text : String) (host : Options) (config : Config) : Prop where
  parsed : Options.parse text = .ok host
  loaded : ∃ configPath, host.get? Config.configPathKey = some configPath ∧
    (Config.load m (.ofString configPath)).answer = .ok config

/-- A machine with a single file, without a home directory and without libraries, whose agents all return one code. -/
def Machine.ofFile (path contents : String) (code : Int32) : Machine where
  home := none
  read p := if p = .ofString path then .ok (Utf8.encode contents) else .error .notFound
  linker := ⟨fun _ => .error "no such library"⟩
  agentCode _ _ := code

/-! ## Plans -/

namespace Plan

/-- A malformed option string has no plan. -/
theorem ofOptionString_of_malformed (h : Options.parse text = .error fault) :
    (ofOptionString m text).answer = .error fault := by
  rw [ofOptionString, h, Script.pure_error_andThen, Script.answer_pure]

/-- Options that name no configuration need no plan. -/
theorem ofOptionString_of_unnamed (h : Options.parse text = .ok host)
    (hget : host.get? Config.configPathKey = none) : (ofOptionString m text).answer = .ok none := by
  rw [ofOptionString, h, Script.pure_ok_andThen]
  simp only [hget, Script.answer_pure]

/-- Otherwise the plan is made of the options and of the configuration that they name. -/
theorem ofOptionString_of_named (h : Options.parse text = .ok host)
    (hget : host.get? Config.configPathKey = some configPath) :
    (ofOptionString m text).answer =
      (Config.load m (.ofString configPath)).answer.bind fun config => (ofParts m host config).map some := by
  rw [ofOptionString, h, Script.pure_ok_andThen]
  simp only [hget]
  cases hload : (Config.load m (.ofString configPath)).answer with
  | error fault => rw [Script.andThen_of_error hload, Except.bind]
  | ok config => rw [Script.andThen_of_ok hload, Except.bind, Script.answer_pure]

/-- There is a plan when options and configuration were read, and it is the plan for them. -/
theorem ofOptionString_eq_some_iff (m : Machine) (text : String) (plan : Plan) :
    (ofOptionString m text).answer = .ok (some plan) ↔
      ∃ host config, Configured m text host config ∧ ofParts m host config = .ok plan := by
  constructor
  · intro h
    cases hparse : Options.parse text with
    | error fault =>
      rw [ofOptionString_of_malformed hparse] at h
      cases h
    | ok host =>
      cases hget : host.get? Config.configPathKey with
      | none =>
        rw [ofOptionString_of_unnamed hparse hget] at h
        cases h
      | some configPath =>
        rw [ofOptionString_of_named hparse hget] at h
        cases hload : (Config.load m (.ofString configPath)).answer with
        | error fault =>
          rw [hload] at h
          cases h
        | ok config =>
          rw [hload] at h
          refine ⟨host, config, ⟨hparse, configPath, hget, hload⟩, ?_⟩
          cases hplan : ofParts m host config with
          | error fault => simp [Except.bind, Except.map, hplan] at h
          | ok plan' => simpa [Except.bind, Except.map, hplan] using h
  · rintro ⟨host, config, hconfigured, hplan⟩
    obtain ⟨configPath, hget, hload⟩ := hconfigured.loaded
    rw [ofOptionString_of_named hconfigured.parsed hget, hload, Except.bind, hplan, Except.map]

/-- Making a plan reports what is read and does nothing else. -/
theorem reportsFrom_ofOptionString (m : Machine) (text : String) :
    (ofOptionString m text).ReportsFrom Target.config := by
  refine (Script.reportsFrom_pure _ _).andThen fun host => ?_
  split
  · exact Script.reportsFrom_pure _ _
  · refine (Config.reportsFrom_load m _).andThen fun config => ?_
    exact Script.reportsFrom_pure _ _

theorem requests_ofOptionString (m : Machine) (text : String) : (ofOptionString m text).requests = [] :=
  (reportsFrom_ofOptionString m text).filterMap_eq_nil fun _ => rfl

end Plan

end AgentRelay
