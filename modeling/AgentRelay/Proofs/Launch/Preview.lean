import AgentRelay.Proofs.Launch.Run
import AgentRelay.Report

set_option autoImplicit false

/-!
# What a preview says about a launch

A preview and a launch choose the configuration, load it and merge the options each on its own.  For options that
name a configuration the two answers belong together (`preview_foretells`): either both are the same fault, or both
have the same path of the agent and the same options as text.

So a preview predicts what a launch calls and with which bytes (`preview_predicts`).  The launch goes on where the
preview stops: it needs a loader that finds the agent, and options without a NUL.
-/

namespace AgentRelay

variable {m : Machine} {text configPath : String} {host : Options}

/-- The answer of a preview fits the plan of a launch. -/
inductive Foretells : Except CommandFault OptionsReport → Except Fault (Option Plan) → Prop where
  | fault (fault : Fault) : Foretells (.error (.relay fault)) (.error fault)
  | plan {report : OptionsReport} {plan : Plan} :
      report.agentPath = plan.agentPath → report.options = plan.options.render →
      Foretells (.ok report) (.ok (some plan))

namespace Foretells

variable {previewed : Except CommandFault OptionsReport} {planned : Except Fault (Option Plan)}

/-- A report has its plan. -/
theorem exists_plan (h : Foretells previewed planned) {report : OptionsReport} (hreport : previewed = .ok report) :
    ∃ plan, planned = .ok (some plan) ∧
      report.agentPath = plan.agentPath ∧ report.options = plan.options.render := by
  cases h with
  | fault fault => cases hreport
  | plan hpath hoptions =>
    obtain rfl := Except.ok.inj hreport
    exact ⟨_, rfl, hpath, hoptions⟩

/-- A plan has its report. -/
theorem exists_report (h : Foretells previewed planned) {plan : Plan} (hplan : planned = .ok (some plan)) :
    ∃ report, previewed = .ok report ∧
      report.agentPath = plan.agentPath ∧ report.options = plan.options.render := by
  cases h with
  | fault fault => cases hplan
  | plan hpath hoptions =>
    obtain rfl := Option.some.inj (Except.ok.inj hplan)
    exact ⟨_, rfl, hpath, hoptions⟩

/-- Without a report there is one fault on both sides. -/
theorem exists_fault (h : Foretells previewed planned) (hnone : ¬ ∃ report, previewed = .ok report) :
    ∃ fault, previewed = .error (.relay fault) ∧ planned = .error fault := by
  cases h with
  | fault fault => exact ⟨fault, rfl, rfl⟩
  | plan hpath hoptions => exact absurd ⟨_, rfl⟩ hnone

end Foretells

/-- The file that is previewed is the one that the options name. -/
theorem previewSource?_of_named (hnamed : host.get? Config.configPathKey = some configPath) :
    previewSource? m host none = some (.ofString configPath) := by
  simp only [previewSource?, hnamed]

/-- A preview fits the plan, step by step: while the configuration is loaded, and while the options are merged. -/
theorem preview_foretells (hparse : Options.parse text = .ok host)
    (hnamed : host.get? Config.configPathKey = some configPath) :
    Foretells (preview m text none).answer (Plan.ofOptionString m text).answer := by
  rw [Plan.ofOptionString_of_named hparse hnamed]
  simp only [preview, hparse, previewSource?_of_named hnamed, Script.answer_bind]
  cases (Config.load m (.ofString configPath)).answer with
  | error fault => exact .fault fault
  | ok config =>
    cases hplan : Plan.ofParts m host config with
    | error fault =>
      simp only [Except.bind, hplan, Except.map]
      exact .fault fault
    | ok plan =>
      simp only [Except.bind, hplan, Except.map]
      exact .plan rfl rfl

/-- An agent is called only with the bytes of the options of a plan. -/
theorem Launch.exists_plan_of_mem_calls {loader : Loader} {vm reserved : UInt64} {expects : Expectation} {call : Call}
    (hcall : call ∈ (launch m loader text vm reserved expects).calls) :
    ∃ plan, (Plan.ofOptionString m text).answer = .ok (some plan) ∧
      call.arguments.options = Utf8.encode plan.options.render := by
  obtain ⟨ending, hends⟩ := Ends.exists m loader text
  rw [calls_launch hends, Option.mem_toList, Ending.call?, Option.map_eq_some_iff] at hcall
  obtain ⟨agent, hagent, rfl⟩ := hcall
  obtain ⟨hplan, _, _⟩ := (hends.agent?_eq_some_iff agent).1 hagent
  exact ⟨agent.plan, hplan, rfl⟩

/-- A launch whose agent is found calls it unless an option holds a NUL. -/
theorem Launch.calls_ne_nil_iff {plan : Plan} {library : Library} {loader : Loader}
    (hplan : (Plan.ofOptionString m text).answer = .ok (some plan))
    (hfind : (loader.find plan.agentPath agentSymbol).2 = .ok library) (vm reserved : UInt64)
    (expects : Expectation) :
    (launch m loader text vm reserved expects).calls ≠ [] ↔ plan.options.NulFree := by
  obtain ⟨ending, hends⟩ := Ends.exists m loader text
  rw [calls_launch hends, Ending.call?]
  constructor
  · intro hcalls
    cases hagent : ending.agent? with
    | none => simp [hagent] at hcalls
    | some agent =>
      obtain ⟨hplan', _, hfree⟩ := (hends.agent?_eq_some_iff agent).1 hagent
      rw [hplan'] at hplan
      obtain rfl := Option.some.inj (Except.ok.inj hplan)
      exact hfree
  · intro hfree
    rw [(hends.agent?_eq_some_iff ⟨library, plan⟩).2 ⟨hplan, hfind, hfree⟩]
    simp

/-- For options that name a configuration, a preview succeeds exactly when there is a plan, and then with its path and
its options; otherwise both fail for the same reason.  And what a launch calls, it calls with the previewed bytes,
whatever events are expected. -/
theorem preview_predicts (hparse : Options.parse text = .ok host)
    (hnamed : host.get? Config.configPathKey = some configPath) :
    ((∃ report, (preview m text none).answer = .ok report) ↔
      ∃ plan, (Plan.ofOptionString m text).answer = .ok (some plan)) ∧
    (∀ report plan, (preview m text none).answer = .ok report →
      (Plan.ofOptionString m text).answer = .ok (some plan) →
      report.agentPath = plan.agentPath ∧ report.options = plan.options.render) ∧
    ((¬ ∃ report, (preview m text none).answer = .ok report) →
      ∃ fault, (preview m text none).answer = .error (.relay fault) ∧
        (Plan.ofOptionString m text).answer = .error fault) ∧
    ∀ (loader : Loader) (vm reserved : UInt64) (s : Subscriber) (expects : Expectation), s.NeverFails →
      (∀ call ∈ (s.play (launch m loader text vm reserved expects)).calls,
        ∃ report, (preview m text none).answer = .ok report ∧
          call.arguments.options = Utf8.encode report.options) ∧
      ∀ report plan library, (preview m text none).answer = .ok report →
        (Plan.ofOptionString m text).answer = .ok (some plan) →
        (loader.find report.agentPath agentSymbol).2 = .ok library →
        ((s.play (launch m loader text vm reserved expects)).calls ≠ [] ↔ plan.options.NulFree) := by
  have hforetells : Foretells (preview m text none).answer (Plan.ofOptionString m text).answer :=
    preview_foretells hparse hnamed
  -- the plan beside a report is the only one
  have hagree : ∀ report plan, (preview m text none).answer = .ok report →
      (Plan.ofOptionString m text).answer = .ok (some plan) →
      report.agentPath = plan.agentPath ∧ report.options = plan.options.render := by
    intro report plan hreport hplan
    obtain ⟨plan', hplan', hboth⟩ := hforetells.exists_plan hreport
    rw [hplan'] at hplan
    obtain rfl := Option.some.inj (Except.ok.inj hplan)
    exact hboth
  refine ⟨⟨?_, ?_⟩, hagree, hforetells.exists_fault, fun loader vm reserved s expects hs => ⟨?_, ?_⟩⟩
  · rintro ⟨report, hreport⟩
    obtain ⟨plan, hplan, _⟩ := hforetells.exists_plan hreport
    exact ⟨plan, hplan⟩
  · rintro ⟨plan, hplan⟩
    obtain ⟨report, hreport, _⟩ := hforetells.exists_report hplan
    exact ⟨report, hreport⟩
  · intro call hcall
    rw [Subscriber.calls_play hs] at hcall
    obtain ⟨plan, hplan, hbytes⟩ := Launch.exists_plan_of_mem_calls hcall
    obtain ⟨report, hreport, _, hoptions⟩ := hforetells.exists_report hplan
    exact ⟨report, hreport, by rw [hbytes, hoptions]⟩
  · intro report plan library hreport hplan hfind
    rw [Subscriber.calls_play hs]
    rw [(hagree report plan hreport hplan).1] at hfind
    exact Launch.calls_ne_nil_iff hplan hfind vm reserved expects

/-- The agent of a preview that succeeds is called. -/
theorem preview_predicts_call :
    (Subscriber.allHearing.play (launch Launch.pathOnly (Launch.finding ⟨1, by decide⟩)
      "bootstrapConfigPath=b.conf" 3 4 Subscriber.allHearing.expects)).calls ≠ [] := by
  have hparse : Options.parse "bootstrapConfigPath=b.conf" = .ok (.ofPairs [("bootstrapConfigPath", "b.conf")]) := by
    decide +kernel
  have hnamed : (Options.ofPairs [("bootstrapConfigPath", "b.conf")]).get? Config.configPathKey = some "b.conf" := by
    decide +kernel
  obtain ⟨hiff, _, _, hlaunch⟩ := preview_predicts (m := Launch.pathOnly) hparse hnamed
  obtain ⟨report, hreport⟩ := hiff.2 ⟨_, Launch.ofOptionString_pathOnly⟩
  obtain ⟨_, hcalls⟩ := hlaunch (Launch.finding ⟨1, by decide⟩) 3 4 .allHearing Subscriber.allHearing.expects
    (fun _ _ => rfl)
  exact (hcalls report _ _ hreport Launch.ofOptionString_pathOnly rfl).2 Launch.nulFree_pathOnly

end AgentRelay
