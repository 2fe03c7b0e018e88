import AgentRelay.Proofs.Options.RoundTrip
import AgentRelay.Proofs.Plan.Merge
import AgentRelay.Proofs.Plan.Reading
import AgentRelay.Proofs.Utf8

set_option autoImplicit false

/-!
# What an agent receives

An agent receives the bytes of the rendered options.  There are such bytes exactly when no option holds a NUL
(`optionBytes_eq_ok_iff`), and they are always the bytes of the rendered text.

Whether the agent reads there what was merged is decided by the configuration alone (`received_eq_iff`).  The options
of the host were cut at commas, and the written path of the agent stands in the configuration too.  But nothing keeps
a comma out of a line, or a comma or an equals sign out of a TOML key, and then the agent reads other options
(`received_ne_merged`).
-/

namespace AgentRelay

variable {m : Machine} {text : String} {host : Options} {config : Config} {plan : Plan} {bytes : Utf8.Bytes}

/-! ## NULs -/

namespace Options

/-- No key and no value holds a NUL. -/
def NulFree (o : Options) : Prop := ∀ entry ∈ o.entries, '\x00' ∉ entry.1.toList ∧ '\x00' ∉ entry.2.toList

instance (o : Options) : Decidable o.NulFree := inferInstanceAs (Decidable (∀ entry ∈ o.entries, _))

/-- Joining adds no letter that is not in the delimiter. -/
theorem mem_intercalate_iff {α : Type} {a : α} {delimiter : List α} (ha : a ∉ delimiter) (parts : List (List α)) :
    a ∈ delimiter.intercalate parts ↔ ∃ part ∈ parts, a ∈ part := by
  induction parts with
  | nil => simp
  | cons part rest ih =>
    by_cases hrest : rest = []
    · simp [hrest, List.intercalate_singleton]
    · rw [List.intercalate_cons_of_ne_nil hrest]
      simp [ih, ha]

/-- The rendered options hold a NUL exactly when a key or a value does. -/
theorem nul_mem_render_iff (o : Options) : '\x00' ∈ o.render.toList ↔ ¬ o.NulFree := by
  have hcomma : '\x00' ∉ comma.toList := by decide
  rw [render, renderWith, String.toList_ofList, mem_intercalate_iff hcomma]
  simp [NulFree, renderPair, toList_equalsSign, or_iff_not_imp_left]

end Options

namespace Plan

/-- There are bytes for an agent when no option holds a NUL, and they are the bytes of the rendered options. -/
theorem optionBytes_eq_ok_iff (p : Plan) (bytes : Utf8.Bytes) :
    p.optionBytes = .ok bytes ↔ p.options.NulFree ∧ bytes = Utf8.encode p.options.render := by
  have hzero : (Utf8.encode p.options.render).idxOf? 0 = none ↔ p.options.NulFree := by
    rw [List.idxOf?_eq_none_iff, Utf8.zero_mem_encode, Options.nul_mem_render_iff, not_not]
  rw [optionBytes]
  split
  · next position hposition =>
    have hnul : ¬ p.options.NulFree := by
      rw [← hzero, hposition]
      simp
    simp [hnul]
  · next hnone => simp [hzero.1 hnone, eq_comm]

/-! ## Delimiters -/

/-- The merged options hold a delimiter exactly when the configuration does. -/
theorem separable_merged_iff {written : String} (hhost : host.Separable ',')
    (hwritten : config.options.get? Config.agentPathKey = some written) :
    (merged host written config.options).Separable ',' ↔ config.options.Separable ',' := by
  constructor
  · -- every pair of the configuration stands among the merged ones
    intro h entry hentry
    apply h entry
    rw [← Options.get?_eq_some_iff, get?_merged, (config.options.get?_eq_some_iff _ _).2 hentry]
    rfl
  · intro h entry hentry
    have hget := ((merged host written config.options).get?_eq_some_iff entry.1 entry.2).2 hentry
    rw [get?_merged] at hget
    cases hconfig : config.options.get? entry.1 with
    | some value =>
      rw [hconfig] at hget
      exact h entry ((config.options.get?_eq_some_iff _ _).1 (hconfig.trans hget))
    | none =>
      rw [hconfig, Option.none_or] at hget
      by_cases hcore : entry.1 = Config.corePathKey
      · rw [if_pos hcore] at hget
        have hvalue : written = entry.2 := Option.some.inj hget
        have hpath := h _ ((config.options.get?_eq_some_iff _ _).1 hwritten)
        rw [hcore, ← hvalue]
        exact ⟨by decide, by decide, hpath.2.2⟩
      · rw [if_neg hcore] at hget
        exact hhost entry ((host.get?_eq_some_iff _ _).1 hget)

/-! ## Delivery -/

/-- An agent receives the rendered text of the merged options, and it reads these options there exactly when the
configuration holds no delimiter: no comma in a key or a value, and no equals sign in a key. -/
theorem received_eq_iff (hplan : (ofOptionString m text).answer = .ok (some plan))
    (hbytes : plan.optionBytes = .ok bytes) :
    ∃ host config received, Configured m text host config ∧ ofParts m host config = .ok plan ∧
      Utf8.decode? bytes = some received ∧ received = plan.options.render ∧
      (Options.parse received = .ok plan.options ↔ config.options.Separable ',') := by
  obtain ⟨host, config, hconfigured, hparts⟩ := (ofOptionString_eq_some_iff ..).1 hplan
  obtain ⟨_, hrendered⟩ := (optionBytes_eq_ok_iff ..).1 hbytes
  obtain ⟨written, hwritten, _, hoptions⟩ := (ofParts_eq_ok_iff ..).1 hparts
  have hcomma : Options.comma.toList = [','] := rfl
  have hhost : host.Separable ',' := Options.separable_of_parseWith hcomma hconfigured.parsed
  refine ⟨host, config, plan.options.render, hconfigured, hparts, ?_, rfl, ?_⟩
  · rw [hrendered, Utf8.decode?_encode]
  · rw [← separable_merged_iff hhost hwritten, ← hoptions]
    exact Options.parseWith_renderWith_iff hcomma (by decide) plan.options

/-- A configuration in lines without any comma. -/
theorem received_eq_iff_lines :
    ∃ host config received,
      Configured (.ofFile "b.conf" "agentPath=/a\nx=1\n" 0) "bootstrapConfigPath=b.conf" host config ∧
      ofParts (.ofFile "b.conf" "agentPath=/a\nx=1\n" 0) host config = .ok ⟨.ofString "/a", .ofPairs
        [("bootstrapConfigPath", "b.conf"), ("coreLibPath", "/a"), ("agentPath", "/a"), ("x", "1")]⟩ ∧
      Utf8.decode? (Utf8.encode "bootstrapConfigPath=b.conf,coreLibPath=/a,agentPath=/a,x=1") = some received ∧
      received = (Options.ofPairs
        [("bootstrapConfigPath", "b.conf"), ("coreLibPath", "/a"), ("agentPath", "/a"), ("x", "1")]).render ∧
      (Options.parse received = .ok (.ofPairs
        [("bootstrapConfigPath", "b.conf"), ("coreLibPath", "/a"), ("agentPath", "/a"), ("x", "1")]) ↔
        config.options.Separable ',') :=
  received_eq_iff (by decide +kernel) (by decide +kernel)

/-- A comma in a line: the agent is handed a further option, and the one that was merged is cut short. -/
theorem received_ne_merged :
    ¬ ∀ (m : Machine) (text : String) (plan : Plan) (bytes : Utf8.Bytes),
      (ofOptionString m text).answer = .ok (some plan) → plan.optionBytes = .ok bytes →
        ∃ received, Utf8.decode? bytes = some received ∧ Options.parse received = .ok plan.options := by
  intro h
  let plan : Plan := ⟨.ofString "/a", .ofPairs
    [("bootstrapConfigPath", "b.conf"), ("coreLibPath", "/a"), ("agentPath", "/a"), ("x", "1,y=2")]⟩
  have hplan : (ofOptionString (.ofFile "b.conf" "agentPath=/a\nx=1,y=2\n" 0)
      "bootstrapConfigPath=b.conf").answer = .ok (some plan) := by decide +kernel
  have hbytes : plan.optionBytes = .ok (Utf8.encode plan.options.render) := by decide +kernel
  obtain ⟨received, hreceived, hparse⟩ := h _ _ plan _ hplan hbytes
  rw [Utf8.decode?_encode] at hreceived
  rw [← Option.some.inj hreceived] at hparse
  have hother : Options.parse plan.options.render ≠ .ok plan.options := by decide +kernel
  exact hother hparse

end Plan

end AgentRelay
