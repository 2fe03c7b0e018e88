import AgentRelay.Proofs.Script
import AgentRelay.Report
import Mathlib.Data.List.TFAE

set_option autoImplicit false

/-!
# What is found, and who tells of it

A request for a symbol comes to one of four things, and `Linker.Finds` names them: the library is not mapped, the symbol
is not there, it is there at the null address, or it is found.  The linker alone decides which (`find_eq_iff`).

Loading an agent, trying to load one and probing are requests in other words.  They succeed and fail together, and they
tell of the same library or of the same fault (`front_ends_agree`).
-/

namespace AgentRelay

/-! ## Finding a symbol -/

namespace Linker

/-- What a request for a symbol comes to, by the answers of the linker. -/
inductive Finds (l : Linker) (path : Path) (symbol : String) : Except Fault Library → Prop where
  | unmapped {reason : String} : l.mapLibrary path = .error reason →
      Finds l path symbol (.error (.notLoaded path reason))
  | absent {exports : Exports} {reason : String} : l.mapLibrary path = .ok exports →
      exports symbol = .error reason → Finds l path symbol (.error (.noSymbol symbol path reason))
  | null {exports : Exports} : l.mapLibrary path = .ok exports → exports symbol = .ok 0 →
      Finds l path symbol (.error (.noSymbol symbol path "symbol resolved to a null address"))
  | found {exports : Exports} {entry : EntryPoint} : l.mapLibrary path = .ok exports →
      exports symbol = .ok entry.address → Finds l path symbol (.ok ⟨path, symbol, entry⟩)

variable {l : Linker} {path : Path} {symbol : String}

theorem finds_find (l : Linker) (path : Path) (symbol : String) : l.Finds path symbol (l.find path symbol) := by
  rw [find]
  cases hmap : l.mapLibrary path with
  | error reason => exact .unmapped hmap
  | ok exports =>
    cases hsymbol : exports symbol with
    | error reason =>
      simp only [hsymbol]
      exact .absent hmap hsymbol
    | ok address =>
      cases hentry : EntryPoint.ofAddress? address with
      | none =>
        obtain rfl := (EntryPoint.ofAddress?_eq_none_iff address).1 hentry
        simp only [hsymbol, hentry]
        exact .null hmap hsymbol
      | some entry =>
        obtain rfl := (EntryPoint.ofAddress?_eq_some_iff address entry).1 hentry
        simp only [hsymbol, hentry]
        exact .found hmap hsymbol

theorem Finds.find_eq {r : Except Fault Library} (h : l.Finds path symbol r) : l.find path symbol = r := by
  cases h with
  | unmapped hmap => simp only [find, hmap]
  | absent hmap hsymbol => simp only [find, hmap, hsymbol]
  | null hmap hsymbol => simp only [find, hmap, hsymbol, (EntryPoint.ofAddress?_eq_none_iff 0).2 rfl]
  | found hmap hsymbol => simp only [find, hmap, hsymbol, (EntryPoint.ofAddress?_eq_some_iff _ _).2 rfl]

theorem find_eq_iff (l : Linker) (path : Path) (symbol : String) (r : Except Fault Library) :
    l.find path symbol = r ↔ l.Finds path symbol r :=
  ⟨fun h => h ▸ finds_find l path symbol, Finds.find_eq⟩

/-- A library is found with the path and the symbol that were asked for, at the address that the linker tells. -/
theorem find_eq_ok_iff (l : Linker) (path : Path) (symbol : String) (library : Library) :
    l.find path symbol = .ok library ↔
      library.path = path ∧ library.symbol = symbol ∧ library.entry.address ≠ 0 ∧
        ∃ exports, l.mapLibrary path = .ok exports ∧ exports symbol = .ok library.entry.address := by
  rw [find_eq_iff]
  constructor
  · intro h
    cases h with
    | found hmap hsymbol => exact ⟨rfl, rfl, EntryPoint.isSomewhere _, _, hmap, hsymbol⟩
  · obtain ⟨path', symbol', entry⟩ := library
    rintro ⟨rfl, rfl, _, exports, hmap, hsymbol⟩
    exact .found hmap hsymbol

/-- A library is found when it is mapped and its symbol has an address that is not null. -/
theorem exists_find_eq_ok_iff (l : Linker) (path : Path) (symbol : String) :
    (∃ library, l.find path symbol = .ok library) ↔
      ∃ exports address, l.mapLibrary path = .ok exports ∧ exports symbol = .ok address ∧ address ≠ 0 := by
  simp only [find_eq_ok_iff]
  constructor
  · rintro ⟨library, _, _, haddress, exports, hmap, hsymbol⟩
    exact ⟨exports, _, hmap, hsymbol, haddress⟩
  · rintro ⟨exports, address, hmap, hsymbol, haddress⟩
    exact ⟨⟨path, symbol, ⟨address, haddress⟩⟩, rfl, rfl, haddress, exports, hmap, hsymbol⟩

/-- A library is not found because it is not mapped, or because its symbol is not there or at the null address. -/
theorem find_eq_error_iff (l : Linker) (path : Path) (symbol : String) (fault : Fault) :
    l.find path symbol = .error fault ↔
      (∃ reason, l.mapLibrary path = .error reason ∧ fault = .notLoaded path reason) ∨
      ∃ exports reason, l.mapLibrary path = .ok exports ∧
        (exports symbol = .error reason ∨
          exports symbol = .ok 0 ∧ reason = "symbol resolved to a null address") ∧
        fault = .noSymbol symbol path reason := by
  rw [find_eq_iff]
  constructor
  · intro h
    cases h with
    | unmapped hmap => exact .inl ⟨_, hmap, rfl⟩
    | absent hmap hsymbol => exact .inr ⟨_, _, hmap, .inl hsymbol, rfl⟩
    | null hmap hsymbol => exact .inr ⟨_, _, hmap, .inr ⟨hsymbol, rfl⟩, rfl⟩
  · rintro (⟨reason, hmap, rfl⟩ | ⟨exports, reason, hmap, hsymbol | ⟨hsymbol, rfl⟩, rfl⟩)
    · exact .unmapped hmap
    · exact .absent hmap hsymbol
    · exact .null hmap hsymbol

end Linker

/-! ## Trying to load an agent -/

namespace Loader

/-- What is reported of an agent that is not available. -/
def warning (fault : Fault) : Event :=
  ⟨.warn, Target.loader, "Native agent not available: " ++ fault.message⟩

/-- What is reported of an agent that is. -/
def resolution (path : Path) (library : Library) : Event :=
  ⟨.debug, Target.loader, "Resolved " ++ library.entry.described ++ " in " ++ path.shown⟩

/-- The warnings that follow a request. -/
def warnings : Except Fault Library → List Event
  | .ok _ => []
  | .error fault => [warning fault]

variable (l : Loader) (path : Path) (expects : Expectation)

theorem answer_tryLoad : (l.tryLoad path expects).answer = (l.load path).answer.toOption := by
  rw [tryLoad, Script.answer_bind]
  cases (l.load path).answer with
  | ok library => rfl
  | error fault => rfl

/-- Trying to load an agent gives the library that loading it gives. -/
theorem answer_tryLoad_eq_some_iff (library : Library) :
    (l.tryLoad path expects).answer = some library ↔ (l.load path).answer = .ok library := by
  rw [answer_tryLoad]
  cases (l.load path).answer with
  | ok library' => simp [Except.toOption]
  | error fault => simp [Except.toOption]

theorem events_tryLoad (h : expects .warn Target.loader = true) :
    (l.tryLoad path expects).events = (l.load path).events ++
      match (l.load path).answer with
      | .ok library => [resolution path library]
      | .error fault => [warning fault] := by
  rw [Script.events, tryLoad, Script.deeds_bind, List.filterMap_append]
  cases (l.load path).answer with
  | ok library => rfl
  | error fault =>
    simp only [Script.offer, h]
    rfl

/-- Before a subscriber that hears the warnings of loaders, one warning is left of an agent that is not available, and
none of an agent that is. -/
theorem warnings_tryLoad (m : Machine) {s : Subscriber} (hs : s.NeverFails)
    (hexpects : s.expects .warn Target.loader = true) (haccepts : s.accepts .warn Target.loader = true) :
    (s.play ((ofMachine m).tryLoad path s.expects)).events.filter (·.level = .warn) =
      warnings ((ofMachine m).load path).answer := by
  have hload : ((ofMachine m).load path).events = [announcement path agentSymbol] := rfl
  rw [Subscriber.events_play hs, events_tryLoad _ path s.expects hexpects, hload, List.filter_filter,
    List.filter_append]
  -- the announcement of the request is no warning
  have hannouncement : [announcement path agentSymbol].filter (fun e => decide (e.level = .warn) && s.hears e) = [] := by
    simp [announcement]
  rw [hannouncement, List.nil_append]
  cases ((ofMachine m).load path).answer with
  | ok library => simp [warnings, resolution]
  | error fault => simp [warnings, warning, Subscriber.hears, haccepts]

end Loader

/-! ## Probing -/

theorem answer_probe (loader : Loader) (path : Path) (symbol : String) :
    (probe loader path symbol).answer = ⟨path, symbol, (loader.request path symbol).answer⟩ := by
  rw [probe, Script.answer_bind]
  cases (loader.request path symbol).answer with
  | ok library => rfl
  | error fault => rfl

namespace ProbeReport

/-- A report is all of one piece: it has an address exactly when the library was found, and an error and a hint exactly
when it was not. -/
theorem found_tfae (r : ProbeReport) :
    [∃ library, r.found = .ok library, r.loaded = true, r.address? ≠ none, r.error? = none, r.hint? = none].TFAE := by
  obtain ⟨path, symbol, found⟩ := r
  cases found with
  | ok library =>
    apply List.tfae_of_forall True
    simp [loaded, address?, error?, hint?, Except.isOk, Except.toBool]
  | error fault =>
    apply List.tfae_of_forall False
    simp [loaded, address?, error?, hint?, Except.isOk, Except.toBool]

theorem address?_of_ok {r : ProbeReport} {library : Library} (h : r.found = .ok library) :
    r.address? = some library.entry.address.text := by
  rw [address?, h]

theorem error?_of_error {r : ProbeReport} {fault : Fault} (h : r.found = .error fault) :
    r.error? = some fault.message := by
  rw [error?, h]

theorem hint?_of_error {r : ProbeReport} {fault : Fault} (h : r.found = .error fault) :
    r.hint? = some fault.hint := by
  rw [hint?, h]

end ProbeReport

/-! ## The front ends -/

/-- Whatever the linker answers, a request finds its symbol exactly when the library is mapped and the symbol has an
address other than null; it tells of a library that is not loaded exactly when it is not mapped, and of a missing symbol
in all other cases.  Loading an agent, trying to load it and probing come to the same. -/
theorem front_ends_agree (m : Machine) (path : Path) (symbol : String) :
    let loader := Loader.ofMachine m
    let found := (loader.request path symbol).answer
    let agent := (loader.request path agentSymbol).answer
    let report := (probe loader path symbol).answer
    -- the request
    ((∃ library, found = .ok library) ↔ ∃ exports address,
      m.linker.mapLibrary path = .ok exports ∧ exports symbol = .ok address ∧ address ≠ 0) ∧
    (∀ library, found = .ok library ↔ library.path = path ∧ library.symbol = symbol ∧ library.entry.address ≠ 0 ∧
      ∃ exports, m.linker.mapLibrary path = .ok exports ∧ exports symbol = .ok library.entry.address) ∧
    (∀ fault, found = .error fault ↔
      (∃ reason, m.linker.mapLibrary path = .error reason ∧ fault = .notLoaded path reason) ∨
      ∃ exports reason, m.linker.mapLibrary path = .ok exports ∧
        (exports symbol = .error reason ∨
          exports symbol = .ok 0 ∧ reason = "symbol resolved to a null address") ∧
        fault = .noSymbol symbol path reason) ∧
    -- loading an agent, and trying to
    (loader.load path).answer = agent ∧
    (∀ expects library, (loader.tryLoad path expects).answer = some library ↔ agent = .ok library) ∧
    (∀ s : Subscriber, s.NeverFails → s.expects .warn Target.loader = true → s.accepts .warn Target.loader = true →
      (s.play (loader.tryLoad path s.expects)).events.filter (·.level = .warn) = Loader.warnings agent) ∧
    -- probing
    report.path = path ∧ report.symbol = symbol ∧
    [∃ library, found = .ok library, report.loaded = true, report.address? ≠ none, report.error? = none,
      report.hint? = none].TFAE ∧
    (∀ library, found = .ok library → report.address? = some library.entry.address.text) ∧
    ∀ fault, found = .error fault → report.error? = some fault.message ∧ report.hint? = some fault.hint := by
  intro loader found agent report
  have hreport : report = ⟨path, symbol, found⟩ := answer_probe loader path symbol
  refine ⟨m.linker.exists_find_eq_ok_iff path symbol, m.linker.find_eq_ok_iff path symbol,
    m.linker.find_eq_error_iff path symbol, rfl, loader.answer_tryLoad_eq_some_iff path,
    fun s hs => Loader.warnings_tryLoad path m hs, ?_⟩
  rw [hreport]
  refine ⟨rfl, rfl, ProbeReport.found_tfae ⟨path, symbol, found⟩, fun library hlibrary => ?_, fun fault hfault => ?_⟩
  · exact ProbeReport.address?_of_ok hlibrary
  · exact ⟨ProbeReport.error?_of_error hfault, ProbeReport.hint?_of_error hfault⟩

/-- A machine on which every symbol of every library is at the null address. -/
def Machine.allNull : Machine where
  home := none
  read _ := .error .notFound
  linker := ⟨fun _ => .ok fun _ => .ok 0⟩
  agentCode _ _ := 0

/-- On this machine an agent is not available, and the one warning says why. -/
theorem front_ends_agree_null :
    let s := Subscriber.allHearing
    (s.play ((Loader.ofMachine .allNull).tryLoad (.ofString "/a") s.expects)).events.filter (·.level = .warn) =
      [Loader.warning (.noSymbol agentSymbol (.ofString "/a") "symbol resolved to a null address")] := by
  intro s
  obtain ⟨_, _, hfault, _, _, hwarnings, _⟩ := front_ends_agree .allNull (.ofString "/a") agentSymbol
  have hnull := (hfault _).2 (.inr ⟨_, _, rfl, .inr ⟨rfl, rfl⟩, rfl⟩)
  rw [hwarnings s (fun _ _ => rfl) (by decide) (by decide), hnull]
  rfl

end AgentRelay
