import AgentRelay.Script
import Mathlib.Data.List.Basic

set_option autoImplicit false

/-!
# Scripts in sequence, and what a subscriber sees of them

* `andThen_of_ok` and `andThen_of_error` say what a sequence is once the answer of its first part is known.
* `ReportsFrom` holds of the scripts that do nothing but report, and only on behalf of one target.  It is kept by
  sequencing, and such a script makes no request and no call (`ReportsFrom.filterMap_eq_nil`).
* Before a subscriber that never fails a script runs to its end: its answer, its requests and its calls are those of
  the script, and its events are the ones that are heard (`answer?_play`, `requests_play`, `calls_play`,
  `events_play`).
-/

namespace AgentRelay

namespace Script

variable {α β ε : Type}

/-! ## Sequences -/

@[simp] theorem deeds_perform (d : Deed) : (perform d).deeds = [d] := rfl

@[simp] theorem deeds_report (level : Level) (target message : String) :
    (report level target message).deeds = [.report ⟨level, target, message⟩] := rfl

/-- After a success the sequence goes on with its value. -/
theorem andThen_of_ok {s : Script (Except ε α)} {a : α} (h : s.answer = .ok a) (f : α → Script (Except ε β)) :
    s.andThen f = ⟨s.deeds ++ (f a).deeds, (f a).answer⟩ := by
  change (⟨_, _⟩ : Script (Except ε β)) = _
  rw [h]

/-- After a failure the sequence stops. -/
theorem andThen_of_error {s : Script (Except ε α)} {e : ε} (h : s.answer = .error e)
    (f : α → Script (Except ε β)) : s.andThen f = ⟨s.deeds, .error e⟩ := by
  change (⟨_, _⟩ : Script (Except ε β)) = _
  rw [h]
  simp

/-- A success that is already known starts nothing. -/
@[simp] theorem pure_ok_andThen (a : α) (f : α → Script (Except ε β)) : andThen (pure (.ok a)) f = f a := rfl

/-- A failure that is already known stops at once. -/
@[simp] theorem pure_error_andThen (e : ε) (f : α → Script (Except ε β)) :
    andThen (pure (.error e)) f = pure (.error e) := rfl

/-! ## Scripts that only report -/

/-- The script does nothing but report on behalf of a target. -/
def ReportsFrom (s : Script α) (target : String) : Prop :=
  ∀ d ∈ s.deeds, ∃ e : Event, d = .report e ∧ e.target = target

theorem reportsFrom_pure (a : α) (target : String) : (pure a : Script α).ReportsFrom target := by
  intro d hd
  simp at hd

theorem reportsFrom_report (level : Level) (target message : String) :
    (report level target message).ReportsFrom target := by
  intro d hd
  exact ⟨⟨level, target, message⟩, by simpa using hd, rfl⟩

theorem ReportsFrom.bind {s : Script α} {f : α → Script β} {target : String} (hs : s.ReportsFrom target)
    (hf : ∀ a, (f a).ReportsFrom target) : (s >>= f).ReportsFrom target := by
  intro d hd
  rw [deeds_bind, List.mem_append] at hd
  cases hd with
  | inl h => exact hs d h
  | inr h => exact hf s.answer d h

theorem ReportsFrom.andThen {s : Script (Except ε α)} {f : α → Script (Except ε β)} {target : String}
    (hs : s.ReportsFrom target) (hf : ∀ a, (f a).ReportsFrom target) : (s.andThen f).ReportsFrom target := by
  refine hs.bind fun result => ?_
  cases result with
  | ok a => exact hf a
  | error e => exact reportsFrom_pure _ _

variable {s : Script α} {target : String}

/-- Whatever reports do not count for is not in such a script: no request and no call. -/
theorem ReportsFrom.filterMap_eq_nil {f : Deed → Option β} (h : s.ReportsFrom target)
    (hreport : ∀ e, f (.report e) = none) : s.deeds.filterMap f = [] := by
  rw [List.filterMap_eq_nil_iff]
  intro d hd
  obtain ⟨e, rfl, _⟩ := h d hd
  exact hreport e

/-- The events of such a script have the target of its reports. -/
theorem ReportsFrom.target_of_mem_events (h : s.ReportsFrom target) {e : Event} (he : e ∈ s.events) :
    e.target = target := by
  obtain ⟨d, hd, hevent⟩ := List.mem_filterMap.1 he
  obtain ⟨e', rfl, htarget⟩ := h d hd
  rw [← Option.some.inj hevent]
  exact htarget

end Script

/-! ## Deeds that leave a trace -/

namespace Subscriber

variable {α β : Type} {s : Subscriber}

/-- Whether a deed leaves a trace: every deed does but the report of an event that nobody hears. -/
def keeps (s : Subscriber) (d : Deed) : Bool := d.event?.all s.hears

/-- What reports do not count for is not changed when some of them are dropped. -/
theorem filterMap_keeps (ds : List Deed) {f : Deed → Option β} (hreport : ∀ e, f (.report e) = none) :
    (ds.filter s.keeps).filterMap f = ds.filterMap f := by
  rw [List.filterMap_filter]
  apply List.filterMap_congr
  intro d _
  cases d with
  | report e => simp [hreport]
  | _ => simp [keeps, Deed.event?]

/-- The events that are left are those that are heard. -/
theorem event?_keeps (ds : List Deed) :
    (ds.filter s.keeps).filterMap Deed.event? = (ds.filterMap Deed.event?).filter s.hears := by
  rw [List.filterMap_filter, List.filter_filterMap]
  apply List.filterMap_congr
  intro d _
  cases d with
  | report e => by_cases he : s.hears e = true <;> simp [keeps, Deed.event?, Option.filter, he]
  | _ => simp [keeps, Deed.event?, Option.filter]

/-! ## Before a subscriber that never fails -/

/-- The script gets to its answer. -/
theorem answer?_play (h : s.NeverFails) (script : Script α) : (s.play script).answer? = some script.answer := by
  rw [play, performed_of_neverFails h]
  rfl

/-- Every deed takes place, but the reports that nobody hears leave no trace. -/
theorem deeds_play (h : s.NeverFails) (script : Script α) :
    (s.play script).deeds = script.deeds.filter s.keeps := by
  rw [play, performed_of_neverFails h]
  rfl

theorem filterMap_play (h : s.NeverFails) (script : Script α) {f : Deed → Option β}
    (hreport : ∀ e, f (.report e) = none) : (s.play script).deeds.filterMap f = script.deeds.filterMap f := by
  rw [deeds_play h, filterMap_keeps script.deeds hreport]

theorem requests_play (h : s.NeverFails) (script : Script α) : (s.play script).requests = script.requests :=
  filterMap_play h script fun _ => rfl

theorem calls_play (h : s.NeverFails) (script : Script α) : (s.play script).calls = script.calls :=
  filterMap_play h script fun _ => rfl

/-- The events that are kept are those that are heard. -/
theorem events_play (h : s.NeverFails) (script : Script α) :
    (s.play script).events = script.events.filter s.hears := by
  rw [Performance.events, deeds_play h, Script.events, event?_keeps]

end Subscriber

end AgentRelay
