import AgentRelay.Proofs.Script

set_option autoImplicit false

/-!
# Where a performance is cut

A subscriber *bears* an event unless it hears it and fails on it.  It *survives* deeds when it bears every event that
they report; otherwise there is a first report on which it fails, and `CutAt` says where that stands.  One of the two
is always the case (`survives_or_cut`).

* A script that is survived is performed as before the subscriber that hears the same and never fails
  (`play_of_survives`).
* Of a script that is cut, the deeds in front of the cut take place, and there is no answer (`play_of_cutAt`).
* The cut can be found without looking at the script: among the events that are heard when nobody fails, it is the
  first one on which the subscriber fails (`CutAt.find?_events`, `CutAt.takeWhile_events`).
-/

namespace AgentRelay.Subscriber

variable {α : Type} {s : Subscriber} {before after : List Deed} {e : Event}

/-! ## Bearing and surviving -/

/-- The subscriber does not fail on an event: it does not hear it, or the event does it no harm. -/
def bears (s : Subscriber) (e : Event) : Bool := !(s.hears e && s.failsOn e)

/-- The subscriber bears every event that the deeds report. -/
def Survives (s : Subscriber) (ds : List Deed) : Prop := ∀ e, Deed.report e ∈ ds → s.bears e = true

/-- The subscriber that hears the same and never fails. -/
def unfailing (s : Subscriber) : Subscriber := { s with failsOn := fun _ => false }

theorem bears_iff (s : Subscriber) (e : Event) :
    s.bears e = true ↔ (s.hears e = true → s.failsOn e = false) := by
  cases h : s.hears e <;> simp [bears, h]

theorem bears_eq_false_iff (s : Subscriber) (e : Event) :
    s.bears e = false ↔ s.hears e = true ∧ s.failsOn e = true := by
  simp [bears]

/-- A filtering subscriber never fails when it has no tripwire. -/
theorem unfailing_filtered (max : MaxRank) (off : List String) (tripwire : Option String) :
    (filtered max off tripwire).unfailing = filtered max off none := rfl

theorem neverFails_unfailing (s : Subscriber) : s.unfailing.NeverFails := fun _ _ => rfl

theorem survives_unfailing (s : Subscriber) (ds : List Deed) : s.unfailing.Survives ds :=
  fun e _ => (s.unfailing.bears_iff e).2 fun _ => rfl

/-- Before the subscriber that never fails, a script runs to its end. -/
theorem play_unfailing (s : Subscriber) (script : Script α) :
    s.unfailing.play script = ⟨script.deeds.filter s.keeps, some script.answer⟩ := by
  rw [play, performed_of_neverFails s.neverFails_unfailing]
  rfl

theorem survives_nil (s : Subscriber) : s.Survives [] := by
  intro e he
  cases he

theorem survives_cons_iff (s : Subscriber) (d : Deed) (ds : List Deed) :
    s.Survives (d :: ds) ↔ (∀ e, d = .report e → s.bears e = true) ∧ s.Survives ds := by
  constructor
  · intro h
    exact ⟨fun e he => h e (by simp [he]), fun e he => h e (List.mem_cons_of_mem d he)⟩
  · rintro ⟨hd, hds⟩ e he
    rcases List.mem_cons.1 he with hreport | hmem
    · exact hd e hreport.symm
    · exact hds e hmem

/-- The deeds of a script are survived when its events are borne. -/
theorem survives_deeds_iff (s : Subscriber) (script : Script α) :
    s.Survives script.deeds ↔ ∀ e ∈ script.events, s.bears e = true := by
  have hmem (e : Event) : e ∈ script.events ↔ Deed.report e ∈ script.deeds := by
    rw [Script.events, List.mem_filterMap]
    constructor
    · rintro ⟨d, hd, hevent⟩
      cases d with
      | report e' => exact Option.some.inj hevent ▸ hd
      | _ => cases hevent
    · intro h
      exact ⟨_, h, rfl⟩
  simp only [Survives, hmem]

/-! ## The cut -/

/-- Where a subscriber cuts deeds: in front of the first report on which it fails. -/
structure CutAt (s : Subscriber) (ds before : List Deed) (e : Event) (after : List Deed) : Prop where
  split : ds = before ++ .report e :: after
  survived : s.Survives before
  heard : s.hears e = true
  failed : s.failsOn e = true

theorem survives_or_cut (s : Subscriber) (ds : List Deed) :
    s.Survives ds ∨ ∃ before e after, s.CutAt ds before e after := by
  induction ds with
  | nil => exact .inl s.survives_nil
  | cons d rest ih =>
    by_cases hd : ∀ e, d = .report e → s.bears e = true
    · rcases ih with hsurvives | ⟨before, e, after, hcut⟩
      · exact .inl ((s.survives_cons_iff d rest).2 ⟨hd, hsurvives⟩)
      · refine .inr ⟨d :: before, e, after, ?_, ?_, hcut.heard, hcut.failed⟩
        · rw [hcut.split, List.cons_append]
        · exact (s.survives_cons_iff d before).2 ⟨hd, hcut.survived⟩
    · -- the cut is right here
      obtain ⟨e, he⟩ := Classical.not_forall.1 hd
      obtain ⟨hreport, hbears⟩ := Classical.not_imp.1 he
      obtain ⟨heard, failed⟩ := (s.bears_eq_false_iff e).1 (Bool.not_eq_true _ ▸ hbears)
      exact .inr ⟨[], e, rest, by rw [hreport, List.nil_append], s.survives_nil, heard, failed⟩

theorem CutAt.not_bears {ds : List Deed} (h : s.CutAt ds before e after) : s.bears e = false :=
  (s.bears_eq_false_iff e).2 ⟨h.heard, h.failed⟩

/-- Deeds that are cut are not survived. -/
theorem CutAt.not_survives {ds : List Deed} (h : s.CutAt ds before e after) : ¬ s.Survives ds := by
  intro hsurvives
  have hbears := hsurvives e (by simp [h.split])
  rw [h.not_bears] at hbears
  cases hbears

/-- Of two lists of deeds in a row, the first or the second is cut. -/
theorem CutAt.of_append {first second : List Deed} (h : s.CutAt (first ++ second) before e after) :
    (∃ rest, s.CutAt first before e rest) ∨ ∃ more, before = first ++ more ∧ s.CutAt second more e after := by
  rcases List.append_eq_append_iff.1 h.split with ⟨more, hbefore, hsecond⟩ | ⟨rest, hfirst, hrest⟩
  · have hmore : s.Survives more := fun e' he' => h.survived e' (by simp [hbefore, he'])
    exact .inr ⟨more, hbefore, hsecond, hmore, h.heard, h.failed⟩
  · cases rest with
    | nil =>
      -- the second list begins with the cut
      rw [List.append_nil] at hfirst
      exact .inr ⟨[], by rw [hfirst, List.append_nil], hrest.symm, s.survives_nil, h.heard, h.failed⟩
    | cons d rest =>
      obtain ⟨rfl, _⟩ := List.cons.inj hrest
      exact .inl ⟨rest, hfirst, h.survived, h.heard, h.failed⟩

/-- The cut stands among the events. -/
theorem CutAt.mem_events {ds : List Deed} (h : s.CutAt ds before e after) : e ∈ ds.filterMap Deed.event? := by
  rw [h.split, List.filterMap_append]
  simp [Deed.event?]

/-- A single report is survived when its event is borne. -/
theorem survives_report_iff (s : Subscriber) (e : Event) : s.Survives [.report e] ↔ s.bears e = true := by
  simp [Survives]

/-- A single report whose event is not borne is cut at once. -/
theorem cutAt_report (h : s.bears e = false) : s.CutAt [.report e] [] e [] := by
  obtain ⟨heard, failed⟩ := (s.bears_eq_false_iff e).1 h
  exact ⟨rfl, s.survives_nil, heard, failed⟩

theorem CutAt.eq_of_report {e' : Event} (h : s.CutAt [.report e'] before e after) : before = [] ∧ e = e' := by
  cases before with
  | nil =>
    obtain ⟨hreport, _⟩ := List.cons.inj h.split
    exact ⟨rfl, (Deed.report.inj hreport).symm⟩
  | cons d rest =>
    have hsplit := (List.cons.inj h.split).2
    simp at hsplit

/-! ## Performances with and without a cut -/

/-- Deeds that are survived take place before anything else does. -/
theorem performed_append (h : s.Survives before) (ds : List Deed) :
    s.performed (before ++ ds) = (before.filter s.keeps ++ (s.performed ds).1, (s.performed ds).2) := by
  induction before with
  | nil => rfl
  | cons d rest ih =>
    obtain ⟨hd, hrest⟩ := (s.survives_cons_iff d rest).1 h
    cases d with
    | report e =>
      have hbears := (s.bears_iff e).1 (hd e rfl)
      by_cases he : s.hears e = true
      · simp [performed, preceded, keeps, Deed.event?, he, hbears he, ih hrest]
      · simp [performed, keeps, Deed.event?, he, ih hrest]
    | _ => simp [performed, preceded, List.filter_cons, keeps, Deed.event?, ih hrest]

theorem play_of_survives {script : Script α} (h : s.Survives script.deeds) :
    s.play script = s.unfailing.play script := by
  have hperformed := performed_append h []
  rw [List.append_nil] at hperformed
  rw [play_unfailing, play, hperformed]
  simp [performed]

/-- At the cut a performance ends. -/
theorem play_of_cutAt {script : Script α} (h : s.CutAt script.deeds before e after) :
    s.play script = ⟨before.filter s.keeps, none⟩ := by
  rw [play, h.split, performed_append h.survived]
  simp [performed, h.heard, h.failed]

/-! ## The cut among the events -/

variable {script : Script α}

/-- What is heard of a script that is cut, when nobody fails: harmless events, and then the one at the cut. -/
theorem CutAt.events_unfailing (h : s.CutAt script.deeds before e after) :
    ∃ rest, (s.unfailing.play script).events = (before.filter s.keeps).filterMap Deed.event? ++ e :: rest ∧
      ∀ e' ∈ (before.filter s.keeps).filterMap Deed.event?, s.failsOn e' = false := by
  refine ⟨(after.filter s.keeps).filterMap Deed.event?, ?_, ?_⟩
  · rw [play_unfailing, Performance.events, h.split]
    simp [keeps, Deed.event?, h.heard]
  · intro e' he'
    rw [event?_keeps, List.mem_filter] at he'
    obtain ⟨hmem, heard⟩ := he'
    obtain ⟨d, hd, hevent⟩ := List.mem_filterMap.1 hmem
    cases d with
    | report e'' =>
      obtain rfl := Option.some.inj hevent
      exact (s.bears_iff _).1 (h.survived _ hd) heard
    | _ => cases hevent

theorem CutAt.find?_events (h : s.CutAt script.deeds before e after) :
    (s.unfailing.play script).events.find? s.failsOn = some e := by
  obtain ⟨rest, hevents, hbefore⟩ := h.events_unfailing
  rw [hevents, List.find?_append, List.find?_eq_none.2 (by simpa using hbefore), Option.none_or]
  exact List.find?_cons_of_pos h.failed

theorem CutAt.takeWhile_events (h : s.CutAt script.deeds before e after) :
    (s.unfailing.play script).events.takeWhile (fun e => !s.failsOn e) =
      (before.filter s.keeps).filterMap Deed.event? := by
  obtain ⟨rest, hevents, hbefore⟩ := h.events_unfailing
  rw [hevents, List.takeWhile_append_of_pos (by simpa using hbefore)]
  simp [h.failed]

/-- What is heard of a script that is survived does no harm. -/
theorem Survives.failsOn_of_mem_events (h : s.Survives script.deeds)
    (he : e ∈ (s.unfailing.play script).events) : s.failsOn e = false := by
  rw [events_play s.neverFails_unfailing, List.mem_filter] at he
  obtain ⟨hmem, heard⟩ := he
  exact (s.bears_iff e).1 ((s.survives_deeds_iff script).1 h e hmem) heard

end AgentRelay.Subscriber
