import AgentRelay.Command
import AgentRelay.Proofs.Path.Components
import AgentRelay.Proofs.Plan.Reading

set_option autoImplicit false

/-!
# One report in two formats

A command first makes its report, and does so in the same way for every format (`Command.answer_run`).  The format matters
only when the report is printed: lines show every path, JSON holds only those that are text.

So for a report whose paths are text both formats print it and succeed or fail alike, and for any other report JSON
prints nothing and fails (`Command.formats_alike`).  The check mark in front of the lines stands for the same answer as
the member of the JSON document.
-/

namespace AgentRelay

/-! ## The member of a document -/

/-- The value of a member of an object. -/
def Json.Document.member? (key : String) : Json.Document → Option Json.Document
  | .object members => (members.find? fun entry => entry.1 == key).map Prod.snd
  | _ => none

/-! ## Reports of all commands -/

/-- A report of some command. -/
inductive Report where
  | probe (report : ProbeReport)
  | select (report : MatchReport)
  | options (report : OptionsReport)
  deriving Repr

namespace Report

/-- The lines of the report. -/
def lines : Report → List String
  | probe r => r.lines
  | select r => r.lines
  | options r => r.lines

/-- The report as JSON. -/
def json : Report → Except CommandFault Json.Document
  | probe r => r.json
  | select r => .ok r.json
  | options r => r.json

/-- The paths that the report names. -/
def paths : Report → List Path
  | probe r => [r.path]
  | select _ => []
  | options r => r.config.toList ++ [r.agentPath]

/-- The lines of the report as they are printed. -/
def text (r : Report) : String := String.join (r.lines.map (· ++ "\n"))

/-- How the command ends once its report is printed. -/
def failure? : Report → Option CommandFault
  | probe r => if r.loaded then none else some (.probeFailed r.path)
  | select _ => none
  | options _ => none

/-- Whether the report says that a library was loaded or a class is selected. -/
def isPositive : Report → Bool
  | probe r => r.loaded
  | select r => r.matched
  | options _ => false

/-- The member of the JSON document that says so. -/
def verdictKey? : Report → Option String
  | probe _ => some "loaded"
  | select _ => some "matched"
  | options _ => none

/-- What is printed of a report. -/
def printed (r : Report) (format : Format) : Printed :=
  (Printed.choose format r.lines r.json).failing r.failure?

end Report

/-- What a command prints when it has made a report, or has failed to make one. -/
def Printed.ofReport (format : Format) : Except CommandFault Report → Printed
  | .ok r => r.printed format
  | .error fault => ⟨"", some fault⟩

/-- Makes the report of a command. -/
def Command.report (m : Machine) : Command → Script (Except CommandFault Report)
  | .probe path symbol => do return .ok (.probe (← AgentRelay.probe (.ofMachine m) path symbol))
  | .select candidate superName patterns offset =>
    pure (.ok (.select (tryPatterns candidate superName patterns offset)))
  | .options text config => do return (← preview m text config).map .options

/-! ## Printing -/

namespace Printed

theorem failing_none (p : Printed) : p.failing none = p := by
  cases p
  rw [failing, Option.or_none]

end Printed

namespace Command

variable (m : Machine) (format : Format) (c : Command)

/-- All that a command does besides printing, it does to make its report. -/
theorem deeds_run : (c.run m format).deeds = (c.report m).deeds := by
  cases c with
  | probe path symbol => rfl
  | select candidate superName patterns offset => rfl
  | options text config =>
    rw [run, report, Script.deeds_bind, Script.deeds_bind]
    cases (preview m text config).answer <;> rfl

/-- What a command prints is its report. -/
theorem answer_run : (c.run m format).answer = Printed.ofReport format (c.report m).answer := by
  cases c with
  | probe path symbol => rfl
  | select candidate superName patterns offset => exact (Printed.failing_none _).symm
  | options text config =>
    rw [run, report, Script.answer_bind, Script.answer_bind]
    cases (preview m text config).answer with
    | error fault => rfl
    | ok r => exact (Printed.failing_none _).symm

end Command

/-! ## Paths in JSON -/

theorem Path.json_of_isText {p : Path} (h : p.IsText) : ∃ document, p.json = .ok document := by
  obtain ⟨text, htext⟩ := h
  exact ⟨.string text, by rw [json, (text?_eq_some_iff p text).2 htext]⟩

theorem Path.json_of_not_isText {p : Path} (h : ¬ p.IsText) : p.json = .error .unwritablePath := by
  rw [json, (text?_eq_none_iff p).2 h]

namespace Report

/-- All paths of the report are text. -/
def Writable (r : Report) : Prop := ∀ p ∈ r.paths, p.IsText

/-- A report whose paths are text has a JSON document. -/
theorem json_of_writable {r : Report} (h : r.Writable) : ∃ document, r.json = .ok document := by
  cases r with
  | probe r =>
    obtain ⟨path, hpath⟩ := Path.json_of_isText (h r.path (List.mem_singleton.2 rfl))
    exact ⟨_, by rw [json, ProbeReport.json, hpath, Except.map]⟩
  | select r => exact ⟨r.json, rfl⟩
  | options r =>
    obtain ⟨config, agentPath, options⟩ := r
    obtain ⟨agent, hagent⟩ := Path.json_of_isText (h agentPath (List.mem_append_right _ (List.mem_singleton.2 rfl)))
    rw [json, OptionsReport.json, hagent]
    cases config with
    | none => exact ⟨_, rfl⟩
    | some config =>
      obtain ⟨source, hsource⟩ := Path.json_of_isText (h config (List.mem_cons_self ..))
      exact ⟨_, by simp only [hsource]; rfl⟩

/-- A report with a path that is no text has none. -/
theorem json_of_not_writable {r : Report} (h : ¬ r.Writable) : r.json = .error .unwritablePath := by
  cases r with
  | probe r =>
    have hpath : ¬ r.path.IsText := by simpa [Writable, paths] using h
    rw [json, ProbeReport.json, Path.json_of_not_isText hpath, Except.map]
  | select r => exact absurd (fun p hp => (nomatch hp)) h
  | options r =>
    obtain ⟨config, agentPath, options⟩ := r
    rw [json, OptionsReport.json]
    cases config with
    | none =>
      have hagent : ¬ agentPath.IsText := by simpa [Writable, paths] using h
      rw [Path.json_of_not_isText hagent]
      rfl
    | some source =>
      by_cases hsource : source.IsText
      · have hagent : ¬ agentPath.IsText := by simpa [Writable, paths, hsource] using h
        obtain ⟨document, hdocument⟩ := Path.json_of_isText hsource
        simp only [hdocument, Path.json_of_not_isText hagent]
        rfl
      · simp only [Path.json_of_not_isText hsource]
        rfl

/-- The check mark stands in front of the lines exactly when the report is positive. -/
theorem head?_text (r : Report) : r.text.toList.head? = some '✓' ↔ r.isPositive = true := by
  rw [text, String.toList_join]
  cases r with
  | probe r =>
    obtain ⟨path, symbol, found⟩ := r
    cases found <;>
      simp [lines, isPositive, ProbeReport.lines, ProbeReport.address?, ProbeReport.loaded, Except.isOk, Except.toBool]
  | select r =>
    cases hmatched : r.matched <;> simp [lines, isPositive, MatchReport.lines, hmatched]
  | options r =>
    obtain ⟨config, agentPath, options⟩ := r
    cases config <;> simp [lines, isPositive, OptionsReport.lines]

/-- A JSON document says whether the report is positive. -/
theorem member?_verdict {r : Report} {document : Json.Document} (h : r.json = .ok document) :
    ∀ key ∈ r.verdictKey?, document.member? key = some (.bool r.isPositive) := by
  cases r with
  | probe r =>
    rintro key ⟨⟩
    rw [json, ProbeReport.json] at h
    cases hpath : r.path.json with
    | error fault =>
      rw [hpath] at h
      cases h
    | ok path =>
      rw [hpath] at h
      obtain rfl := Except.ok.inj h
      rfl
  | select r =>
    rintro key ⟨⟩
    obtain rfl := Except.ok.inj h
    rfl
  | options r => exact fun key hkey => nomatch hkey

/-! ## Printed reports -/

theorem printed_lines (r : Report) : r.printed .lines = ⟨r.text, r.failure?⟩ := rfl

theorem printed_json_of_ok {r : Report} {document : Json.Document} (h : r.json = .ok document) :
    r.printed .json = ⟨document.pretty ++ "\n", r.failure?⟩ := by
  have hline : String.join ([document.pretty].map (· ++ "\n")) = document.pretty ++ "\n" := by simp
  rw [printed, h]
  simp only [Printed.choose, Printed.ofJson, Printed.ofLines, Printed.failing, hline, Option.none_or]

theorem printed_json_of_error {r : Report} {fault : CommandFault} (h : r.json = .error fault) :
    r.printed .json = ⟨"", some fault⟩ := by
  rw [printed, h]
  rfl

end Report

/-- Whatever the format, a command does the same.  Without a report it fails in the same way and prints nothing.  A
report is always printed as lines, and as JSON if its paths are text: then the formats succeed or fail alike, and the
check mark stands for the same answer as the member of the document.  If some path is no text, JSON prints nothing and
fails for this reason.  So JSON succeeds precisely when the lines do and all paths are text. -/
theorem Command.formats_alike (m : Machine) (c : Command) :
    let lines := c.run m .lines
    let json := c.run m .json
    lines.deeds = json.deeds ∧
    ((∃ fault, (c.report m).answer = .error fault ∧ lines.answer = ⟨"", some fault⟩ ∧ json.answer = ⟨"", some fault⟩) ∨
      ∃ r, (c.report m).answer = .ok r ∧
        lines.answer = ⟨r.text, r.failure?⟩ ∧
        (json.answer.failure? = none ↔ lines.answer.failure? = none ∧ r.Writable) ∧
        (r.Writable → ∃ document, r.json = .ok document ∧ json.answer = ⟨document.pretty ++ "\n", r.failure?⟩ ∧
          ∀ key ∈ r.verdictKey?, (r.text.toList.head? = some '✓' ↔ document.member? key = some (.bool true))) ∧
        (¬ r.Writable → json.answer = ⟨"", some .unwritablePath⟩)) := by
  intro lines json
  refine ⟨by rw [deeds_run, deeds_run], ?_⟩
  have hlines : lines.answer = _ := answer_run m .lines c
  have hjson : json.answer = _ := answer_run m .json c
  cases hreport : (c.report m).answer with
  | error fault =>
    rw [hreport] at hlines hjson
    exact .inl ⟨fault, rfl, hlines, hjson⟩
  | ok r =>
    rw [hreport, Printed.ofReport] at hlines hjson
    rw [Report.printed_lines] at hlines
    refine .inr ⟨r, rfl, hlines, ?_⟩
    rw [hlines, hjson]
    by_cases hwritable : r.Writable
    · obtain ⟨document, hdocument⟩ := Report.json_of_writable hwritable
      rw [Report.printed_json_of_ok hdocument]
      refine ⟨by simp [hwritable], fun _ => ⟨document, hdocument, rfl, fun key hkey => ?_⟩, fun h => absurd hwritable h⟩
      rw [Report.head?_text, Report.member?_verdict hdocument key hkey]
      simp
    · rw [Report.printed_json_of_error (Report.json_of_not_writable hwritable)]
      exact ⟨by simp [hwritable], fun h => absurd h hwritable, fun _ => rfl⟩

/-- A preview whose agent lies below a home directory that is no text succeeds as lines and fails as JSON.  Of a
library whose path is no text JSON prints no report. -/
theorem Command.not_forall_formats_alike :
    (¬ ∀ (m : Machine) (c : Command),
      (c.run m .json).answer.failure? = none ↔ (c.run m .lines).answer.failure? = none) ∧
    ¬ ∀ (m : Machine) (c : Command), (c.report m).answer.isOk = true → (c.run m .json).answer.output ≠ "" := by
  let m : Machine := { Machine.ofFile "c.conf" "agentPath=~/a.so" 0 with home := some ⟨[0xFF]⟩ }
  constructor
  · intro h
    let c : Command := .options "" (some (.ofString "c.conf"))
    have hlines : (c.run m .lines).answer.failure? = none := by decide +kernel
    have hjson : (c.run m .json).answer.failure? = some .unwritablePath := by decide +kernel
    rw [(h m c).2 hlines] at hjson
    cases hjson
  · intro h
    let c : Command := .probe ⟨0xFF :: Utf8.encode ".conf"⟩ agentSymbol
    have hreport : (c.report m).answer.isOk = true := by decide +kernel
    have hjson : (c.run m .json).answer.output = "" := by decide +kernel
    exact h m c hreport hjson

end AgentRelay
