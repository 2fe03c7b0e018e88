import AgentRelay.Proofs.Config.Lines
import AgentRelay.Proofs.Options.Grammar

set_option autoImplicit false

/-!
# The ends of lines

The lines of a file may each end in their own way, and the last one needs no end.  `WritesLines` is the grammar of these
files.  Lines hold no LF, and none ends with a CR, since that would belong to its end; a CR anywhere else in a line is
a character of it.

However the lines end, the entries of the file are its lines without the empty ones (`entriesOf_unixLines`).  So the
ends decide nothing: a file is refused exactly when one of its lines is neither empty nor a pair, and otherwise it holds
the pairs of its lines, each with all its characters (`ofLines_of_writesLines`).
-/

namespace AgentRelay.Config

/-! ## Files -/

/-- The ends of a line. -/
def lineEnds : List (List Char) := [['\n'], ['\r', '\n']]

/-- A line: it ends nowhere before its end. -/
def IsLine (line : String) : Prop := '\n' ∉ line.toList ∧ line.toList.getLast? ≠ some '\r'

instance (line : String) : Decidable (IsLine line) := inferInstanceAs (Decidable (_ ∧ _))

/-- The files that hold lines.  Each line has its own end, and the last one may have none. -/
inductive WritesLines : List String → List Char → Prop where
  | nil : WritesLines [] []
  | last (line : String) : WritesLines [line] line.toList
  | cons {line : String} {lines : List String} {ending rest : List Char} : ending ∈ lineEnds → WritesLines lines rest →
      WritesLines (line :: lines) (line.toList ++ (ending ++ rest))

/-- In whatever way a line ends, it ends with an LF when its file has Unix line ends. -/
theorem unixLines_line {line : String} (hline : IsLine line) {ending : List Char} (hending : ending ∈ lineEnds)
    (rest : List Char) : unixLines (line.toList ++ (ending ++ rest)) = line.toList ++ '\n' :: unixLines rest := by
  obtain ⟨hfree, hlast⟩ := hline
  rw [unixLines_append hfree fun h => absurd h hlast]
  simp only [lineEnds, List.mem_cons, List.not_mem_nil, or_false] at hending
  rcases hending with rfl | rfl
  · rw [List.singleton_append, unixLines]
    simp
  · rfl

/-- The entries of a file are its lines, without the empty ones. -/
theorem entriesOf_unixLines {lines : List String} {text : List Char} (h : WritesLines lines text)
    (hlines : ∀ line ∈ lines, IsLine line) :
    Options.entriesOf ['\n'] (unixLines text) = (lines.filter (· ≠ "")).map String.toList := by
  have hentry : ∀ line : String, (if line.toList = [] then [] else [line.toList]) =
      ([line].filter (· ≠ "")).map String.toList := by
    intro line
    by_cases hempty : line = "" <;> simp [hempty]
  induction h with
  | nil => exact Options.entriesOf_nil ['\n']
  | last line =>
    obtain ⟨hfree, hlast⟩ := hlines line (.head _)
    have hunix : unixLines (line.toList ++ []) = line.toList ++ unixLines [] :=
      unixLines_append hfree fun hend => absurd hend hlast
    rw [List.append_nil, unixLines, List.append_nil] at hunix
    rw [hunix, Options.entriesOf_line hfree, hentry]
  | @cons line lines ending rest hending _ ih =>
    obtain ⟨hline, hrest⟩ := List.forall_mem_cons.1 hlines
    rw [unixLines_line hline hending, Options.entriesOf_append_cons, Options.entriesOf_line hline.1, ih hrest, hentry,
      ← List.map_append, ← List.filter_append, List.singleton_append]

/-! ## Configurations -/

/-- The line holds the pair: the key ends at the first sign between key and value, and no character is lost. -/
def HoldsPair (line : String) (pair : Pair) : Prop := '=' ∉ pair.1.toList ∧ line = pair.1 ++ "=" ++ pair.2

instance (line : String) (pair : Pair) : Decidable (HoldsPair line pair) := inferInstanceAs (Decidable (_ ∧ _))

theorem holds_equalsSign_iff (line : String) (pair : Pair) :
    Options.Holds Options.equalsSign.toList line.toList pair ↔ HoldsPair line pair := by
  rw [Options.Holds, Options.toList_equalsSign, Split.firstCut_singleton_iff, HoldsPair, ← @String.toList_inj line]
  simp

theorem ofLines_eq_ok_iff (text : String) (config : Config) :
    ofLines text = .ok config ↔
      config.source = none ∧ Options.parseLines (unixLineEndings text) = .ok config.options := by
  obtain ⟨source, options⟩ := config
  rw [ofLines, map_eq_ok_iff]
  simp [and_comm, eq_comm]

theorem ofLines_eq_error_iff (text : String) (fault : Fault) :
    ofLines text = .error fault ↔ Options.parseLines (unixLineEndings text) = .error fault := by
  rw [ofLines, map_eq_error_iff]

section

variable {lines : List String} {text : String} (hlines : ∀ line ∈ lines, IsLine line)
  (hwritten : WritesLines lines text.toList)

include hlines hwritten

theorem entriesOf_of_writesLines :
    Options.entriesOf Options.lineFeed.toList (unixLineEndings text).toList =
      (lines.filter (· ≠ "")).map String.toList := by
  rw [Options.toList_lineFeed, unixLineEndings, String.toList_ofList, entriesOf_unixLines hwritten hlines]

/-- A file is accepted when each of its lines holds a pair or is empty. -/
theorem ofLines_eq_ok_iff_of_writesLines (config : Config) :
    ofLines text = .ok config ↔ config.source = none ∧ ∃ pairs : List Pair,
      List.Forall₂ HoldsPair (lines.filter (· ≠ "")) pairs ∧ config.options = Options.ofPairs pairs := by
  rw [ofLines_eq_ok_iff, Options.parseLines, Options.parseWith_eq_ok_iff, entriesOf_of_writesLines hlines hwritten]
  simp only [Options.map_parsePair_eq_iff, List.forall₂_map_left_iff, holds_equalsSign_iff]

/-- A file is refused because of a line that holds none. -/
theorem ofLines_eq_error_iff_of_writesLines (fault : Fault) :
    ofLines text = .error fault ↔
      (∃ line ∈ lines, line ≠ "" ∧ '=' ∉ line.toList) ∧ fault = .malformedOptions (unixLineEndings text) := by
  rw [ofLines_eq_error_iff, Options.parseLines, Options.parseWith_eq_error_iff,
    entriesOf_of_writesLines hlines hwritten]
  simp [Options.toList_equalsSign, List.singleton_infix_iff, and_assoc]

end

/-- However its lines end, a file is refused exactly when one of them is not empty and holds no sign between key and
value.  Otherwise it holds the pairs of its lines in order, and so does every other file of these lines. -/
theorem ofLines_of_writesLines {lines : List String} {text : String} (hlines : ∀ line ∈ lines, IsLine line)
    (hwritten : WritesLines lines text.toList) :
    ((∃ fault, ofLines text = .error fault) ↔ ∃ line ∈ lines, line ≠ "" ∧ '=' ∉ line.toList) ∧
    (∀ fault, ofLines text = .error fault → fault = .malformedOptions (unixLineEndings text)) ∧
    (∀ config, ofLines text = .ok config ↔ config.source = none ∧ ∃ pairs : List Pair,
      List.Forall₂ HoldsPair (lines.filter (· ≠ "")) pairs ∧ config.options = Options.ofPairs pairs) ∧
    ∀ text' : String, WritesLines lines text'.toList →
      ∀ config, ofLines text' = .ok config ↔ ofLines text = .ok config := by
  have hrefused := ofLines_eq_error_iff_of_writesLines hlines hwritten
  have haccepted := ofLines_eq_ok_iff_of_writesLines hlines hwritten
  refine ⟨?_, fun fault h => ((hrefused fault).1 h).2, haccepted, fun text' hwritten' config => ?_⟩
  · simp [hrefused]
  · rw [ofLines_eq_ok_iff_of_writesLines hlines hwritten', haccepted]

/-- Three kinds of ends, a CR and a second sign in a value, a blank line with a CR, and a key that is given twice. -/
theorem ofLines_of_writesLines_mixed :
    let lines := ["agentPath=C:\\a=b\rc", "", "logLevel=", "agentPath=/x"]
    let text := "agentPath=C:\\a=b\rc\r\n\r\nlogLevel=\nagentPath=/x"
    (∀ line ∈ lines, IsLine line) ∧ WritesLines lines text.toList ∧
      ofLines text = .ok ⟨none, Options.ofPairs [("agentPath", "/x"), ("logLevel", "")]⟩ := by
  intro lines text
  have hlines : ∀ line ∈ lines, IsLine line := by decide
  have hwritten : WritesLines lines text.toList := by
    have hparts : WritesLines lines _ :=
      .cons (.tail _ (.head _)) (.cons (.tail _ (.head _)) (.cons (.head _) (.last "agentPath=/x")))
    refine Eq.subst (motive := WritesLines lines) ?_ hparts
    decide +kernel
  obtain ⟨-, -, haccepted, -⟩ := ofLines_of_writesLines hlines hwritten
  have hpairs : List.Forall₂ HoldsPair (lines.filter (· ≠ ""))
      [("agentPath", "C:\\a=b\rc"), ("logLevel", ""), ("agentPath", "/x")] :=
    .cons (by decide) (.cons (by decide) (.cons (by decide) .nil))
  exact ⟨hlines, hwritten, (haccepted _).2 ⟨rfl, _, hpairs, by decide⟩⟩

end AgentRelay.Config
