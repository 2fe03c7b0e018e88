import AgentRelay.Config
import AgentRelay.Proofs.Options.RoundTrip

set_option autoImplicit false

/-!
# Configurations in lines

Unix line ends are made before a text is cut into lines.  That leaves a line alone that holds no LF, unless a CR at its
end meets an LF behind it (`unixLines_append`).

So pairs that can stand on a line are read back from their lines (`ofLines_lineFile`).
-/

namespace AgentRelay

/-! ## Line ends -/

/-- Only a CR directly before an LF is taken away, and a line without LF can hold such a CR only at its end. -/
theorem unixLines_append {line rest : List Char} (hfree : '\n' ∉ line)
    (hend : line.getLast? = some '\r' → rest.head? ≠ some '\n') : unixLines (line ++ rest) = line ++ unixLines rest := by
  induction line with
  | nil => rfl
  | cons c line ih =>
    obtain ⟨-, hline⟩ := List.ne_and_not_mem_of_not_mem_cons hfree
    rw [List.cons_append, unixLines, ih hline, List.cons_append]
    · intro h
      apply hend
      cases line with
      | nil => simp at h
      | cons d line => simpa using h
    · rintro others rfl hothers
      cases line with
      | nil => exact hend rfl (by simpa using congrArg List.head? hothers)
      | cons d line =>
        obtain rfl : d = '\n' := by simpa using congrArg List.head? hothers
        exact hline (.head _)

/-! ## Entries -/

namespace Options

/-- A line is one entry, if it is not empty. -/
theorem entriesOf_line {c : Char} {line : List Char} (hfree : c ∉ line) :
    entriesOf [c] line = if line = [] then [] else [line] := by
  rw [entriesOf, Split.pieces_singleton, List.splitOn_eq_singleton hfree]
  by_cases h : line = [] <;> simp [h]

end Options

/-! ## Files -/

/-- The pair can be written on a line: its key ends at the first sign between key and value, and its value at the end
of the line, which takes no CR away from it. -/
def FitsLine (pair : Pair) : Prop :=
  '=' ∉ pair.1.toList ∧ '\n' ∉ pair.1.toList ∧ '\n' ∉ pair.2.toList ∧ pair.2.toList.getLast? ≠ some '\r'

instance (pair : Pair) : Decidable (FitsLine pair) := inferInstanceAs (Decidable (_ ∧ _ ∧ _ ∧ _))

namespace Config

/-- One pair on each line, with an LF behind each of them. -/
def lineFile (pairs : List Pair) : String :=
  String.ofList (pairs.flatMap fun pair => Options.renderPair pair ++ Options.lineFeed.toList)

theorem toList_lineFile_cons (pair : Pair) (pairs : List Pair) :
    (lineFile (pair :: pairs)).toList = Options.renderPair pair ++ '\n' :: (lineFile pairs).toList := by
  simp [lineFile, Options.toList_lineFeed]

theorem notMem_renderPair_of_fitsLine {pair : Pair} (h : FitsLine pair) : '\n' ∉ Options.renderPair pair := by
  obtain ⟨-, hkey, hvalue, -⟩ := h
  exact Options.notMem_renderPair (by decide) hkey hvalue

/-- A line ends with the sign between key and value or with the last character of the value. -/
theorem getLast?_renderPair_of_fitsLine {pair : Pair} (h : FitsLine pair) :
    (Options.renderPair pair).getLast? ≠ some '\r' := by
  obtain ⟨-, -, -, hvalue⟩ := h
  rw [Options.renderPair, Options.toList_equalsSign, List.getLast?_append]
  cases hlast : pair.2.toList.getLast? with
  | none => simp
  | some c => simpa [hlast] using hvalue

/-- The line ends of a file of pairs are Unix line ends. -/
theorem unixLines_lineFile {pairs : List Pair} (h : ∀ pair ∈ pairs, FitsLine pair) :
    unixLines (lineFile pairs).toList = (lineFile pairs).toList := by
  induction pairs with
  | nil => rfl
  | cons pair rest ih =>
    obtain ⟨hpair, hrest⟩ := List.forall_mem_cons.1 h
    have hend := getLast?_renderPair_of_fitsLine hpair
    rw [toList_lineFile_cons, unixLines_append (notMem_renderPair_of_fitsLine hpair) fun hlast => absurd hlast hend,
      unixLines, ih hrest]
    simp

/-- The entries of a file of pairs are the pairs as text. -/
theorem entriesOf_lineFile {pairs : List Pair} (h : ∀ pair ∈ pairs, FitsLine pair) :
    Options.entriesOf ['\n'] (lineFile pairs).toList = pairs.map Options.renderPair := by
  induction pairs with
  | nil => exact Options.entriesOf_nil ['\n']
  | cons pair rest ih =>
    obtain ⟨hpair, hrest⟩ := List.forall_mem_cons.1 h
    rw [toList_lineFile_cons, Options.entriesOf_append_cons,
      Options.entriesOf_line (notMem_renderPair_of_fitsLine hpair), if_neg (Options.renderPair_ne_nil pair), ih hrest,
      List.singleton_append, List.map_cons]

/-- Pairs that can stand on a line are read back from their lines. -/
theorem ofLines_lineFile {pairs : List Pair} (h : ∀ pair ∈ pairs, FitsLine pair) :
    ofLines (lineFile pairs) = .ok ⟨none, Options.ofPairs pairs⟩ := by
  have hunix : unixLineEndings (lineFile pairs) = lineFile pairs := by
    rw [unixLineEndings, unixLines_lineFile h, String.ofList_toList]
  have hpairs : (pairs.map Options.renderPair).mapM (Options.parsePair Options.equalsSign.toList) = some pairs := by
    rw [mapM_eq_some_iff, List.map_map]
    exact List.map_congr_left fun pair hpair => (Options.parsePair_eq_some_iff_renderPair ..).2 ⟨(h pair hpair).1, rfl⟩
  rw [ofLines, hunix, Options.parseLines, Options.parseWith_eq, Options.toList_lineFeed, entriesOf_lineFile h, hpairs]
  rfl

end Config

end AgentRelay
