import AgentRelay.Path
import AgentRelay.Proofs.Split
import AgentRelay.Proofs.Utf8.Lenient

set_option autoImplicit false

/-!
# Components of paths

The components of a path are what it begins with, `lead`, and the names that lead on from there, `steps`.  A separator
between two parts of a path ends a name wherever it stands, so the steps of both parts follow each other
(`steps_append`), and what the path begins with is decided by the first part alone (`lead_append`).

So a relative path below a directory has the components of the directory in front (`components_join`).
-/

namespace AgentRelay.Path

/-! ## Paths that are text -/

/-- The path is the UTF-8 form of a text. -/
def IsText (p : Path) : Prop := ∃ text, p = ofString text

theorem text?_eq_some_iff (p : Path) (text : String) : p.text? = some text ↔ p = ofString text := by
  obtain ⟨bytes⟩ := p
  rw [text?, Utf8.decode?_eq_some_iff, ofString, mk.injEq]

theorem text?_eq_none_iff (p : Path) : p.text? = none ↔ ¬ p.IsText := by
  simp only [Option.eq_none_iff_forall_ne_some, ne_eq, text?_eq_some_iff, IsText, not_exists]

/-! ## Steps -/

/-- The names that lead somewhere. -/
def steps (p : Path) : List Utf8.Bytes := p.names.filter fun name => !name.isEmpty && name != here

/-- What stands before the steps: the root, the directory itself, or nothing. -/
def lead (p : Path) : List Utf8.Bytes :=
  if p.isAbsolute then [[separator]] else if p.names.head? == some here then [here] else []

theorem components_eq (p : Path) : p.components = p.lead ++ p.steps := rfl

theorem names_append (a b : Utf8.Bytes) : names ⟨a ++ separator :: b⟩ = names ⟨a⟩ ++ names ⟨b⟩ :=
  Split.pieces_append_cons separator a b

theorem names_ne_nil (p : Path) : p.names ≠ [] := Split.pieces_ne_nil _ _

theorem names_nil : names ⟨[]⟩ = [[]] := by
  rw [names, Split.pieces_singleton, List.splitOn_nil]

theorem steps_append (a b : Utf8.Bytes) : steps ⟨a ++ separator :: b⟩ = steps ⟨a⟩ ++ steps ⟨b⟩ := by
  rw [steps, names_append, List.filter_append, steps, steps]

/-- A separator at the end leads nowhere further. -/
theorem steps_append_separator (a : Utf8.Bytes) : steps ⟨a ++ [separator]⟩ = steps ⟨a⟩ := by
  rw [steps_append, steps, steps, names_nil]
  simp

/-- What stands before the steps is decided before the first separator. -/
theorem lead_append (a b : Utf8.Bytes) :
    lead ⟨a ++ separator :: b⟩ = if a = [] then [[separator]] else lead ⟨a⟩ := by
  by_cases ha : a = []
  · rw [if_pos ha, ha, List.nil_append, lead, isAbsolute, List.head?_cons, if_pos (beq_self_eq_true _)]
  · have hhead : (a ++ separator :: b).head? = a.head? := List.head?_append_of_ne_nil _ ha
    have hname : (names ⟨a⟩ ++ names ⟨b⟩).head? = (names ⟨a⟩).head? :=
      List.head?_append_of_ne_nil _ (names_ne_nil ⟨a⟩)
    rw [if_neg ha, lead, lead, isAbsolute, isAbsolute, names_append, hhead, hname]

/-! ## Paths below a directory -/

/-- A relative path is put behind the directory, with one separator between the two. -/
theorem bytes_join {base rest : Path} (hbase : base.bytes ≠ []) (hrest : rest.isAbsolute = false) :
    (base.join rest).bytes =
      if base.bytes.getLast? = some separator then base.bytes ++ rest.bytes
      else base.bytes ++ separator :: rest.bytes := by
  have hempty : base.bytes.isEmpty = false := List.isEmpty_eq_false_iff.2 hbase
  rw [join, if_neg (Bool.eq_false_iff.1 hrest), hempty, Bool.false_or]
  by_cases hlast : base.bytes.getLast? = some separator
  · rw [if_pos (beq_iff_eq.2 hlast), if_pos hlast]
  · rw [if_neg (mt beq_iff_eq.1 hlast), if_neg hlast]

/-- The components of a path below a directory are those of the directory and the steps of the path. -/
theorem components_join {base rest : Path} (hbase : base.bytes ≠ []) (hrest : rest.isAbsolute = false) :
    (base.join rest).components = base.components ++ rest.steps := by
  obtain ⟨base⟩ := base
  obtain ⟨rest⟩ := rest
  have hbytes := bytes_join hbase hrest
  generalize join ⟨base⟩ ⟨rest⟩ = joined at hbytes
  obtain ⟨joined⟩ := joined
  dsimp only at hbase hbytes
  rw [components_eq, components_eq, List.append_assoc]
  split at hbytes
  · next hlast =>
    -- the separator at the end of the directory is the one between the two
    obtain ⟨front, rfl⟩ := List.getLast?_eq_some_iff.1 hlast
    rw [hbytes, List.append_assoc, List.singleton_append, lead_append, lead_append, steps_append,
      steps_append_separator]
  · rw [hbytes, lead_append, if_neg hbase, steps_append]

theorem components_prefix_join {base rest : Path} (hbase : base.bytes ≠ []) (hrest : rest.isAbsolute = false) :
    base.components <+: (base.join rest).components := by
  rw [components_join hbase hrest]
  exact List.prefix_append _ _

end AgentRelay.Path
