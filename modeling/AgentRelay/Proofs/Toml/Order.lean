import AgentRelay.Proofs.Toml.Local

set_option autoImplicit false

/-!
# The order in which a document lists its keys

A document is a list of pairs in its own table, and behind them sections, each a header with the pairs below it.  A pair
and a section are about one key of the document's own table, the first part of their key.  `Layout` is a document in
this form, and every document that can be read has it (`exists_layout`).

A document can be rearranged as long as what is about the same key keeps its order.  This changes nothing: the
rearranged document has the same table, or none if there was none (`Rearranged.parse_eq`).
-/

namespace AgentRelay.Toml

/-! ## Layouts -/

/-- A pair in the document's own table.  Its key has a first part, and perhaps further ones. -/
structure RootPair where
  root : String
  below : List String
  value : Value

/-- A header with the pairs below it. -/
structure Section where
  root : String
  below : List String
  isElement : Bool
  pairs : List (List String × Value)

/-- The pairs of the document's own table, and the sections behind them. -/
structure Layout where
  pairs : List RootPair
  sections : List Section

def RootPair.statement (p : RootPair) : Statement := .pair (p.root :: p.below) p.value

def Section.header (s : Section) : Statement :=
  if s.isElement then .elementHeader (s.root :: s.below) else .header (s.root :: s.below)

def Section.statements (s : Section) : List Statement := s.header :: s.pairs.map fun pair => .pair pair.1 pair.2

def Layout.statements (l : Layout) : List Statement :=
  l.pairs.map RootPair.statement ++ l.sections.flatMap Section.statements

/-- What is about one key of the document's own table. -/
def Layout.about (l : Layout) (key : String) : Layout :=
  ⟨l.pairs.filter (·.root = key), l.sections.filter (·.root = key)⟩

/-- The second document says the same as the first one of each key of its own table, and in the same order. -/
def Rearranged (text text' : String) : Prop :=
  ∃ layout layout' : Layout, statements text = some layout.statements ∧ statements text' = some layout'.statements ∧
    ∀ key, layout.about key = layout'.about key

theorem Rearranged.symm {text text' : String} (h : Rearranged text text') : Rearranged text' text := by
  obtain ⟨layout, layout', hlayout, hlayout', habout⟩ := h
  exact ⟨layout', layout, hlayout', hlayout, fun key => (habout key).symm⟩

/-! ## Every document has a layout -/

/-- The key that a statement names. -/
def Statement.key : Statement → List String
  | .pair key _ => key
  | .header key => key
  | .elementHeader key => key

theorem keyParts_ne_nil {limit : Nat} {s rest : List Char} {key : List String}
    (h : keyParts limit s = some (key, rest)) : key ≠ [] := by
  cases limit with
  | zero => cases h
  | succ limit =>
    rw [keyParts] at h
    split at h
    · cases h
    · split at h
      · obtain ⟨read, -, heq⟩ := Option.map_eq_some_iff.1 h
        obtain ⟨rfl, -⟩ := Prod.mk.inj heq
        exact List.cons_ne_nil _ _
      · obtain ⟨rfl, -⟩ := Prod.mk.inj (Option.some.inj h)
        exact List.cons_ne_nil _ _

theorem key_ne_nil_of_statement {s rest : List Char} {st : Statement} (h : statement s = some (st, rest)) :
    st.key ≠ [] := by
  unfold statement at h
  split at h
  · split at h
    · next hkey =>
      obtain ⟨rfl, -⟩ := Prod.mk.inj (Option.some.inj h)
      exact keyParts_ne_nil hkey
    · cases h
  · split at h
    · next hkey =>
      obtain ⟨rfl, -⟩ := Prod.mk.inj (Option.some.inj h)
      exact keyParts_ne_nil hkey
    · cases h
  · split at h
    · next hkey =>
      obtain ⟨read, -, heq⟩ := Option.map_eq_some_iff.1 h
      obtain ⟨rfl, -⟩ := Prod.mk.inj heq
      exact keyParts_ne_nil hkey
    · cases h

theorem key_ne_nil_of_mem_statementsFrom {fuel : Nat} {s : List Char} {sts : List Statement}
    (h : statementsFrom fuel s = some sts) : ∀ st ∈ sts, st.key ≠ [] := by
  induction fuel generalizing s sts with
  | zero => cases h
  | succ fuel ih =>
    rw [statementsFrom] at h
    split at h
    · obtain rfl := Option.some.inj h
      exact fun st hst => absurd hst List.not_mem_nil
    · split at h
      · cases h
      · next hstatement =>
        split at h
        · cases h
        · obtain ⟨others, hothers, rfl⟩ := Option.map_eq_some_iff.1 h
          exact List.forall_mem_cons.2 ⟨key_ne_nil_of_statement hstatement, ih hothers⟩

/-- A statement in front of a document is a further pair of its own table, or a header to which these pairs now
belong. -/
theorem exists_layout_cons (st : Statement) (hst : st.key ≠ []) (l : Layout) :
    ∃ layout : Layout, layout.statements = st :: l.statements := by
  obtain ⟨root, below, hkey⟩ := List.exists_cons_of_ne_nil hst
  have hpairs : l.pairs.map RootPair.statement =
      (l.pairs.map fun p => (p.root :: p.below, p.value)).map fun pair => Statement.pair pair.1 pair.2 := by
    rw [List.map_map]
    rfl
  cases st with
  | pair key v =>
    obtain rfl : key = root :: below := hkey
    exact ⟨⟨⟨root, below, v⟩ :: l.pairs, l.sections⟩, rfl⟩
  | header key =>
    obtain rfl : key = root :: below := hkey
    refine ⟨⟨[], ⟨root, below, false, l.pairs.map fun p => (p.root :: p.below, p.value)⟩ :: l.sections⟩, ?_⟩
    rw [Layout.statements, Layout.statements, hpairs]
    rfl
  | elementHeader key =>
    obtain rfl : key = root :: below := hkey
    refine ⟨⟨[], ⟨root, below, true, l.pairs.map fun p => (p.root :: p.below, p.value)⟩ :: l.sections⟩, ?_⟩
    rw [Layout.statements, Layout.statements, hpairs]
    rfl

/-- Every document that can be read has a layout. -/
theorem exists_layout {text : String} {sts : List Statement} (h : statements text = some sts) :
    ∃ layout : Layout, layout.statements = sts := by
  have hkeys := key_ne_nil_of_mem_statementsFrom h
  clear h
  induction sts with
  | nil => exact ⟨⟨[], []⟩, rfl⟩
  | cons st rest ih =>
    obtain ⟨hst, hrest⟩ := List.forall_mem_cons.1 hkeys
    obtain ⟨l, rfl⟩ := ih hrest
    exact exists_layout_cons st hst l

/-! ## Tables of layouts -/

/-- The document in which its own table alone has been filled. -/
def Draft.ofRoot (entries : Entries) : Draft := ⟨[], [], false, entries⟩

/-- The own table of a document after some statements, if it held these entries before. -/
def entriesAfter (entries : Entries) (sts : List Statement) : Option Entries :=
  (sts.foldlM Draft.add (Draft.ofRoot entries)).bind Draft.close

def RootPair.run (entries : Entries) (p : RootPair) : Option Entries := setKey (p.root :: p.below) p.value entries

def Section.run (entries : Entries) (s : Section) : Option Entries := entriesAfter entries s.statements

/-- The own table of a document, pair by pair and section by section. -/
def Layout.run (l : Layout) (entries : Entries) : Option Entries :=
  (l.pairs.foldlM RootPair.run entries).bind fun made => l.sections.foldlM Section.run made

theorem foldlM_rootPairs (pairs : List RootPair) (entries : Entries) :
    (pairs.map RootPair.statement).foldlM Draft.add (Draft.ofRoot entries) =
      (pairs.foldlM RootPair.run entries).map Draft.ofRoot := by
  induction pairs generalizing entries with
  | nil => rfl
  | cons p rest ih =>
    have hadd : (Draft.ofRoot entries).add p.statement = (p.run entries).map Draft.ofRoot := rfl
    rw [List.map_cons, List.foldlM_cons, List.foldlM_cons, hadd]
    cases p.run entries with
    | none => rfl
    | some made => exact ih made

/-- A header closes what was open, so only the closed document matters for what follows. -/
theorem add_header (s : Section) (d : Draft) :
    d.add s.header = d.close.bind fun entries => (Draft.ofRoot entries).add s.header := by
  rw [Section.header]
  split
  · rfl
  · rfl

theorem foldlM_section (s : Section) (d : Draft) :
    (s.statements.foldlM Draft.add d).bind Draft.close = d.close.bind fun entries => s.run entries := by
  rw [Section.statements, List.foldlM_cons, add_header]
  change ((d.close.bind _).bind _).bind _ = _
  rw [Option.bind_assoc, Option.bind_assoc]
  congr 1
  funext entries
  rw [Section.run, entriesAfter, Section.statements, List.foldlM_cons]
  exact (Option.bind_assoc _ _ _).symm

theorem foldlM_sections (sections : List Section) (d : Draft) :
    ((sections.flatMap Section.statements).foldlM Draft.add d).bind Draft.close =
      d.close.bind fun entries => sections.foldlM Section.run entries := by
  induction sections generalizing d with
  | nil =>
    change d.close = d.close.bind some
    rw [Option.bind_fun_some]
  | cons s rest ih =>
    rw [List.flatMap_cons, List.foldlM_append]
    change ((s.statements.foldlM Draft.add d).bind _).bind _ = _
    rw [Option.bind_assoc]
    simp only [ih]
    rw [← Option.bind_assoc, foldlM_section, Option.bind_assoc]
    rfl

/-- The table of a document comes about pair by pair and section by section. -/
theorem entriesAfter_statements (l : Layout) (entries : Entries) :
    entriesAfter entries l.statements = l.run entries := by
  rw [entriesAfter, Layout.statements, List.foldlM_append, foldlM_rootPairs, Layout.run]
  cases l.pairs.foldlM RootPair.run entries with
  | none => rfl
  | some made => exact foldlM_sections l.sections (Draft.ofRoot made)

/-! ## What is about one key -/

theorem local_rootPair (p : RootPair) : Entries.Local p.root fun entries => (p.run entries).map (Prod.mk ()) :=
  Entries.local_setKey p.root p.below p.value

/-- The entries of a table after pairs have been set in it. -/
def fill (pairs : List (List String × Value)) (entries : Entries) : Option Entries :=
  pairs.foldlM (fun entries pair => setKey pair.1 pair.2 entries) entries

theorem foldlM_pairs (pairs : List (List String × Value)) (d : Draft) :
    (pairs.map fun pair => Statement.pair pair.1 pair.2).foldlM Draft.add d =
      (fill pairs d.opened).map fun made => { d with opened := made } := by
  induction pairs generalizing d with
  | nil => rfl
  | cons pair rest ih =>
    have hadd : d.add (.pair pair.1 pair.2) =
        (setKey pair.1 pair.2 d.opened).map fun made => { d with opened := made } := rfl
    rw [List.map_cons, List.foldlM_cons, hadd, fill, List.foldlM_cons]
    cases setKey pair.1 pair.2 d.opened with
    | none => rfl
    | some made => exact ih { d with opened := made }

/-- The last part of the key of a header. -/
def Section.last (s : Section) : String := (s.root :: s.below).getLast (List.cons_ne_nil _ _)

theorem Section.getLast?_eq (s : Section) : (s.root :: s.below).getLast? = some s.last :=
  List.getLast?_eq_some_getLast _

/-- What a header opens, and what is left around it. -/
def Section.enter (s : Section) (entries : Entries) : Option (Entries × Entries) :=
  if s.isElement then
    (entries.modify false (fun _ around => around.openElement s.last) (s.root :: s.below).dropLast).map fun made =>
      ([], made)
  else entries.visit false (fun _ around => around.takeTable s.last) (s.root :: s.below).dropLast false

/-- What is around a header after what it opened has been closed. -/
def Section.leave (s : Section) (opened around : Entries) : Option Entries :=
  around.modify false (fun _ around => if s.isElement then around.addElement s.last opened
    else around.put s.last (.table false false opened)) (s.root :: s.below).dropLast

theorem add_header_ofRoot (s : Section) (entries : Entries) :
    (Draft.ofRoot entries).add s.header =
      (s.enter entries).map fun made => ⟨made.2, s.root :: s.below, s.isElement, made.1⟩ := by
  rw [Section.header, Section.enter]
  split
  · next h =>
    change Draft.openElement (s.root :: s.below) entries = _
    rw [Draft.openElement, s.getLast?_eq, Option.map_map, h]
    rfl
  · next h =>
    change Draft.openTable (s.root :: s.below) entries = _
    rw [Draft.openTable, s.getLast?_eq, Bool.eq_false_iff.2 h]

theorem close_section (s : Section) (opened around : Entries) :
    Draft.close ⟨around, s.root :: s.below, s.isElement, opened⟩ = s.leave opened around := by
  rw [Draft.close, Section.leave]
  simp only [s.getLast?_eq]

/-- A section opens a table, fills it and closes it. -/
theorem Section.run_eq (entries : Entries) (s : Section) :
    s.run entries = (s.enter entries).bind fun made =>
      (fill s.pairs made.1).bind fun opened => s.leave opened made.2 := by
  rw [Section.run, entriesAfter, Section.statements, List.foldlM_cons, add_header_ofRoot]
  cases s.enter entries with
  | none => rfl
  | some made =>
    change (((s.pairs.map fun pair => Statement.pair pair.1 pair.2).foldlM Draft.add _).bind Draft.close) = _
    rw [foldlM_pairs, Option.bind_some]
    cases fill s.pairs made.1 with
    | none => rfl
    | some opened => exact close_section s opened made.2

theorem local_enter (s : Section) : Entries.Local s.root s.enter := by
  unfold Section.enter
  split
  · have hopen := Entries.local_modify false s.getLast?_eq fun _ => Entries.local_openElement s.last
    simpa only [Option.map_map, Function.comp_def] using hopen.map fun _ => ([] : Entries)
  · exact Entries.local_visit_dropLast false s.getLast?_eq fun _ => Entries.local_takeTable s.last

theorem local_leave (s : Section) (opened : Entries) :
    Entries.Local s.root fun around => (s.leave opened around).map (Prod.mk ()) := by
  unfold Section.leave
  refine Entries.local_modify false s.getLast?_eq fun _ => ?_
  split
  · exact Entries.local_addElement s.last opened
  · exact Entries.local_put s.last _

theorem local_section (s : Section) : Entries.Local s.root fun entries => (s.run entries).map (Prod.mk ()) := by
  have hrest : ∀ found, Entries.Local s.root fun around =>
      ((fill s.pairs found).bind fun opened => s.leave opened around).map (Prod.mk ()) := by
    intro found
    cases fill s.pairs found with
    | none => exact Entries.local_none _
    | some opened => exact local_leave s opened
  simpa only [Section.run_eq, Option.map_bind, Function.comp_def] using (local_enter s).bind hrest

/-- What a document says of a key is decided by what is about this key. -/
theorem run_about {l : Layout} {entries made : Entries} (h : l.run entries = some made) (key : String) :
    (l.about key).run (entries.under key) = some (made.under key) := by
  obtain ⟨between, hpairs, hsections⟩ := Option.bind_eq_some_iff.1 h
  rw [Layout.run, Layout.about, Entries.foldlM_under local_rootPair hpairs key, Option.bind_some]
  exact Entries.foldlM_under local_section hsections key

/-- A document has a table if it has one key by key. -/
theorem isSome_run {l : Layout} {entries : Entries} (h : ∀ key, ((l.about key).run (entries.under key)).isSome) :
    (l.run entries).isSome := by
  have hpairs : (l.pairs.foldlM RootPair.run entries).isSome :=
    Entries.isSome_foldlM local_rootPair fun key => Option.isSome_of_isSome_bind (h key)
  obtain ⟨between, hbetween⟩ := Option.isSome_iff_exists.1 hpairs
  rw [Layout.run, hbetween]
  refine Entries.isSome_foldlM local_section fun key => ?_
  have hkey := h key
  rw [Layout.run, Layout.about, Entries.foldlM_under local_rootPair hbetween key] at hkey
  exact hkey

/-- A rearranged document has the same entries, perhaps in another order. -/
theorem perm_of_about_eq {l l' : Layout} (h : ∀ key, l.about key = l'.about key) {made : Entries}
    (hmade : entriesAfter [] l.statements = some made) :
    ∃ made', entriesAfter [] l'.statements = some made' ∧ made.Perm made' := by
  have hdistinct := Draft.distinct_of_close hmade
  rw [entriesAfter_statements] at hmade
  have hsome : (l'.run []).isSome := by
    refine isSome_run fun key => ?_
    have hkey := run_about hmade key
    rw [h key] at hkey
    exact Option.isSome_of_eq_some hkey
  obtain ⟨made', hmade'⟩ := Option.isSome_iff_exists.1 hsome
  have hafter : entriesAfter [] l'.statements = some made' := (entriesAfter_statements l' []).trans hmade'
  refine ⟨made', hafter, ?_⟩
  have hunder : ∀ key, made.under key = made'.under key := by
    intro key
    have hkey := run_about hmade key
    rw [h key] at hkey
    exact Option.some.inj (hkey.symm.trans (run_about hmade' key))
  rw [List.perm_ext_iff_of_nodup hdistinct.of_map (Draft.distinct_of_close hafter).of_map]
  intro entry
  have hentry := congrArg (entry ∈ ·) (hunder entry.1)
  simpa [Entries.mem_under_iff] using hentry

/-! ## Documents -/

theorem entriesWithMoments_perm {entries entries' made : List (String × Value)} (h : entries.Perm entries')
    (hmade : entriesWithMoments entries = some made) :
    ∃ made', entriesWithMoments entries' = some made' ∧ made.Perm made' := by
  induction h generalizing made with
  | nil => exact ⟨made, hmade, .refl made⟩
  | cons entry _ ih =>
    obtain ⟨v, others, hv, hothers, rfl⟩ := entriesWithMoments_cons_iff.1 hmade
    obtain ⟨others', hothers', hperm⟩ := ih hothers
    exact ⟨_, entriesWithMoments_cons_iff.2 ⟨v, others', hv, hothers', rfl⟩, hperm.cons _⟩
  | swap entry entry' rest =>
    obtain ⟨v', _, hv', hbehind, rfl⟩ := entriesWithMoments_cons_iff.1 hmade
    obtain ⟨v, others, hv, hothers, rfl⟩ := entriesWithMoments_cons_iff.1 hbehind
    have hswapped := entriesWithMoments_cons_iff.2 ⟨v', others, hv', hothers, rfl⟩
    exact ⟨_, entriesWithMoments_cons_iff.2 ⟨v, _, hv, hswapped, rfl⟩, .swap _ _ _⟩
  | trans _ _ ih ih' =>
    obtain ⟨between, hbetween, hperm⟩ := ih hmade
    obtain ⟨made', hmade', hperm'⟩ := ih' hbetween
    exact ⟨made', hmade', hperm.trans hperm'⟩

theorem Rearranged.parse_eq_some {text text' : String} {document : Document} (h : Rearranged text text')
    (hdocument : Document.parse text = some document) : Document.parse text' = some document := by
  obtain ⟨layout, layout', hlayout, hlayout', habout⟩ := h
  obtain ⟨sts, entries, made, hsts, hentries, hmade, rfl⟩ := (parse_eq_some_iff ..).1 hdocument
  obtain rfl := Option.some.inj (hlayout.symm.trans hsts)
  obtain ⟨entries', hentries', hperm⟩ := perm_of_about_eq habout hentries
  have hvalues : (Node.entryValues entries).Perm (Node.entryValues entries') := by
    rw [entryValues_eq_map, entryValues_eq_map]
    exact hperm.map _
  obtain ⟨made', hmade', hpermMade⟩ := entriesWithMoments_perm hvalues hmade
  have hdistinct := nodup_entriesWithMoments hentries' hmade'
  refine (parse_eq_some_iff ..).2 ⟨_, entries', made', hlayout', hentries', hmade', Eq.symm ?_⟩
  exact mergeSort_eq_of_sorted hdistinct ((List.mergeSort_perm made _).trans hpermMade) (le_mergeSort made)

/-- A rearranged document has the same table, or none if there was none. -/
theorem Rearranged.parse_eq {text text' : String} (h : Rearranged text text') :
    Document.parse text' = Document.parse text := by
  cases hdocument : Document.parse text with
  | some document => exact h.parse_eq_some hdocument
  | none =>
    rw [Option.eq_none_iff_forall_ne_some]
    intro document' hdocument'
    rw [h.symm.parse_eq_some hdocument'] at hdocument
    cases hdocument

end AgentRelay.Toml
