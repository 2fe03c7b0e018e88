import AgentRelay.Config
import AgentRelay.Proofs.Path.Extension
import AgentRelay.Proofs.Script
import AgentRelay.Proofs.Traversal

set_option autoImplicit false

/-!
# Loading a configuration

Loading takes three steps, and each of them can fail in its own way: the path is resolved, the file is read as text, and
one of two parsers reads the text.  Which parser it is depends on the name of the file that the path leads to.

So a configuration is loaded exactly when all three steps succeed, and it is what the parser makes of the text, with the
file as its source (`load_spec`).
-/

namespace AgentRelay

variable {m : Machine} {p : Path}

/-! ## Reading a file -/

theorem Machine.readText_eq_ok_iff (m : Machine) (p : Path) (text : String) :
    m.readText p = .ok text ↔ m.read p = .ok (Utf8.encode text) := by
  rw [readText]
  cases m.read p with
  | error cause => simp
  | ok contents =>
    dsimp only
    rw [Except.ok.injEq, ← Utf8.decode?_eq_some_iff]
    cases Utf8.decode? contents <;> simp

theorem Machine.readText_of_error {cause : FileFault} (h : m.read p = .error cause) :
    m.readText p = .error cause := by
  rw [readText, h]

/-- Contents that are the bytes of no text are refused. -/
theorem Machine.readText_of_not_text {contents : Utf8.Bytes} (h : m.read p = .ok contents)
    (htext : ∀ text, contents ≠ Utf8.encode text) : m.readText p = .error .notUtf8 := by
  have hdecode : Utf8.decode? contents = none := by
    rw [Option.eq_none_iff_forall_ne_some]
    exact fun text hsome => htext text ((Utf8.decode?_eq_some_iff ..).1 hsome)
  rw [readText, h]
  dsimp only
  rw [hdecode]

namespace Config

/-! ## Choosing the parser -/

/-- A dot stands behind the first character of the file's name, and what follows the last one is `toml` in letters of
either case. -/
def NamedToml (p : Path) : Prop :=
  ∃ name, p.HasFileName name ∧
    (∃ front back, name = front ++ Path.dot :: back ∧ front ≠ []) ∧
    ∃ stem text, name = stem ++ Path.dot :: Utf8.encode text ∧ Path.dot ∉ Utf8.encode text ∧ text.toLower = "toml"

theorem hasExtension_tomlExtension_iff (p : Path) : p.hasExtension tomlExtension = true ↔ NamedToml p := by
  have htoList : tomlExtension.toList = ['t', 'o', 'm', 'l'] := rfl
  exact p.hasExtension_iff (by simp [htoList])

/-- What the parser that the file's name asks for makes of a text. -/
def Parses (p : Path) (text : String) (outcome : Except Fault Config) : Prop :=
  (NamedToml p → ofToml text = outcome) ∧ (¬ NamedToml p → ofLines text = outcome)

theorem ofFile_eq_iff (p : Path) (text : String) (outcome : Except Fault Config) :
    ofFile p text = outcome ↔ Parses p text outcome := by
  rw [ofFile, Parses, ← hasExtension_tomlExtension_iff]
  by_cases h : p.hasExtension tomlExtension = true <;> simp [h]

/-! ## Loading -/

/-- Loading is resolving the path and reading the file that is there. -/
theorem answer_load (m : Machine) (path : Path) : (load m path).answer = (resolve m path).bind (readAt m) := by
  rw [load]
  cases resolve m path with
  | error fault => rfl
  | ok resolved =>
    rw [Script.pure_ok_andThen, Script.answer_bind, Except.bind]
    cases readAt m resolved with
    | error fault => rfl
    | ok config => rfl

theorem answer_load_of_unresolved {path : Path} (h : path.expand? m.home = none) :
    (load m path).answer = .error (.config .homeUnknown) := by
  rw [answer_load, resolve, h, Except.bind]

theorem answer_load_of_resolved {path : Path} (h : path.expand? m.home = some p) :
    (load m path).answer = readAt m p := by
  rw [answer_load, resolve, h, Except.bind]

/-- Loading reports what is read and does nothing else. -/
theorem reportsFrom_load (m : Machine) (path : Path) : (load m path).ReportsFrom Target.config := by
  refine (Script.reportsFrom_pure _ _).andThen fun resolved => ?_
  refine (Script.reportsFrom_report _ _ _).bind fun _ => ?_
  refine (Script.reportsFrom_pure _ _).andThen fun config => ?_
  refine (Script.reportsFrom_report _ _ _).bind fun _ => ?_
  exact Script.reportsFrom_pure _ _

/-- A text that was read is parsed, and the file becomes the source of what the parser makes of it. -/
theorem readAt_eq_ok_iff (m : Machine) (p : Path) (config : Config) :
    readAt m p = .ok config ↔ ∃ text parsed, m.read p = .ok (Utf8.encode text) ∧
      Parses p text (.ok parsed) ∧ config = { parsed with source := some p } := by
  simp only [← Machine.readText_eq_ok_iff, ← ofFile_eq_iff]
  rw [readAt, readFile]
  cases m.readText p with
  | error cause => simp
  | ok text =>
    dsimp only
    rw [map_eq_ok_iff]
    constructor
    · rintro ⟨parsed, hparse, rfl⟩
      exact ⟨text, parsed, rfl, hparse, rfl⟩
    · rintro ⟨text, parsed, htext, hparse, rfl⟩
      obtain rfl := Except.ok.inj htext
      exact ⟨parsed, hparse, rfl⟩

theorem readAt_of_readText_error {cause : FileFault} (h : m.readText p = .error cause) :
    readAt m p = .error (.config (.unreadable p cause)) := by
  rw [readAt, readFile, h]

theorem readAt_of_parses_error {text : String} {fault : Fault} (h : m.read p = .ok (Utf8.encode text))
    (hparse : Parses p text (.error fault)) : readAt m p = .error fault := by
  rw [readAt, readFile, (Machine.readText_eq_ok_iff ..).2 h]
  dsimp only
  rw [(ofFile_eq_iff ..).2 hparse, Except.map]

theorem message_unreadable (p : Path) (cause : FileFault) :
    (Fault.config (.unreadable p cause)).message =
      "Configuration error: " ++ ("Cannot open the config file with filePath='" ++ p.shown ++
        ("': " ++ cause.message)) :=
  congrArg ("Configuration error: " ++ ·) String.append_assoc

/-- A configuration is loaded exactly when its path is resolved, the bytes of a text stand there, and the parser that
the resolved path asks for accepts the text; it is what the parser made of it, with the resolved path as its source.
Otherwise the first of these steps that failed is told.  A file that cannot be read, or whose contents are the bytes of
no text, is named by its resolved path, and what a parser found wrong is told as it is. -/
theorem load_spec (m : Machine) (path : Path) :
    (∀ config, (load m path).answer = .ok config ↔
      ∃ p text parsed, path.expand? m.home = some p ∧ m.read p = .ok (Utf8.encode text) ∧
        Parses p text (.ok parsed) ∧ config = { parsed with source := some p }) ∧
    (path.expand? m.home = none → (load m path).answer = .error (.config .homeUnknown)) ∧
    (∀ p, path.expand? m.home = some p →
      (∀ cause, m.read p = .error cause → (load m path).answer = .error (.config (.unreadable p cause))) ∧
      (∀ contents, m.read p = .ok contents → (∀ text, contents ≠ Utf8.encode text) →
        (load m path).answer = .error (.config (.unreadable p .notUtf8))) ∧
      ∀ text fault, m.read p = .ok (Utf8.encode text) → Parses p text (.error fault) →
        (load m path).answer = .error fault) ∧
    ∀ p cause, (Fault.config (.unreadable p cause)).message =
      "Configuration error: " ++ ("Cannot open the config file with filePath='" ++ p.shown ++
        ("': " ++ cause.message)) := by
  refine ⟨fun config => ?_, answer_load_of_unresolved, fun p hresolved => ⟨?_, ?_, ?_⟩, fun p cause => ?_⟩
  · cases hresolved : path.expand? m.home with
    | none => simp [answer_load_of_unresolved hresolved]
    | some p =>
      simp only [answer_load_of_resolved hresolved, readAt_eq_ok_iff, Option.some.injEq, exists_and_left,
        exists_eq_left']
  · intro cause h
    rw [answer_load_of_resolved hresolved]
    exact readAt_of_readText_error (Machine.readText_of_error h)
  · intro contents h htext
    rw [answer_load_of_resolved hresolved]
    exact readAt_of_readText_error (Machine.readText_of_not_text h htext)
  · intro text fault h hparse
    rw [answer_load_of_resolved hresolved]
    exact readAt_of_parses_error h hparse
  · exact message_unreadable p cause

/-- The name of the file decides behind the home directory, whatever the case of its letters. -/
example :
    let read (p : Path) : Except FileFault Utf8.Bytes :=
      if p = .ofString "home/.relay.ToML" then .ok (Utf8.encode "port = 80") else .error .notFound
    let m : Machine := ⟨some (.ofString "home"), read, ⟨fun _ => .error "no such library"⟩, fun _ _ => 0⟩
    (load m (.ofString "~/.relay.ToML")).answer =
      .ok ⟨some (.ofString "home/.relay.ToML"), Options.ofPairs [("port", "80")]⟩ := by decide +kernel

end Config

end AgentRelay
