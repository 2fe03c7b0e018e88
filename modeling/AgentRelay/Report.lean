import AgentRelay.Json.Document
import AgentRelay.Loader
import AgentRelay.Plan
import AgentRelay.Platform
import AgentRelay.Selection

set_option autoImplicit false

/-!
# Reports

Each command of the relay makes a report: whether a library can be loaded, whether a class is selected, or
which options an agent would receive.  A report is written as text for people or as JSON for programs.

JSON holds text only, so a path that is not UTF-8 cannot be written in it.
-/

namespace AgentRelay

/-- Why a command failed. -/
inductive CommandFault where
  | relay (fault : Fault)
  | hostOptions (fault : Fault)
  | noConfig
  | probeFailed (path : Path)
  | unwritablePath
  deriving DecidableEq, Repr

namespace CommandFault

/-- The wording of a failure and of its causes, the outermost first. -/
def messages : CommandFault → List String
  | relay fault => [fault.message]
  | hostOptions fault => ["Failed to parse agent options", fault.message]
  | noConfig => ["No bootstrap configuration file given"]
  | probeFailed path => ["probe of " ++ path.shown ++ " failed"]
  | unwritablePath => ["path contains invalid UTF-8 characters"]

/-- The fault of the relay behind a failure. -/
def fault? : CommandFault → Option Fault
  | relay fault => some fault
  | hostOptions fault => some fault
  | _ => none

/-- The wording of a failure on one line. -/
def message (f : CommandFault) : String := ": ".intercalate f.messages

/-- A cause, each of its lines indented. -/
def indented (cause : String) : List Char :=
  "\n".toList.intercalate ((Split.pieces ['\n'] cause.toList).map ("    ".toList ++ ·))

/-- A failure and its causes as they are shown to the user. -/
def shown (f : CommandFault) : String :=
  match f.messages with
  | [] => ""
  | first :: causes =>
    "Error: " ++ first ++
      String.join (causes.map fun cause => "\n\nCaused by:\n" ++ String.ofList (indented cause)) ++ "\n"

end CommandFault

/-- A path in a JSON document. -/
def Path.json (p : Path) : Except CommandFault Json.Document :=
  match p.text? with
  | some text => .ok (.string text)
  | none => .error .unwritablePath

/-! ## Loading a library -/

/-- Whether a symbol of the library at a path can be found. -/
structure ProbeReport where
  path : Path
  symbol : String
  found : Except Fault Library
  deriving Repr

namespace ProbeReport

/-- The library was found. -/
def loaded (r : ProbeReport) : Bool := r.found.isOk

/-- Where the symbol is. -/
def address? (r : ProbeReport) : Option String :=
  match r.found with
  | .ok library => some library.entry.address.text
  | .error _ => none

/-- Why the symbol was not found. -/
def error? (r : ProbeReport) : Option String :=
  match r.found with
  | .ok _ => none
  | .error fault => some fault.message

/-- What may help. -/
def hint? (r : ProbeReport) : Option String :=
  match r.found with
  | .ok _ => none
  | .error fault => some fault.hint

/-- The report as JSON. -/
def json (r : ProbeReport) : Except CommandFault Json.Document :=
  r.path.json.map fun path => .object [
    ("path", path),
    ("symbol", .string r.symbol),
    ("platform", .string Platform.name),
    ("backend", .string Platform.backend),
    ("loaded", .bool r.loaded),
    ("address", .ofOption .string r.address?),
    ("error", .ofOption .string r.error?),
    ("hint", .ofOption .string r.hint?)]

/-- The lines of the report. -/
def lines (r : ProbeReport) : List String :=
  match r.address? with
  | some address => [
      "✓ " ++ r.symbol ++ " resolved in " ++ r.path.shown,
      "  Address: " ++ address,
      "  Backend: " ++ Platform.backend ++ " (" ++ Platform.name ++ ")"]
  | none =>
    ("✗ " ++ r.symbol ++ " not available from " ++ r.path.shown) ::
      (r.error?.toList.map ("  Error: " ++ ·) ++ r.hint?.toList.map ("  Hint: " ++ ·))

end ProbeReport

/-- Probes a library. -/
def probe (loader : Loader) (path : Path) (symbol : String) : Script ProbeReport := do
  let found ← loader.request path symbol
  match found with
  | .ok _ => pure ()
  | .error fault =>
    Script.report .debug Target.command ("Probe of " ++ path.shown ++ " failed: " ++ fault.message)
  return ⟨path, symbol, found⟩

/-! ## Selecting a class -/

/-- Whether patterns select a class. -/
structure MatchReport where
  candidate : String
  superName : Option String
  patterns : List String
  offset : Nat
  matched : Bool
  deriving DecidableEq, Repr

namespace MatchReport

/-- The report as JSON. -/
def json (r : MatchReport) : Json.Document := .object [
  ("candidate", .string r.candidate),
  ("super_name", .ofOption .string r.superName),
  ("patterns", .array (r.patterns.map .string)),
  ("offset", .number r.offset),
  ("matched", .bool r.matched)]

/-- The lines of the report. -/
def lines (r : MatchReport) : List String :=
  [if r.matched then "✓ " ++ r.candidate ++ " is included" else "✗ " ++ r.candidate ++ " is excluded"]

end MatchReport

/-- Tries patterns on a class. -/
def tryPatterns (candidate : String) (superName : Option String) (patterns : List String) (offset : Nat) :
    MatchReport :=
  ⟨candidate, superName, patterns, offset,
    (ClassSource.ofNames candidate superName).isSelectedBy patterns offset⟩

/-! ## Previewing options -/

/-- Which agent would be called, with which options, and the configuration that says so. -/
structure OptionsReport where
  config : Option Path
  agentPath : Path
  options : String
  deriving DecidableEq, Repr

namespace OptionsReport

/-- The report as JSON. -/
def json (r : OptionsReport) : Except CommandFault Json.Document := do
  let config ← match r.config with
    | some path => path.json
    | none => .ok .null
  let agentPath ← r.agentPath.json
  return .object [("config", config), ("agent_path", agentPath), ("options", .string r.options)]

/-- The lines of the report. -/
def lines (r : OptionsReport) : List String :=
  r.config.toList.map ("Config: " ++ ·.shown) ++ ["Agent:  " ++ r.agentPath.shown, "Options:", r.options]

end OptionsReport

/-- The file of the configuration: the one that is given, else the one that the host's options name, else
the one in the home directory. -/
def previewSource? (m : Machine) (host : Options) (config : Option Path) : Option Path :=
  match config with
  | some path => some path
  | none =>
    match host.get? Config.configPathKey with
    | some text => some (.ofString text)
    | none => Config.defaultPath? m

/-- Computes the options that an agent would receive, without loading it. -/
def preview (m : Machine) (text : String) (config : Option Path) : Script (Except CommandFault OptionsReport) :=
  match Options.parse text with
  | .error fault => pure (.error (.hostOptions fault))
  | .ok host =>
    match previewSource? m host config with
    | none => pure (.error .noConfig)
    | some path => do
      match ← Config.load m path with
      | .error fault => return .error (.relay fault)
      | .ok loaded =>
        match Plan.ofParts m host loaded with
        | .error fault => return .error (.relay fault)
        | .ok plan => return .ok ⟨loaded.source, plan.agentPath, plan.options.render⟩

end AgentRelay
