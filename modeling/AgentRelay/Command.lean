import AgentRelay.Report

set_option autoImplicit false

/-!
# Commands

A command makes one report and prints it, as lines or as JSON.  What is printed before a command fails stays
printed.
-/

namespace AgentRelay

/-- How reports are printed. -/
inductive Format where
  | lines
  | json
  deriving DecidableEq, Repr

/-- What the user asks for. -/
inductive Command where
  | probe (path : Path) (symbol : String)
  | select (candidate : String) (superName : Option String) (patterns : List String) (offset : Nat)
  | options (text : String) (config : Option Path)
  deriving DecidableEq, Repr

/-- What a command printed, and why it failed, if it did. -/
structure Printed where
  output : String
  failure? : Option CommandFault
  deriving DecidableEq, Repr

namespace Printed

/-- Lines, each with its end. -/
def ofLines (lines : List String) : Printed := ⟨String.join (lines.map (· ++ "\n")), none⟩

/-- A document, and the end of its last line. -/
def ofJson (document : Except CommandFault Json.Document) : Printed :=
  match document with
  | .ok document => ofLines [document.pretty]
  | .error fault => ⟨"", some fault⟩

/-- What is printed in a format. -/
def choose (format : Format) (lines : List String) (document : Except CommandFault Json.Document) : Printed :=
  match format with
  | .lines => ofLines lines
  | .json => ofJson document

/-- A failure after what was printed, unless an earlier one stands. -/
def failing (p : Printed) (failure? : Option CommandFault) : Printed := { p with failure? := p.failure?.or failure? }

end Printed

/-- A probe's report printed.  A library that cannot be loaded is a failure of the command. -/
def ProbeReport.printed (r : ProbeReport) (format : Format) : Printed :=
  (Printed.choose format r.lines r.json).failing (if r.loaded then none else some (.probeFailed r.path))

/-- A selection's report printed. -/
def MatchReport.printed (r : MatchReport) (format : Format) : Printed :=
  Printed.choose format r.lines (.ok r.json)

/-- A preview's report printed. -/
def OptionsReport.printed (r : OptionsReport) (format : Format) : Printed := Printed.choose format r.lines r.json

/-- Runs a command. -/
def Command.run (m : Machine) (format : Format) : Command → Script Printed
  | .probe path symbol => do
    let report ← AgentRelay.probe (.ofMachine m) path symbol
    return report.printed format
  | .select candidate superName patterns offset =>
    pure ((tryPatterns candidate superName patterns offset).printed format)
  | .options text config => do
    match ← preview m text config with
    | .ok report => return report.printed format
    | .error fault => return ⟨"", some fault⟩

/-- The files that a command reads. -/
def Command.reads (m : Machine) : Command → List Path
  | .probe _ _ => []
  | .select _ _ _ _ => []
  | .options text config =>
    match Options.parse text with
    | .error _ => []
    | .ok host => ((previewSource? m host config).bind (·.expand? m.home)).toList

/-- The libraries that a command maps. -/
def Command.maps : Command → List Path
  | .probe path _ => [path]
  | .select _ _ _ _ => []
  | .options _ _ => []

end AgentRelay
