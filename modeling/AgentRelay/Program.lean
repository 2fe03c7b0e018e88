import AgentRelay.CommandLine
import AgentRelay.Launch
import AgentRelay.Verbosity

set_option autoImplicit false

/-!
# The program

The program reads its command line, installs the verbosity that it asks for, and runs one command.  It ends
with status 0; with status 1 if the command failed, after it has told why; with status 2 if the command line was
not accepted; and with status 101 if it gave up.
-/

namespace AgentRelay.Program

open CommandLine (Invocation UsageFault)

/-- How the program ended, and what it wrote. -/
structure Outcome where
  status : Nat
  output : String
  errors : String
  deriving DecidableEq, Repr

/-- How a command line is written. -/
def usage : String :=
  "Usage:\n" ++
  "  [--json] [--log LEVEL] probe PATH [--symbol NAME]\n" ++
  "  [--json] [--log LEVEL] match NAME [-p PATTERN]... [--offset N] [--super-name NAME]\n" ++
  "  [--json] [--log LEVEL] options TEXT [--config PATH]\n"

/-- What is wrong with a command line, in words. -/
def complaint : UsageFault → String
  | .unknownArgument => "an argument is not expected"
  | .missingArgument => "a required argument is missing"
  | .missingValue => "an argument needs a value"
  | .badNumber => "an offset is not a number"
  | .notText => "an argument is not text"
  | .repeatedArgument => "an argument is given twice"
  | .unknownCommand => "the command is not known"
  | .unneededValue => "a flag has a value"
  | .missingCommand => "a command is missing"
  | .nothingGiven => "nothing is given"
  | .helpWanted => ""
  | .versionWanted => ""

/-- The end of the program when the command line was not accepted. -/
def refusal : UsageFault → Outcome
  | .helpWanted => ⟨0, usage, ""⟩
  | .versionWanted => ⟨0, "agent-bootstrap\n", ""⟩
  | fault => ⟨2, "", "error: " ++ complaint fault ++ "\n\n" ++ usage⟩

/-- The end of the program after a command. -/
def ending (p : Printed) : Outcome :=
  match p.failure? with
  | none => ⟨0, p.output, ""⟩
  | some fault => ⟨1, p.output, fault.shown⟩

/-- The end of the program when the reader of the verbosity gave up. -/
def surrender : Outcome := ⟨101, "", ""⟩

/-- What the program does for an invocation.  `environment` is the filter that the environment gives. -/
def perform (environment : Option String) (m : Machine) (i : Invocation) : Script Outcome := do
  let level := i.log.getD Launch.defaultLevel
  Script.perform (.setVerbosity level)
  match Filter.choose environment level with
  | none => return surrender
  | some _ => return ending (← i.command.run m i.format)

/-- What the program does for the words of a command line. -/
def run (environment : Option String) (m : Machine) (words : List String) : Script Outcome :=
  match CommandLine.parse words with
  | .ok i => perform environment m i
  | .error fault => pure (refusal fault)

/-- The files that the program reads for the words of a command line. -/
def reads (m : Machine) (words : List String) : List Path :=
  match CommandLine.parse words with
  | .ok i => i.command.reads m
  | .error _ => []

/-- The libraries that the program maps for the words of a command line. -/
def maps (words : List String) : List Path :=
  match CommandLine.parse words with
  | .ok i => i.command.maps
  | .error _ => []

end AgentRelay.Program
