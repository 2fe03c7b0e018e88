import AgentRelay.Loader
import AgentRelay.Plan

set_option autoImplicit false

/-!
# Launching an agent

When the host starts the relay it hands over an option string and two words.  The relay makes its plan,
loads the agent, and calls it with the final options and with the two words as they came.  The code of the
agent is the answer to the host.

Whatever goes wrong before the call is reported, and the host is told that all is well: it runs on without
the agent.
-/

namespace AgentRelay

/-- An agent in memory, and the plan that led to it. -/
structure Prepared where
  library : Library
  plan : Plan
  deriving DecidableEq, Repr

/-- Everything up to the call.  There is no agent if the option string names no configuration. -/
def prepare (m : Machine) (loader : Loader) (text : String) : Script (Except Fault (Option Prepared)) :=
  Script.andThen (Plan.ofOptionString m text) fun
    | none => pure (.ok none)
    | some plan => Script.andThen (loader.load plan.agentPath) fun library => pure (.ok (some ⟨library, plan⟩))

namespace Launch

/-- The code that tells the host that all is well. -/
def ok : Int32 := 0

/-- The verbosity if the option string asks for none. -/
def defaultLevel : String := "info"

/-- The verbosity that an option string asks for: the text of its level, if that is one. -/
def levelText (text : String) : String :=
  match Options.parse text with
  | .error _ => defaultLevel
  | .ok host =>
    match host.get? Config.levelKey with
    | none => defaultLevel
    | some level => if (Level.parse? level).isSome then level else defaultLevel

/-- Reports why there is no agent to call. -/
def abort (fault : Fault) : Script Int32 := do
  Script.report .error Target.launch ("Bootstrap aborted: " ++ fault.message)
  return ok

/-- Calls an agent.  `expects` says whether the event that shows all the options is expected. -/
def handOver (m : Machine) (expects : Expectation) (agent : Prepared) (options : Utf8.Bytes) (vm reserved : UInt64) :
    Script Int32 := do
  let arguments : Arguments := ⟨options, vm, reserved⟩
  let code := m.agentCode agent.library.entry.address arguments
  Script.offer expects .debug Target.launch
    ("Chaining to " ++ agent.plan.agentPath.shown ++ " with options: " ++ agent.plan.options.render)
  Script.report .info Target.launch
    ("Native agent loaded from " ++ agent.library.path.shown ++ ", calling " ++ agent.library.symbol)
  Script.perform (.call ⟨agent.library, arguments⟩)
  Script.report .info Target.launch ("Native agent returned " ++ toString code.toInt)
  return code

/-- What follows once the verbosity is set. -/
def run (m : Machine) (expects : Expectation) (loader : Loader) (text : String) (vm reserved : UInt64) :
    Script Int32 := do
  match ← prepare m loader text with
  | .error fault => abort fault
  | .ok none =>
    Script.report .info Target.launch ("No " ++ Config.configPathKey ++ " in agent options, nothing to chain")
    return ok
  | .ok (some agent) =>
    match agent.plan.optionBytes with
    | .error fault => abort fault
    | .ok bytes => handOver m expects agent bytes vm reserved

end Launch

/-- Starts the relay for a host.  `expects` says which events are expected of those that are only offered. -/
def launch (m : Machine) (loader : Loader) (text : String) (vm reserved : UInt64)
    (expects : Expectation := Expectation.everything) : Script Int32 := do
  Script.perform (.setVerbosity (Launch.levelText text))
  Launch.run m expects loader text vm reserved

end AgentRelay
