import AgentRelay.Machine

set_option autoImplicit false

/-!
# Loading agents

A *loader* finds a symbol of a library and reports what it does.  The loader of the machine asks the dynamic
linker; other loaders can take its place.

An agent is a library with the symbol `Agent_OnLoad`.  `load` finds an agent, and `tryLoad` does so too but
turns every fault into a warning.
-/

namespace AgentRelay

/-- Finds a symbol of the library at a path.  The events are reported whether or not it is found. -/
structure Loader where
  find : Path → String → List Event × Except Fault Library

/-- The symbol that makes a library an agent. -/
def agentSymbol : String := "Agent_OnLoad"

/-! ## Finding a symbol -/

/-- The library at a path with one of its symbols, as the linker sees it. -/
def Linker.find (l : Linker) (path : Path) (symbol : String) : Except Fault Library :=
  match l.mapLibrary path with
  | .error reason => .error (.notLoaded path reason)
  | .ok exports =>
    match exports symbol with
    | .error reason => .error (.noSymbol symbol path reason)
    | .ok address =>
      match EntryPoint.ofAddress? address with
      | none => .error (.noSymbol symbol path "symbol resolved to a null address")
      | some entry => .ok ⟨path, symbol, entry⟩

namespace Loader

/-- How the linker binds the functions that a library takes from elsewhere: each at its first call. -/
def bindingFlags : UInt32 := 1

/-- What is reported before a library is mapped. -/
def announcement (path : Path) (symbol : String) : Event :=
  ⟨.debug, Target.linker,
    "dlopen(" ++ path.shown ++ ", " ++ Address.text bindingFlags.toUInt64 ++ ") for '" ++ symbol ++ "'"⟩

/-- The loader of a machine. -/
def ofMachine (m : Machine) : Loader where
  find path symbol := ([announcement path symbol], m.linker.find path symbol)

/-- A loader that finds nothing, for one and the same reason. -/
def refusing (reason : String) : Loader where
  find path symbol := ([], .error (.noSymbol symbol path reason))

/-- Requests a symbol of a loader. -/
def request (l : Loader) (path : Path) (symbol : String) : Script (Except Fault Library) :=
  ⟨.request path symbol :: (l.find path symbol).1.map .report, (l.find path symbol).2⟩

/-- Requests the agent at a path. -/
def load (l : Loader) (path : Path) : Script (Except Fault Library) := l.request path agentSymbol

/-- Requests the agent at a path; without one, only a warning is left.  `expects` says whether the warning is
expected. -/
def tryLoad (l : Loader) (path : Path) (expects : Expectation := Expectation.everything) :
    Script (Option Library) := do
  match ← l.load path with
  | .ok library =>
    Script.report .debug Target.loader ("Resolved " ++ library.entry.described ++ " in " ++ path.shown)
    return some library
  | .error fault =>
    Script.offer expects .warn Target.loader ("Native agent not available: " ++ fault.message)
    return none

end Loader

end AgentRelay
