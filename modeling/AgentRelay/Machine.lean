import AgentRelay.Linker
import AgentRelay.Script

set_option autoImplicit false

/-!
# The machine

Everything outside the relay that its answers depend on: the home directory, the contents of files, the
dynamic linker, and the code of the agents that the linker maps.
-/

namespace AgentRelay

/-- What surrounds the relay.  `agentCode` is what the code at an address returns for its arguments. -/
structure Machine where
  home : Option Path
  read : Path → Except FileFault Utf8.Bytes
  linker : Linker
  agentCode : Address → Arguments → Int32

/-- The text of a file. -/
def Machine.readText (m : Machine) (path : Path) : Except FileFault String :=
  match m.read path with
  | .error fault => .error fault
  | .ok contents =>
    match Utf8.decode? contents with
    | some text => .ok text
    | none => .error .notUtf8

end AgentRelay
