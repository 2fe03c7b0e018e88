import AgentRelay.Config

set_option autoImplicit false

/-!
# Plans

A plan says which agent the relay hands control to, and the options it hands over.  Three sources meet in
these options: what the host gave, the path of the agent's own library, and the configuration.  Each later
source wins over the earlier ones, and a key stays where the first source put it.
-/

namespace AgentRelay

/-- The agent that is called, and its options. -/
structure Plan where
  agentPath : Path
  options : Options
  deriving DecidableEq, Repr

namespace Plan

/-- The plan for options of the host and a configuration. -/
def ofParts (m : Machine) (host : Options) (config : Config) : Except Fault Plan :=
  match config.agentPath m with
  | .error fault => .error fault
  | .ok path =>
    (config.writtenAgentPath).map fun written =>
      ⟨path, (host.insert Config.corePathKey written).merge config.options⟩

/-- The plan for an option string.  There is none if the string names no configuration. -/
def ofOptionString (m : Machine) (text : String) : Script (Except Fault (Option Plan)) :=
  Script.andThen (pure (Options.parse text)) fun host =>
    match host.get? Config.configPathKey with
    | none => pure (.ok none)
    | some configPath =>
      Script.andThen (Config.load m (.ofString configPath)) fun config =>
        pure ((ofParts m host config).map some)

/-- The bytes of the options for an agent, which reads them up to the first NUL.  So there must be none. -/
def optionBytes (p : Plan) : Except Fault Utf8.Bytes :=
  let bytes := Utf8.encode p.options.render
  match bytes.idxOf? 0 with
  | some position => .error (.nulInOptions position)
  | none => .ok bytes

end Plan

end AgentRelay
