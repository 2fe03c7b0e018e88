import AgentRelay.Machine
import AgentRelay.Number.Shortest
import AgentRelay.Options
import AgentRelay.Text.LineEnding
import AgentRelay.Toml.Document

set_option autoImplicit false

/-!
# Bootstrap configurations

A configuration is a file of options.  It is written either in lines, one pair on each, or in TOML; the
extension of the file decides.

* Lines may end like on Unix or like on Windows.
* The table of a TOML document becomes options in the order of its keys.  Text is taken as it is, numbers and
  truth values as they are printed, and an array of text as its items with semicolons between them.  Nothing
  else can be an option.
* Home directories are resolved in the path of the file, and again in the path of the agent that it names.
-/

namespace AgentRelay

/-- Options, and the file that they were read from, if they were read from one. -/
structure Config where
  source : Option Path
  options : Options
  deriving DecidableEq, Repr

namespace Config

/-! ## Keys -/

/-- The option that names the configuration file. -/
def configPathKey : String := "bootstrapConfigPath"

/-- The option that names the agent's library. -/
def agentPathKey : String := "agentPath"

/-- The option that tells the agent where its own library is. -/
def corePathKey : String := "coreLibPath"

/-- The option that sets the verbosity of the relay. -/
def levelKey : String := "logLevel"

/-! ## Lines -/

/-- The configuration in lines. -/
def ofLines (text : String) : Except Fault Config :=
  (Options.parseLines (unixLineEndings text)).map fun options => ⟨none, options⟩

/-! ## TOML -/

/-- What stands between the items of an array in an option. -/
def itemSeparator : String := ";"

/-- The item of an array as text. -/
def itemText (key : String) : Toml.Value → Except Fault String
  | .string text => .ok text
  | item => .error (.config (.mixedArray key item.kind))

/-- The value of a key as text. -/
def valueText (key : String) : Toml.Value → Except Fault String
  | .string text => .ok text
  | .integer n => .ok (toString n)
  | .float x => .ok x.text
  | .boolean b => .ok (if b then "true" else "false")
  | .array items => (items.mapM (itemText key)).map itemSeparator.intercalate
  | value => .error (.config (.unsupported key value.kind))

/-- The pair of a key and its value. -/
def pairOf (entry : String × Toml.Value) : Except Fault Pair :=
  (valueText entry.1 entry.2).map fun text => (entry.1, text)

/-- The options of a document. -/
def optionsOf (document : Toml.Document) : Except Fault Options := (document.mapM pairOf).map Options.ofPairs

/-- The configuration in TOML. -/
def ofToml (text : String) : Except Fault Config :=
  match Toml.Document.parse text with
  | none => .error (.config .notToml)
  | some document => (optionsOf document).map fun options => ⟨none, options⟩

/-! ## Files -/

/-- The extension of a TOML file. -/
def tomlExtension : String := "toml"

/-- The configuration that a file holds. -/
def ofFile (path : Path) (contents : String) : Except Fault Config :=
  if path.hasExtension tomlExtension then ofToml contents else ofLines contents

/-- A path with the home directory resolved. -/
def resolve (m : Machine) (path : Path) : Except Fault Path :=
  match path.expand? m.home with
  | some p => .ok p
  | none => .error (.config .homeUnknown)

/-- The text of the file at a path, which is resolved already. -/
def readFile (m : Machine) (path : Path) : Except Fault String :=
  match m.readText path with
  | .ok text => .ok text
  | .error cause => .error (.config (.unreadable path cause))

/-- The configuration in the file at a path, which is resolved already. -/
def readAt (m : Machine) (path : Path) : Except Fault Config :=
  match readFile m path with
  | .ok text => (ofFile path text).map fun config => { config with source := some path }
  | .error fault => .error fault

/-- Loads the configuration at a path. -/
def load (m : Machine) (path : Path) : Script (Except Fault Config) :=
  Script.andThen (pure (resolve m path)) fun path => do
    Script.report .debug Target.config ("Loading bootstrap configuration from " ++ path.shown)
    Script.andThen (pure (readAt m path)) fun config => do
      Script.report .debug Target.config
        ("Bootstrap configuration has " ++ toString config.options.size ++ " entries")
      return .ok config

/-- Where the configuration is if nobody says otherwise. -/
def defaultPath? (m : Machine) : Option Path :=
  m.home.map fun home => (home.join (.ofString ".agent-bootstrap")).join (.ofString "bootstrap.conf")

/-! ## The agent -/

/-- The path of the agent, as the configuration writes it. -/
def writtenAgentPath (c : Config) : Except Fault String := c.options.require agentPathKey

/-- The path of the agent, resolved. -/
def agentPath (c : Config) (m : Machine) : Except Fault Path :=
  match c.writtenAgentPath with
  | .ok text => resolve m (.ofString text)
  | .error fault => .error fault

end Config

end AgentRelay
