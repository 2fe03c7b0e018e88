import AgentRelay.Path
import AgentRelay.Toml.Value

set_option autoImplicit false

/-!
# Faults

Why an operation failed, as a cause and not as a text.  The wording is in `message`, the advice for the end
user in `hint`; a hint never repeats a path or the words of the dynamic linker.
-/

namespace AgentRelay

/-! ## Files -/

/-- Why a file could not be read as text. -/
inductive FileFault where
  | notFound
  | notADirectory
  | isADirectory
  | nameTooLong
  | nulInName
  | notUtf8
  | other (text : String)
  deriving DecidableEq, Repr

/-- The wording of a file fault. -/
def FileFault.message : FileFault → String
  | notFound => "No such file or directory (os error 2)"
  | notADirectory => "Not a directory (os error 20)"
  | isADirectory => "Is a directory (os error 21)"
  | nameTooLong => "File name too long (os error 36)"
  | nulInName => "file name contained an unexpected NUL byte"
  | notUtf8 => "stream did not contain valid UTF-8"
  | other text => text

/-! ## Configurations -/

/-- What is wrong with a configuration. -/
inductive ConfigFault where
  | unreadable (path : Path) (cause : FileFault)
  | notToml
  | unsupported (key : String) (found : Toml.Kind)
  | mixedArray (key : String) (found : Toml.Kind)
  | homeUnknown
  | described (text : String)
  deriving DecidableEq, Repr

/-- The wording of a configuration fault. -/
def ConfigFault.message : ConfigFault → String
  | unreadable path cause => s!"Cannot open the config file with filePath='{path.shown}': {cause.message}"
  | notToml => "Failed to parse config"
  | unsupported key found => s!"Unsupported value for '{key}': {found.name}"
  | mixedArray key found => s!"Array '{key}' must contain only strings, found {found.name}"
  | homeUnknown => "Could not determine home directory"
  | described text => text

/-! ## Faults of the relay -/

/-- Why an operation of the relay failed. -/
inductive Fault where
  | notLoaded (path : Path) (reason : String)
  | noSymbol (symbol : String) (path : Path) (reason : String)
  | config (cause : ConfigFault)
  | missingOption (key : String)
  | malformedOptions (text : String)
  | nulInOptions (position : Nat)
  deriving DecidableEq, Repr

namespace Fault

/-- The wording of a fault. -/
def message : Fault → String
  | notLoaded path reason => s!"Library load failed for {path.quoted}: {reason}"
  | noSymbol symbol path reason => s!"Symbol '{symbol}' not found in {path.quoted}: {reason}"
  | config cause => s!"Configuration error: {cause.message}"
  | missingOption key => s!"Missing agent parameter: {key}"
  | malformedOptions text => s!"Wrong agent parameters: {text}"
  | nulInOptions position =>
    s!"Wrong agent parameters: NUL byte in options: nul byte found in provided data at position: {position}"

/-- The advice for the end user. -/
def hint : Fault → String
  | notLoaded _ _ => "Failed to load the native agent. Check agentPath and the library architecture"
  | noSymbol _ _ _ => "Native agent library is incompatible"
  | config _ => "Check the bootstrap configuration file for errors"
  | missingOption _ => "A required agent option is missing"
  | malformedOptions _ => "Agent options must be key=value pairs"
  | nulInOptions _ => "Agent options must be key=value pairs"

/-- Whether another path or other options could still succeed: not if the library is there and lacks the
symbol. -/
def isRecoverable : Fault → Bool
  | noSymbol _ _ _ => false
  | _ => true

end Fault

end AgentRelay
