import AgentRelay.Fault

set_option autoImplicit false

/-!
# Files that are not taken

A linker that is sent to a file may not take it.  It goes on looking elsewhere if there is no such file, or if
the file is meant for another kind of machine.  If something is wrong with a file that is meant for it, it looks
no further: the file may be spoiled, or the object that is in it may be of no use here.
-/

namespace AgentRelay

/-- Why a linker does not take a file. -/
inductive Refusal where
  | notOpened (cause : FileFault)
  | otherMachine
  | otherWidth
  | spoiled (reason : String)
  | useless (reason : String)
  deriving DecidableEq, Repr

namespace Refusal

/-- Why a file is not taken that cannot be read. -/
def ofFileFault : FileFault → Refusal
  | .isADirectory => spoiled "cannot read file data: Is a directory"
  | cause => notOpened cause

/-- What is said of a file that cannot be opened. -/
def openingMessage : FileFault → String
  | .notFound => "cannot open shared object file: No such file or directory"
  | .notADirectory => "cannot open shared object file: Not a directory"
  | .nameTooLong => "cannot open shared object file: File name too long"
  | cause => "cannot open shared object file: " ++ cause.message

/-- The reason in words. -/
def reason : Refusal → String
  | notOpened cause => openingMessage cause
  | otherMachine => openingMessage .notFound
  | otherWidth => "wrong ELF class: ELFCLASS32"
  | spoiled reason => reason
  | useless reason => reason

/-- Whether the linker looks no further. -/
def isFinal : Refusal → Bool
  | spoiled _ => true
  | useless _ => true
  | _ => false

/-- The name under which a refusal is reported when a file was tried for a given name.  What is said of the
contents of a file names the file; everything else names what was asked for. -/
def subject (file given : Path) : Refusal → Path
  | spoiled _ => file
  | _ => given

end Refusal

end AgentRelay
