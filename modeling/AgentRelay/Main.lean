import AgentRelay.Elf
import AgentRelay.Program
import AgentRelay.SystemLibrary

set_option autoImplicit false

/-!
# The command line

Takes the command line and the environment of the process, reads the files that a command needs, and writes what
the program answers.  Libraries are looked up in their files and never mapped, since no command calls into one.
-/

namespace AgentRelay.CommandLine

/-- What was read at some paths. -/
abbrev KnownFiles := List (Path × Except FileFault (Location × Utf8.Bytes))

/-- The fault of a file that the system reports. -/
def fileFault : IO.Error → FileFault
  | .noFileOrDirectory _ _ _ => .notFound
  | .inappropriateType _ code _ => if code = 21 then .isADirectory else .notADirectory
  | .invalidArgument _ _ _ => .nameTooLong
  | .permissionDenied _ _ _ => .other "Permission denied (os error 13)"
  | e => .other (toString e)

/-- The place and the contents of a file. -/
def readFile (p : Path) : IO (Except FileFault (Location × Utf8.Bytes)) := do
  match p.text? with
  | none => return .error .notFound
  | some text =>
    if (0 : UInt8) ∈ p.bytes then return .error .nulInName
    try
      let contents ← IO.FS.readBinFile text
      let place ← IO.FS.realPath text
      return .ok ((Path.ofString place.toString).names.filter (· ≠ []), contents.toList)
    catch e => return .error (fileFault e)

/-- The source of files that were read. -/
def sourceOf (files : KnownFiles) : FileSource where
  read p := ((files.find? fun entry => entry.1 == p).map Prod.snd).getD (.error .notFound)
  object := SharedObject.ofElf
  size := files.length

/-- Reads what the linker looks for when it maps a library, until it finds nothing new to look for. -/
partial def readLibrary (space : AddressSpace) (files : KnownFiles) (library : Path) : IO KnownFiles := do
  let missing := (space.filesFor (sourceOf files) library).filter fun p => !files.any fun entry => entry.1 == p
  if missing.isEmpty then return files
  let new ← missing.eraseDups.mapM fun p => return (p, ← readFile p)
  readLibrary space (files ++ new) library

/-- The machine of an address space whose only files are the given ones. -/
def machineOf (space : AddressSpace) (home : Option Path) (files : KnownFiles) : Machine :=
  let source := sourceOf files
  ⟨home, fun p => (source.read p).map Prod.snd, Linker.ofFiles space source, fun _ _ => 0⟩

end AgentRelay.CommandLine

open AgentRelay

/-- Runs the program. -/
def main (words : List String) : IO UInt32 := do
  let home := (← IO.getEnv "HOME").map Path.ofString
  let environment ← IO.getEnv "RUST_LOG"
  let origin := Path.ofString (toString (← IO.appDir))
  let space := SystemLibrary.addressSpace origin (.ofString (toString (← IO.currentDir)))
  let wanted := Program.reads (CommandLine.machineOf space home []) words
  let texts ← wanted.mapM fun p => return (p, ← CommandLine.readFile p)
  let files ← (Program.maps words).foldlM (CommandLine.readLibrary space) texts
  let script := Program.run environment (CommandLine.machineOf space home files) words
  let levels := script.deeds.filterMap Deed.verbosity?
  let telemetry := levels.foldl (fun t level => ((t.install level).map Prod.snd).getD t) (Telemetry.start environment)
  for e in (telemetry.subscriber.play script).events do
    IO.eprintln (e.level.name ++ " " ++ e.target ++ ": " ++ e.message)
  IO.print script.answer.output
  IO.eprint script.answer.errors
  return UInt32.ofNat script.answer.status
