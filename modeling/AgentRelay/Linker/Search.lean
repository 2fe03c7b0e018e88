import AgentRelay.Linker.AddressSpace
import AgentRelay.Linker.Refusal
import AgentRelay.Text.Split

set_option autoImplicit false

/-!
# Finding the file of a library

A library is asked for by a name.  A name with a separator is the path of a file.  Another name is looked for in
directories: in those that the object that needs the library lists, and then in those of the system.  An object
may list directories for itself alone; otherwise those that it lists for itself and for its own needs count, and
so do those of the objects for which it was loaded.

`Linking` is a step of the linker: it works on the address space, and it may fail with a reason.  What it did
before it fails stays done.
-/

namespace AgentRelay

/-- A step of the linker. -/
abbrev Linking := ExceptT String (StateM AddressSpace)

/-- Where files come from: `read` gives the place and the contents of the file at a path, `object` finds a shared
object in contents, and `size` is the greatest number of files that there are. -/
structure FileSource where
  read : Path → Except FileFault (Location × Utf8.Bytes)
  object : Utf8.Bytes → Except Refusal SharedObject
  size : Nat

/-- A shared object in a file. -/
structure FoundFile where
  file : Path
  location : Location
  object : SharedObject

namespace Linking

/-! ## Directories -/

/-- The byte `:`, which separates directories in a list. -/
def listSeparator : UInt8 := 0x3A

/-- The path of a directory up to the name of a file: it ends with one separator.  The empty path is the current
directory. -/
def directoryPath (bytes : Utf8.Bytes) : Path :=
  if bytes.isEmpty then ⟨[]⟩
  else ⟨(bytes.reverse.dropWhile (· == Path.separator)).reverse ++ [Path.separator]⟩

/-- The directories in a list that an object of some origin gives. -/
def directories (origin : Path) (list : Utf8.Bytes) : List Path :=
  if list.isEmpty then []
  else
    let given := Split.pieces [listSeparator] list
    let meant := given.map fun piece => (piece, Token.expand (Token.meaning origin) piece)
    ((meant.filter fun (piece, directory) => piece.isEmpty || !directory.isEmpty).map
      fun (_, directory) => directoryPath directory).eraseDups

/-- An object, the one for which it was loaded, and so on, at most a number of them. -/
def ancestors (s : AddressSpace) : Nat → Option Nat → List LoadedObject
  | 0, _ => []
  | _, none => []
  | limit + 1, some number =>
    match s.object? number with
    | none => []
    | some l => l :: ancestors s limit l.loader?

/-- The lists of directories in which the libraries that an object needs are looked for. -/
def directoryLists (s : AddressSpace) (loader? : Option Nat) : List (List Path) :=
  match loader?.bind s.object? with
  | none => [s.systemDirectories]
  | some l =>
    let own := l.object.ownSearchPath?.map fun list => [directories l.origin list]
    let inherited := (ancestors s s.objects.length (some l.number)).filterMap fun a =>
      a.object.searchPath?.map (directories a.origin)
    own.getD inherited ++ if l.object.avoidsSystem then [] else [s.systemDirectories]

/-! ## Files -/

/-- Tries the file at a path. -/
def tryFile (source : FileSource) (file : Path) : Linking (Except Refusal FoundFile) := do
  modify fun s => { s with visited := file :: s.visited }
  match source.read file with
  | .error fault => return .error (.ofFileFault fault)
  | .ok (location, contents) =>
    match source.object contents with
    | .error refusal => return .error refusal
    | .ok object => return .ok ⟨file, location, object⟩

/-- Whether a list of directories is left when a file is refused in one of them.  What is not there is no obstacle,
and neither is an absolute path that leads nowhere. -/
def leavesList (directory : Path) : Refusal → Bool
  | .notOpened .notFound => false
  | .notOpened .notADirectory => false
  | .notOpened _ => !directory.isAbsolute
  | _ => false

/-- What is said of a name that is found nowhere, after one more file was refused.  The last refusal is told, but a
file for another width is remembered. -/
def lastRefusal (earlier later : Refusal) : Refusal := if earlier = .otherWidth then earlier else later

/-- Tries the file of a name in one directory after the other.  If it is in none of them, the answer is what is to be
said, and so is `earlier` before the first. -/
def tryDirectories (source : FileSource) (name : Utf8.Bytes) :
    Refusal → List Path → Linking (Except Refusal FoundFile)
  | earlier, [] => return .error earlier
  | earlier, directory :: rest => do
    let file : Path := ⟨directory.bytes ++ name⟩
    match ← tryFile source file with
    | .ok found => return .ok found
    | .error refusal =>
      let last := lastRefusal earlier refusal
      if refusal.isFinal then throw ((refusal.subject file ⟨name⟩).shown ++ ": " ++ refusal.reason)
      else if leavesList directory refusal then return .error last
      else tryDirectories source name last rest

/-- Tries the file of a name in one list of directories after the other. -/
def tryLists (source : FileSource) (name : Utf8.Bytes) :
    Refusal → List (List Path) → Linking (Except Refusal FoundFile)
  | earlier, [] => return .error earlier
  | earlier, list :: rest => do
    match ← tryDirectories source name earlier list with
    | .ok found => return .ok found
    | .error last => tryLists source name last rest

/-- The directory from which the tokens in a name are understood: that of the object that needs the library, or
that of the program. -/
def originFor (s : AddressSpace) (loader? : Option Nat) : Path :=
  ((s.object? (loader?.getD AddressSpace.programNumber)).map LoadedObject.origin).getD ⟨[]⟩

/-- The file of a name. -/
def findFile (source : FileSource) (loader? : Option Nat) (name : Utf8.Bytes) : Linking FoundFile := do
  let s ← get
  let given : Path := ⟨name⟩
  if Path.separator ∈ name then
    let file : Path := ⟨Token.expand (Token.meaning (originFor s loader?)) name⟩
    match ← tryFile source file with
    | .ok found => return found
    | .error refusal => throw ((refusal.subject file given).shown ++ ": " ++ refusal.reason)
  else
    match ← tryLists source name (.notOpened .notFound) (directoryLists s loader?) with
    | .ok found => return found
    | .error last => throw (given.shown ++ ": " ++ last.reason)

/-! ## Objects -/

/-- The object that a name stands for, which is loaded if it is not there yet.  A file is loaded once, so another
name for it is only remembered. -/
def obtain (source : FileSource) (loader? : Option Nat) (name : Utf8.Bytes) : Linking Nat := do
  match (← get).named? name with
  | some l => known l
  | none =>
    let found ← findFile source loader? name
    let s ← get
    match s.located? found.location with
    | some l => known l
    | none =>
      set (s.add found.object found.file (some found.location) name loader?)
      return s.next
where
  known (l : LoadedObject) : Linking Nat := do
    modify (·.change l.number (·.rename name))
    return l.number

end Linking

end AgentRelay
