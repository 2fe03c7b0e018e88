import AgentRelay.Linker.SharedObject
import AgentRelay.Linker.Token

set_option autoImplicit false

/-!
# The address space

The address space of a process holds the program and the objects that were loaded for it.  Each object is known
by a number.  It is reached by its file, by the names under which it was asked for, and by the name that it gives
itself.  `object?` finds the object of a number, and `named?` the one that a name reaches.

Searches go through a list of objects, and the first symbol that others can use is the one.  Of the symbols that
are to be unique in a process, the first that was ever found stands for all of its name.

An object stays in the address space while it is in use, while one that stays depends on it, or for good.
`released` is what stays.  An object that is left behind by one that is gone has to be searched on its own from then
on, as `close` provides.
-/

namespace AgentRelay

/-- The name of the running program in messages. -/
def runningProgram : String := "<main program>"

/-! ## Loaded objects -/

/-- Where a file is: the chain of names that leads there from the root. -/
abbrev Location := List Utf8.Bytes

/-- An object in memory.

* `file` is the path of its file, empty for the program, and `location?` where that file is.
* `names` are those under which it was asked for.
* `origin` is the directory that it was loaded from, and `loader?` the object that needed it first.
* `base` is where its addresses begin.
* `needs` are the objects that it needs, and `bonds` others that it uses.
* `scope?` are the objects that are searched for its symbols, once it was opened itself.
* `isBound` says whether its references are settled, `isKept` whether it stays for good, and `isInitial` whether it
  was there when the process started. -/
structure LoadedObject where
  number : Nat
  object : SharedObject
  file : Path
  location? : Option Location
  names : List Utf8.Bytes
  origin : Path
  loader? : Option Nat
  base : Address
  needs : List Nat
  bonds : List Nat
  scope? : Option (List Nat)
  isBound : Bool
  isKept : Bool
  isInitial : Bool

namespace LoadedObject

/-- The object as it is named in messages. -/
def shown (l : LoadedObject) : String := if l.file.bytes.isEmpty then runningProgram else l.file.shown

/-- Whether the object is known by a name. -/
def isCalled (l : LoadedObject) (name : Utf8.Bytes) : Bool := l.file.bytes == name || l.names.contains name

/-- Whether a name reaches the object. -/
def answersTo (l : LoadedObject) (name : Utf8.Bytes) : Bool := l.isCalled name || l.object.ownName? == some name

/-- The object with one more name. -/
def rename (l : LoadedObject) (name : Utf8.Bytes) : LoadedObject :=
  if l.isCalled name then l else { l with names := l.names ++ [name] }

/-- The object with its references settled.  From then on it may stay for good. -/
def bound (l : LoadedObject) : LoadedObject := { l with isBound := true, isKept := l.object.isPermanent }

/-- The object with a scope of its own.  If it was never opened, that is the object and what it needs. -/
def withScope (l : LoadedObject) : LoadedObject :=
  if l.isInitial || l.scope?.isSome then l else { l with scope? := some (l.number :: l.needs) }

end LoadedObject

/-! ## The address space -/

/-- The first symbol of a name that is to be unique: the object that it is in, and its address. -/
structure UniqueSymbol where
  name : Utf8.Bytes
  object : Nat
  address : Address
  deriving DecidableEq, Repr

/-- The address space of a process.

* `current` is the directory that relative paths start from, and `systemDirectories` are searched for libraries.
* `objects` are in the order in which a name is compared with theirs; `next` is the number of the one to be loaded
  next.
* `inUse` are the numbers of the objects that were opened, the last one first.
* `visited` are the files that were looked for. -/
structure AddressSpace where
  current : Path
  systemDirectories : List Path
  objects : List LoadedObject
  next : Nat
  inUse : List Nat
  uniqueSymbols : List UniqueSymbol
  visited : List Path

namespace AddressSpace

/-- The object of a number. -/
def object? (s : AddressSpace) (number : Nat) : Option LoadedObject := s.objects.find? (·.number == number)

/-- The object that a name reaches. -/
def named? (s : AddressSpace) (name : Utf8.Bytes) : Option LoadedObject := s.objects.find? (·.answersTo name)

/-- The object that was loaded from the file at a location. -/
def located? (s : AddressSpace) (location : Location) : Option LoadedObject :=
  s.objects.find? (·.location? == some location)

/-- The address space with an object changed. -/
def change (s : AddressSpace) (number : Nat) (f : LoadedObject → LoadedObject) : AddressSpace :=
  { s with objects := s.objects.map fun l => if l.number = number then f l else l }

/-- The address space with an object moved in front of another. -/
def moveBefore (s : AddressSpace) (member moved : Nat) : AddressSpace :=
  let others := s.objects.filter (·.number != moved)
  { s with
    objects :=
      others.takeWhile (·.number != member) ++ (s.object? moved).toList ++ others.dropWhile (·.number != member) }

/-- The number of the program. -/
def programNumber : Nat := 0

/-- The objects that were there when the process started: the program, and what it needs. -/
def globalScope (s : AddressSpace) : List Nat :=
  ((s.object? programNumber).bind LoadedObject.scope?).getD [programNumber]

/-- Where the addresses of an object begin.  The objects lie so far apart that their addresses differ. -/
def baseOf (number : Nat) : Address := 0x7f0000000000 + UInt64.ofNat number * 0x100000000

/-- The directory of a file. -/
def originOf (current file : Path) : Path :=
  let full := if file.isAbsolute then file.bytes else current.bytes ++ Path.separator :: file.bytes
  match (full.reverse.dropWhile (· != Path.separator)).drop 1 with
  | [] => ⟨[Path.separator]⟩
  | rest => ⟨rest.reverse⟩

/-- The address space with one more object, which is called by a name. -/
def add (s : AddressSpace) (object : SharedObject) (file : Path) (location? : Option Location) (name : Utf8.Bytes)
    (loader? : Option Nat) : AddressSpace :=
  let loaded : LoadedObject := {
    number := s.next
    object := object
    file := file
    location? := location?
    names := [name]
    origin := originOf s.current file
    loader? := loader?
    base := baseOf s.next
    needs := []
    bonds := []
    scope? := none
    isBound := false
    isKept := false
    isInitial := false }
  { s with objects := s.objects ++ [loaded], next := s.next + 1 }

/-! ## Finding symbols -/

/-- A symbol that was found: the object it is in, its address, and whether it is to be unique. -/
structure FoundSymbol where
  object : Nat
  address : Address
  isUnique : Bool
  deriving DecidableEq, Repr

/-- The symbol that a search through some objects finds. -/
def search? (s : AddressSpace) (w : Wanted) (numbers : List Nat) : Option FoundSymbol :=
  numbers.findSome? fun number =>
    (s.object? number).bind fun l =>
      (l.object.symbol? w).map fun y => ⟨number, y.address l.base, y.binding == .unique⟩

/-- The symbol that stands for one that was found, and the address space that remembers it. -/
def settle (s : AddressSpace) (name : Utf8.Bytes) (found : FoundSymbol) : FoundSymbol × AddressSpace :=
  if !found.isUnique then (found, s)
  else
    match s.uniqueSymbols.find? (·.name == name) with
    | some first => (⟨first.object, first.address, true⟩, s)
    | none => (found, { s with uniqueSymbols := ⟨name, found.object, found.address⟩ :: s.uniqueSymbols })

/-! ## What stays -/

/-- Whether an object stays for good: it has to, or it holds a symbol that is unique. -/
def isKept (s : AddressSpace) (l : LoadedObject) : Bool :=
  l.isKept || s.uniqueSymbols.any (·.object == l.number)

/-- The numbers of some objects and of those that they depend on, by at most a number of steps. -/
def dependents (s : AddressSpace) : Nat → List Nat → List Nat
  | 0, numbers => numbers
  | steps + 1, numbers =>
    let further := numbers.flatMap fun n => ((s.object? n).map fun l => l.needs ++ l.bonds).getD []
    s.dependents steps (numbers ++ further).eraseDups

/-- The address space without the objects that nothing holds. -/
def released (s : AddressSpace) : AddressSpace :=
  let roots := s.inUse ++ (s.objects.filter s.isKept).map LoadedObject.number
  let staying := s.dependents s.objects.length roots.eraseDups
  { s with
    objects := s.objects.filter fun l => staying.contains l.number
    uniqueSymbols := s.uniqueSymbols.filter fun y => staying.contains y.object }

/-- The address space after an attempt that began when the numbers from `first` on were free has failed: what was
loaded for it is gone. -/
def withdrawn (s : AddressSpace) (first : Nat) : AddressSpace :=
  { s with uniqueSymbols := s.uniqueSymbols.filter fun y => y.object < first }.released

/-- The address space without the objects that nothing holds, where those that stay and were found in the scope of
one that is gone have scopes of their own. -/
def swept (s : AddressSpace) : AddressSpace :=
  let staying := s.released
  let gone := s.objects.filter fun l => (staying.object? l.number).isNone
  let lost := gone.flatMap fun l => l.scope?.getD []
  { staying with objects := staying.objects.map fun l => if lost.contains l.number then l.withScope else l }

/-- The address space after the object that was opened last is closed.  Nothing else changes if it was opened more
than once, or if it was there from the start. -/
def close (s : AddressSpace) : AddressSpace :=
  match s.inUse with
  | [] => s
  | number :: rest =>
    let closed := { s with inUse := rest }
    if rest.contains number || ((s.object? number).map LoadedObject.isInitial).getD false then closed
    else closed.swept

end AddressSpace

end AgentRelay
