import AgentRelay.Elf.Memory
import AgentRelay.Linker.SharedObject

set_option autoImplicit false

/-!
# Dynamic entries

An object tells a linker about itself in a list of entries.  An entry has a tag and a value, which is a number, an
address or a place in the table of names.  Of several entries with one tag the last one counts, except that every
need counts.
-/

namespace AgentRelay.Elf

/-- An entry: a value, and a tag that says what it is. -/
structure Entry where
  tag : Nat
  value : Nat
  deriving DecidableEq, Repr

/-- The entries from an address on, at most a number of them.  The tag zero ends them. -/
def entriesFrom (m : Memory) (address : Nat) : Nat → List Entry
  | 0 => []
  | limit + 1 =>
    match m.number? address 8, m.number? (address + 8) 8 with
    | some tag, some value => if tag = 0 then [] else ⟨tag, value⟩ :: entriesFrom m (address + 16) limit
    | _, _ => []

/-! ## Tags -/

namespace Tag

/-- A library that is needed. -/
def needed : Nat := 1

/-- The number of bytes of the references for calls. -/
def callReferenceSize : Nat := 2

/-- The table that leads from the hash of a name to symbols. -/
def hashTable : Nat := 4

/-- The table of names. -/
def names : Nat := 5

/-- The table of symbols. -/
def symbols : Nat := 6

/-- The references. -/
def references : Nat := 7

/-- The number of bytes of the references. -/
def referenceSize : Nat := 8

/-- The name of the object. -/
def ownName : Nat := 14

/-- The directories for the needs of the object and of those that it needs. -/
def searchPath : Nat := 15

/-- Says that the object prefers its own symbols. -/
def prefersItself : Nat := 16

/-- Says that there are references for calls. -/
def callReferenceKind : Nat := 20

/-- The references for calls. -/
def callReferences : Nat := 23

/-- Says that references for calls are settled at once. -/
def bindsNow : Nat := 24

/-- The directories for the needs of the object alone. -/
def ownSearchPath : Nat := 29

/-- Bits that say more about the object. -/
def flags : Nat := 30

/-- Relative references in short form. -/
def relativeReferences : Nat := 36

/-- The table that leads from the newer hash of a name to symbols. -/
def newHashTable : Nat := 0x6FFFFEF5

/-- The versions of the symbols. -/
def symbolVersions : Nat := 0x6FFFFFF0

/-- The number of relative references, which come first. -/
def relativeCount : Nat := 0x6FFFFFF9

/-- The features of the object. -/
def features : Nat := 0x6FFFFFFB

/-- The versions that the object offers. -/
def offeredVersions : Nat := 0x6FFFFFFC

/-- The versions that the object needs. -/
def neededVersions : Nat := 0x6FFFFFFE

/-- A library that stands in for the object if it is there. -/
def auxiliary : Nat := 0x7FFFFFFD

/-- A library that stands in for the object. -/
def filter : Nat := 0x7FFFFFFF

end Tag

/-! ## Bits -/

/-- The bit in the flags of an object that prefers its own symbols. -/
def prefersItselfBit : Nat := 1

/-- The bit in the flags of an object whose references for calls are settled at once. -/
def bindsNowBit : Nat := 3

namespace Feature

/-- Says that references for calls are settled at once. -/
def bindsNow : Nat := 0

/-- Says that the object stays in memory. -/
def permanent : Nat := 3

/-- Says that the object is not to be opened while a program runs. -/
def notForOpening : Nat := 6

/-- Says that libraries are not looked for in the directories of the system. -/
def avoidsSystem : Nat := 11

/-- Says that the object is a program. -/
def program : Nat := 27

end Feature

/-! ## Objects -/

/-- An object in memory with its entries, which may provide data of which each thread has its own. -/
structure Object where
  memory : Memory
  entries : List Entry
  providesThreadData : Bool

namespace Object

/-- The value of a tag. -/
def value? (o : Object) (tag : Nat) : Option Nat := (o.entries.reverse.find? (·.tag == tag)).map Entry.value

/-- Whether there is an entry with a tag. -/
def has (o : Object) (tag : Nat) : Bool := (o.value? tag).isSome

/-- Whether the object has a feature. -/
def hasFeature (o : Object) (bit : Nat) : Bool := ((o.value? Tag.features).getD 0).testBit bit

/-- Whether a bit is among the flags of the object. -/
def hasFlag (o : Object) (bit : Nat) : Bool := ((o.value? Tag.flags).getD 0).testBit bit

/-- The name at a place in the table of names. -/
def name (o : Object) (place : Nat) : Utf8.Bytes :=
  match o.value? Tag.names with
  | some table => o.memory.text (table + place)
  | none => []

/-- The name that a tag gives. -/
def named? (o : Object) (tag : Nat) : Option Utf8.Bytes := (o.value? tag).map o.name

/-- What is wrong with the features of an object. -/
def featureFault? (o : Object) : Option Fault :=
  if o.hasFeature Feature.program then some .program
  else if o.hasFeature Feature.notForOpening then some .notForOpening
  else none

/-- What an entry says about the needs of the object. -/
def need? (o : Object) (e : Entry) : Option Need :=
  if e.tag = Tag.needed then some (.library (o.name e.value))
  else if e.tag = Tag.auxiliary then some (.auxiliary (o.name e.value))
  else if e.tag = Tag.filter then some (.filter (o.name e.value))
  else none

/-- What the object needs, in order. -/
def needs (o : Object) : List Need := o.entries.filterMap o.need?

/-- The object in a file. -/
def read (file : ByteArray) : Except Fault Object :=
  match Header.read? file with
  | none => .error .tooShort
  | some header =>
    match header.fault? with
    | some fault => .error fault
    | none => do
      let mapped ← header.mapObject file
      let o : Object := {
        memory := mapped.memory
        entries := entriesFrom mapped.memory mapped.dynamicAddress mapped.memory.extent
        providesThreadData := mapped.providesThreadData }
      match o.featureFault? with
      | some fault => throw fault
      | none => return o

end Object

end AgentRelay.Elf
