import AgentRelay.Linker.Refusal

set_option autoImplicit false

/-!
# ELF headers

An ELF object begins with 16 bytes that identify it and with the numbers that describe it.  `Header.fault?` says
what is wrong with them.  The order of the checks is the linker's: it looks at the identification as a whole, and
only when something is wrong there does it ask what.

All faults of an object are listed here, also those that are found later.
-/

namespace AgentRelay.Elf

/-! ## Numbers -/

/-- The number in `width` bytes from a position on, the least significant byte first. -/
def number? (file : ByteArray) (position : Nat) : Nat → Option Nat
  | 0 => some 0
  | width + 1 => do
    let low ← file[position]?
    let high ← number? file (position + 1) width
    return low.toNat + 256 * high

/-! ## Faults -/

/-- Why an object cannot be mapped. -/
inductive Fault where
  | tooShort
  | noMagic
  | otherClass
  | otherMachine
  | otherByteOrder
  | otherFormat
  | unknownAbi
  | unknownAbiVersion
  | padded
  | otherVersion
  | notLoadable
  | otherSegmentWidth
  | segmentsOutOfRange
  | segmentsCut
  | misaligned
  | nothingToLoad
  | executable
  | notDynamic
  | unmappable
  | unfilled
  | program
  | notForOpening
  deriving DecidableEq, Repr

/-- Why the linker does not take the file of a faulty object.  An object for another machine is passed over,
in the hope of finding one for this machine elsewhere. -/
def Fault.refusal : Fault → Refusal
  | .tooShort => .spoiled "file too short"
  | .noMagic => .spoiled "invalid ELF header"
  | .otherClass => .otherWidth
  | .otherMachine => .otherMachine
  | .otherByteOrder => .spoiled "ELF file data encoding not little-endian"
  | .otherFormat => .spoiled "ELF file version ident does not match current one"
  | .unknownAbi => .spoiled "ELF file OS ABI invalid"
  | .unknownAbiVersion => .spoiled "ELF file ABI version invalid"
  | .padded => .spoiled "nonzero padding in e_ident"
  | .otherVersion => .spoiled "ELF file version does not match current one"
  | .notLoadable => .spoiled "only ET_DYN and ET_EXEC can be loaded"
  | .otherSegmentWidth => .spoiled "ELF file's phentsize not the expected size"
  | .segmentsOutOfRange => .spoiled "cannot read file data: Invalid argument"
  | .segmentsCut => .spoiled "cannot read file data"
  | .misaligned => .useless "ELF load command address/offset not page-aligned"
  | .nothingToLoad => .useless "object file has no loadable segments"
  | .executable => .useless "cannot dynamically load executable"
  | .notDynamic => .useless "object file has no dynamic section"
  | .unmappable => .useless "failed to map segment from shared object"
  | .unfilled => .useless "cannot map zero-fill pages"
  | .program => .useless "cannot dynamically load position-independent executable"
  | .notForOpening => .useless "shared object cannot be dlopen()ed"

/-! ## The identification -/

/-- The 16 bytes with which an object begins. -/
structure Identification where
  magic : List UInt8
  wordClass : UInt8
  byteOrder : UInt8
  format : UInt8
  abi : UInt8
  abiVersion : UInt8
  padding : List UInt8
  deriving DecidableEq, Repr

namespace Identification

/-- The identification in the bytes of an object. -/
def ofBytes? : List UInt8 → Option Identification
  | m₀ :: m₁ :: m₂ :: m₃ :: wordClass :: byteOrder :: format :: abi :: abiVersion :: rest =>
    some ⟨[m₀, m₁, m₂, m₃], wordClass, byteOrder, format, abi, abiVersion, rest.take 7⟩
  | _ => none

/-- The magic number: a delete character and the letters `ELF`. -/
def magicNumber : List UInt8 := [0x7F, 0x45, 0x4C, 0x46]

/-- The system interface that most objects use. -/
def plainAbi : UInt8 := 0

/-- The system interface of objects that use what only this system offers. -/
def extendedAbi : UInt8 := 3

/-- Whether the version of the system interface is known. -/
def knowsAbiVersion (i : Identification) : Bool := i.abiVersion == 0 || (i.abi == extendedAbi && i.abiVersion < 4)

/-- What is wrong with an identification after the magic number. -/
def fault? (i : Identification) : Option Fault :=
  if i.wordClass ≠ 2 then some .otherClass
  else if i.byteOrder ≠ 1 then some .otherByteOrder
  else if i.format ≠ 1 then some .otherFormat
  else if i.abi ≠ plainAbi ∧ i.abi ≠ extendedAbi then some .unknownAbi
  else if !i.knowsAbiVersion then some .unknownAbiVersion
  else if i.padding.any (· ≠ 0) then some .padded
  else none

end Identification

/-! ## The header -/

/-- The numbers in the header of an object.  A table is given by its position, the width of an entry and the
number of entries. -/
structure Header where
  identification : Identification
  kind : Nat
  machine : Nat
  version : Nat
  segmentTable : Nat
  segmentWidth : Nat
  segmentCount : Nat
  sectionTable : Nat
  sectionWidth : Nat
  sectionCount : Nat
  deriving DecidableEq, Repr

namespace Header

/-- The number of bytes in a header. -/
def size : Nat := 64

/-- The header of an object, unless there are too few bytes for one. -/
def read? (file : ByteArray) : Option Header := do
  guard (size ≤ file.size)
  return {
    identification := ← Identification.ofBytes? (file.extract 0 16).toList
    kind := ← number? file 16 2
    machine := ← number? file 18 2
    version := ← number? file 20 4
    segmentTable := ← number? file 32 8
    segmentWidth := ← number? file 54 2
    segmentCount := ← number? file 56 2
    sectionTable := ← number? file 40 8
    sectionWidth := ← number? file 58 2
    sectionCount := ← number? file 60 2 }

/-- The kind of programs that are bound to their addresses. -/
def executable : Nat := 2

/-- The kind of objects that may be mapped anywhere, as libraries are. -/
def relocatable : Nat := 3

/-- The number of the machine that the linker works on. -/
def thisMachine : Nat := 62

/-- The number of bytes that describe a segment. -/
def bytesPerSegment : Nat := 56

/-- What is wrong with a header. -/
def fault? (h : Header) : Option Fault :=
  if h.identification.magic ≠ Identification.magicNumber then some .noMagic
  else
    match h.identification.fault? with
    | some .otherClass => some .otherClass
    | some fault => some (if h.machine = thisMachine then fault else .otherMachine)
    | none =>
      if h.version ≠ 1 then some .otherVersion
      else if h.machine ≠ thisMachine then some .otherMachine
      else if h.kind ≠ executable ∧ h.kind ≠ relocatable then some .notLoadable
      else if h.segmentWidth ≠ bytesPerSegment then some .otherSegmentWidth
      else none

end Header

end AgentRelay.Elf
