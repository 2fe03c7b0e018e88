import AgentRelay.Elf.Symbol

set_option autoImplicit false

/-!
# Versions of ELF symbols

An object keeps records of the versions that it needs, under the names of the libraries that have to offer them,
and of the versions that it offers.  Each record tells how far it is to the next.  Both sorts of records give
indices to their versions, and a table tells the index of each symbol.
-/

namespace AgentRelay.Elf

/-- The addresses of the records from an address on, at most a number of them.  `linkAt` is the place in a record
where the distance to the next one is told; the last record tells zero. -/
def recordsFrom (m : Memory) (linkAt : Nat) : Nat → Nat → List Nat
  | 0, _ => []
  | limit + 1, address =>
    match m.number? (address + linkAt) 4 with
    | none => []
    | some distance => address :: if distance = 0 then [] else recordsFrom m linkAt limit (address + distance)

/-- The format of the records that is known. -/
def recordFormat : Nat := 1

/-- The least number that is no index of a version, because its highest bit stands for something else. -/
def indexBound : Nat := Nat.pow 2 15

/-- A version in a record: what it is, its index, whether nothing else will do for it, and bits that say more. -/
structure VersionEntry where
  version : Version
  index : Nat
  isExact : Bool
  flags : Nat
  deriving DecidableEq, Repr

/-- The bit of the record that gives the name of the object itself. -/
def baseBit : Nat := 0

/-- The bit of a version that is not needed if it is not there. -/
def optionalBit : Nat := 1

/-- The version that relative references in short form need. -/
def shortFormVersion : Utf8.Bytes := Utf8.encode "GLIBC_ABI_DT_RELR"

/-- How the names of libraries begin with which objects with relative references in short form need that version. -/
def shortFormLibrary : Utf8.Bytes := Utf8.encode "libc.so."

namespace Object

/-! ## Needed versions -/

/-- The version in a record of a needed version. -/
def neededEntry? (o : Object) (address : Nat) : Option VersionEntry := do
  let m := o.memory
  let index ← m.number? (address + 6) 2
  return ⟨⟨o.name (← m.number? (address + 8) 4), ← m.number? address 4⟩, index % indexBound, indexBound ≤ index,
    ← m.number? (address + 4) 2⟩

/-- The versions that the object needs of a library. -/
def neededOf? (o : Object) (address : Nat) : Option (Utf8.Bytes × List VersionEntry) := do
  let m := o.memory
  let library := o.name (← m.number? (address + 4) 4)
  let first := address + (← m.number? (address + 8) 4)
  return (library, (recordsFrom m 12 m.extent first).filterMap o.neededEntry?)

/-- The versions that the object needs, by library. -/
def neededVersions (o : Object) : List (Utf8.Bytes × List VersionEntry) :=
  match o.value? Tag.neededVersions with
  | none => []
  | some address => (recordsFrom o.memory 12 o.memory.extent address).filterMap o.neededOf?

/-- The demands of the object, or the format of its records if it is not known.  An object without names has none. -/
def demands (o : Object) : Except Nat (List VersionDemand) :=
  let format := ((o.value? Tag.neededVersions).bind fun address => o.memory.number? address 2).getD recordFormat
  if !o.has Tag.names then .ok []
  else if format ≠ recordFormat then .error format
  else
    .ok (o.neededVersions.flatMap fun (library, entries) =>
      entries.map fun e => ⟨library, e.version, e.flags.testBit optionalBit⟩)

/-! ## Offered versions -/

/-- The version in a record of an offered version, or the format of the record if it is not known. -/
def offeredEntry? (o : Object) (address : Nat) : Option (Nat × VersionEntry) := do
  let m := o.memory
  let index ← m.number? (address + 4) 2
  let first := address + (← m.number? (address + 12) 4)
  let name := ((m.number? first 4).map o.name).getD []
  return (← m.number? address 2, ⟨⟨name, ← m.number? (address + 8) 4⟩, index % indexBound, false,
    ← m.number? (address + 2) 2⟩)

/-- The records of the versions that the object offers, each with its format. -/
def offeredVersions? (o : Object) : Option (List (Nat × VersionEntry)) :=
  (o.value? Tag.offeredVersions).map fun address =>
    (recordsFrom o.memory 16 o.memory.extent address).filterMap o.offeredEntry?

/-- What the object tells others of its versions. -/
def offers? (o : Object) : Option (List VersionOffer) :=
  o.offeredVersions?.map fun entries =>
    entries.map fun (format, e) => if format = recordFormat then .ok e.version else .error format

/-! ## Versions of symbols -/

/-- The versions that have indices in the object.  Of two with one index the later counts. -/
def versionEntries (o : Object) : List VersionEntry :=
  let offered := (o.offeredVersions?.getD []).map Prod.snd
  o.neededVersions.flatMap Prod.snd ++ offered.filter fun e => !e.flags.testBit baseBit

/-- Whether the symbols of the object have versions: some index is not zero, and there are names for them. -/
def hasVersions (o : Object) : Bool :=
  let offered := (o.offeredVersions?.getD []).map Prod.snd
  o.has Tag.names && (o.neededVersions.flatMap Prod.snd ++ offered).any fun e => e.index != 0

/-- The entry of an index. -/
def versionEntry? (o : Object) (index : Nat) : Option VersionEntry :=
  o.versionEntries.reverse.find? (·.index == index)

/-- Whether nothing else will do for the version of an index.  Only what the object needs can say so. -/
def isExact (o : Object) (index : Nat) : Bool :=
  ((o.neededVersions.flatMap Prod.snd).reverse.find? (·.index == index)).any VersionEntry.isExact

/-- The version of an index. -/
def versionOf (o : Object) (index : Nat) : Version := ((o.versionEntry? index).map VersionEntry.version).getD .none

/-- What the table of versions tells of a symbol: the index of its version, and whether it is superseded. -/
def symbolVersion? (o : Object) (symbol : Nat) : Option (Nat × Bool) := do
  let code ← o.memory.number? ((← o.value? Tag.symbolVersions) + 2 * symbol) 2
  return (code % indexBound, indexBound ≤ code)

/-- The versions of the object, if its symbols have versions. -/
def versions? (o : Object) : Option (Nat → Version) :=
  if o.hasVersions && o.has Tag.symbolVersions then some o.versionOf else none

/-- What is wrong with an object that has relative references in short form, uses versions and needs the system
library: it has to need the version for such references. -/
def versionFault? (o : Object) : Option String :=
  let needsLibrary := o.needs.any fun
    | .library name => shortFormLibrary.isPrefixOf name
    | _ => false
  let needsVersion := (o.neededVersions.flatMap Prod.snd).any fun e => e.version.name == shortFormVersion
  if o.has Tag.names && o.has Tag.neededVersions && o.has Tag.relativeReferences && needsLibrary && !needsVersion then
    some "DT_RELR without GLIBC_ABI_DT_RELR dependency"
  else none

/-! ## Offered symbols -/

/-- The symbol of an index as others see it. -/
def symbol? (o : Object) (index : Nat) : Option Symbol := do
  let e ← o.symbolEntry? index
  let version := if o.versions?.isSome then (o.symbolVersion? index).getD (0, false) else (0, false)
  return {
    value := UInt64.ofNat e.value
    anchor := if e.definedIn = undefinedSection then .nowhere else if e.definedIn = fixedSection then .zero else .object
    kind := symbolKind o.providesThreadData e.kind
    binding := binding e.bindingCode
    isVisible := isVisible e.visibility
    versionIndex := version.1
    isSuperseded := version.2 }

/-- The symbols of a name. -/
def symbols (o : Object) (name : Utf8.Bytes) : List Symbol :=
  ((o.indices name).filter fun index =>
    (o.symbolEntry? index).any fun e => o.name e.nameAt == name).filterMap o.symbol?

end Object

end AgentRelay.Elf
