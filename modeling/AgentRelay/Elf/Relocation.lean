import AgentRelay.Elf.Version

set_option autoImplicit false

/-!
# References of ELF objects

An object lists the places where addresses have to be filled in, with the symbols whose addresses they are.  The
references for calls are listed apart, since they are settled one by one, each at its first call, unless the object
asks for all of them at once.  Each place says how it is to be filled in; some ways need no symbol, and a way that
is not known is a fault.
-/

namespace AgentRelay.Elf

/-! ## Ways of filling in -/

namespace Filling

/-- Not at all. -/
def nothing : Nat := 0

/-- With the address of a function, which may be left until it is called. -/
def call : Nat := 7

/-- With an address in the object itself. -/
def relative : Nat := 8

/-- With an address in the object itself, of full width. -/
def wideRelative : Nat := 38

/-- With what tells where the data of a thread is. -/
def threadDescriptor : Nat := 36

/-- With what a function of the object answers. -/
def answered : Nat := 37

/-- The ways that are known. -/
def known : List Nat := [0, 1, 2, 5, 6, 7, 8, 10, 16, 17, 18, 32, 33, 36, 37, 38]

/-- The ways that need a definition in some object: the address of a function, and all that concerns the data of
threads. -/
def needingDefinition : List Nat := [7, 16, 17, 18, 36]

/-- The ways that need no symbol. -/
def withoutSymbol : List Nat := [nothing, relative, wideRelative, answered]

end Filling

/-! ## Relocations -/

/-- A place that has to be filled in: the way in which that is done, and the index of the symbol. -/
structure Relocation where
  way : Nat
  symbol : Nat
  deriving DecidableEq, Repr

/-- The number of bytes of a relocation. -/
def relocationSize : Nat := 24

/-- The relocation at an address. -/
def Relocation.read? (m : Memory) (address : Nat) : Option Relocation := do
  return ⟨← m.number? (address + 8) 4, ← m.number? (address + 12) 4⟩

/-- Relocations that stand behind each other: where they begin and how many bytes they take. -/
structure Run where
  start : Nat
  size : Nat
  deriving DecidableEq, Repr

namespace Run

/-- No relocations. -/
def empty : Run := ⟨0, 0⟩

/-- The address behind the last byte. -/
def stop (r : Run) : Nat := (r.start + r.size) % addressCount

/-- The run that takes so many bytes less. -/
def shorter (r : Run) (size : Nat) : Run := ⟨r.start, (r.size + addressCount - size) % addressCount⟩

/-- The run that takes so many bytes more. -/
def longer (r : Run) (size : Nat) : Run := ⟨r.start, (r.size + size) % addressCount⟩

/-- The relocations.  There are none in a run that ends before it begins. -/
def relocations (r : Run) (m : Memory) : List Relocation :=
  if addressCount / 2 ≤ r.size then []
  else
    (List.range (min ((r.size + (relocationSize - 1)) / relocationSize) m.file.size)).filterMap fun i =>
      Relocation.read? m (r.start + i * relocationSize)

end Run

/-! ## References -/

/-- The last digits of a number to base 16: two of them, or eight if the number is greater than a byte. -/
def wayText (way : Nat) : String :=
  let digits := Path.hexDigits way
  String.ofList (List.replicate ((if way < 256 then 2 else 8) - digits.length) '0' ++ digits)

namespace Object

/-- Whether all references are settled at once. -/
def bindsNow (o : Object) : Bool :=
  o.has Tag.bindsNow || o.hasFlag bindsNowBit || o.hasFeature Feature.bindsNow

/-- The use of a symbol, if it has to be looked for: symbols that nobody else binds to are there. -/
def use? (o : Object) (r : Relocation) : Option Reference := do
  let e ← o.symbolEntry? r.symbol
  if e.bindingCode = 0 || !isVisible e.visibility then none
  else
    let index := if o.hasVersions then ((o.symbolVersion? r.symbol).map Prod.fst).getD 0 else 0
    let entry? := (o.versionEntry? index).filter fun v => v.version.hash ≠ 0
    some (.symbol {
      name := o.name e.nameAt
      version? := entry?.map VersionEntry.version
      isExact := o.isExact index
      isCall := Filling.needingDefinition.contains r.way
      plainIndices := 3 } (e.bindingCode == 2))

/-- What a relocation refers to that is settled when the object is loaded. -/
def settledAtOnce (o : Object) (r : Relocation) : List Reference :=
  if Filling.withoutSymbol.contains r.way then []
  else
    (o.use? r).toList ++
      if Filling.known.contains r.way then [] else [.unknown ("unexpected reloc type 0x" ++ wayText r.way)]

/-- What a relocation for calls refers to that is settled when the object is loaded, if calls are not. -/
def settledBeforeCalls (o : Object) (r : Relocation) : List Reference :=
  if r.way = Filling.call || r.way = Filling.answered then []
  else if r.way = Filling.threadDescriptor then o.settledAtOnce r
  else [.unknown ("unexpected PLT reloc type 0x" ++ wayText r.way)]

/-- The run of relocations between two tags. -/
def run (o : Object) (start size : Nat) : Run := ⟨(o.value? start).getD 0, (o.value? size).getD 0⟩

/-- The run of relocations, and that of those for calls which come after them.  The relocations for calls may lie
among the others, at their end; if all are settled at once and the one run follows the other, the two are one. -/
def runs (o : Object) : Run × Run :=
  let all := o.run Tag.references Tag.referenceSize
  let calls := o.run Tag.callReferences Tag.callReferenceSize
  match o.has Tag.references, o.has Tag.callReferenceKind with
  | false, false => (.empty, .empty)
  | true, false => (all, .empty)
  | false, true => (.empty, calls)
  | true, true =>
    let plain := if all.stop = calls.stop then all.shorter calls.size else all
    if o.bindsNow && plain.stop == calls.start then (plain.longer calls.size, .empty) else (plain, calls)

/-- The references of the object, in the order in which they are settled. -/
def references (o : Object) : List Reference :=
  let skipped := if o.has Tag.references then (o.value? Tag.relativeCount).getD 0 else 0
  let (all, calls) := o.runs
  ((all.relocations o.memory).drop skipped).flatMap o.settledAtOnce ++
    (calls.relocations o.memory).flatMap (if o.bindsNow then o.settledAtOnce else o.settledBeforeCalls)

end Object

end AgentRelay.Elf
