import AgentRelay.Elf.Relocation

set_option autoImplicit false

/-!
# Library files

The file of a library is an ELF object.  `SharedObject.ofElf` is what a linker finds in it.
-/

namespace AgentRelay

/-- What a linker finds in an object that it has mapped.  The directories for the object alone make it disregard
the others. -/
def SharedObject.ofObject (o : Elf.Object) : SharedObject where
  ownName? := o.named? Elf.Tag.ownName
  needs := o.needs
  searchPath? := if o.has Elf.Tag.ownSearchPath then none else o.named? Elf.Tag.searchPath
  ownSearchPath? := o.named? Elf.Tag.ownSearchPath
  isPermanent := o.hasFeature Elf.Feature.permanent
  avoidsSystem := o.hasFeature Elf.Feature.avoidsSystem
  prefersItself := o.has Elf.Tag.prefersItself || o.hasFlag Elf.prefersItselfBit
  symbols := o.symbols
  versions? := o.versions?
  offers? := o.offers?
  demands := o.demands
  versionFault? := o.versionFault?
  references := o.references

/-- The shared object in the contents of a file. -/
def SharedObject.ofElf (contents : Utf8.Bytes) : Except Refusal SharedObject :=
  match Elf.Object.read ⟨contents.toArray⟩ with
  | .error fault => .error fault.refusal
  | .ok o => .ok (SharedObject.ofObject o)

end AgentRelay
