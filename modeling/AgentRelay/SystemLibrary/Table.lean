import AgentRelay.Elf.Symbol
import AgentRelay.Text.Split

set_option autoImplicit false

/-!
# Tables of libraries

A table lists what the linker has to know of a library of the system: the libraries that it needs, the versions
that it offers, and its symbols.

A word of the table is a place in the library; symbols that lie at one place are joined by an equals sign.  A name
may be followed by the index of its version, which is that of the first version if it is left out.  Two signs `@`
stand before the index of a version that is found by those who ask for none, and one before the index of a version
that is superseded.

For each version there is also a symbol of its name, at the address zero.  Where a place lies differs from process
to process, and nothing depends on it but that different places have different addresses.
-/

namespace AgentRelay.SystemLibrary

/-- A table of a library. -/
structure LibraryTable where
  name : String
  needs : List String
  versions : List String
  places : List String
  deriving DecidableEq, Repr

namespace LibraryTable

/-- The index of the first version: the indices below it are those of symbols without a version. -/
def firstIndex : Nat := 2

/-- The number of bytes from one place to the next. -/
def placeSize : Nat := 16

/-- A symbol of a table. -/
def symbol (value : Address) (anchor : Anchor) (index : Nat) (isSuperseded : Bool) : Symbol :=
  ⟨value, anchor, .plain, .shared, true, index, isSuperseded⟩

/-- The name and the symbol that a table gives for a place. -/
def symbolOfAlias (value : Address) (text : Utf8.Bytes) : Utf8.Bytes × Symbol :=
  let index := fun (digits : Utf8.Bytes) => ((Utf8.decodeLossy digits).toNat?).getD firstIndex
  match Split.pieces (Utf8.encode "@") text with
  | [name, [], digits] => (name, symbol value .object (index digits) false)
  | [name, digits] => (name, symbol value .object (index digits) true)
  | _ => (text, symbol value .object firstIndex false)

/-- The symbols at the places of a table. -/
def placedSymbols (t : LibraryTable) : List (Utf8.Bytes × Symbol) :=
  let words := t.places.flatMap fun line => Split.pieces (Utf8.encode " ") (Utf8.encode line)
  (words.mapIdx fun i word =>
    (Split.pieces (Utf8.encode "=") word).map (symbolOfAlias (UInt64.ofNat ((i + 1) * placeSize)))).flatten

/-- The symbols that stand for the versions of a table. -/
def versionSymbols (t : LibraryTable) : List (Utf8.Bytes × Symbol) :=
  t.versions.mapIdx fun i version => (Utf8.encode version, symbol 0 .zero (firstIndex + i) false)

/-- The version of a name. -/
def version (name : String) : Version := ⟨Utf8.encode name, Elf.hash (Utf8.encode name)⟩

/-- The library of a table. -/
def sharedObject (t : LibraryTable) : SharedObject :=
  let symbols := t.placedSymbols ++ t.versionSymbols
  let versions := t.versions.map version
  { SharedObject.empty with
    ownName? := some (Utf8.encode t.name)
    needs := t.needs.map fun name => .library (Utf8.encode name)
    symbols := fun name => (symbols.filter fun entry => entry.1 == name).map Prod.snd
    versions? := some fun index => if index < firstIndex then .none else (versions[index - firstIndex]?).getD .none
    offers? := some ((version t.name :: versions).map Except.ok) }

end LibraryTable

end AgentRelay.SystemLibrary
