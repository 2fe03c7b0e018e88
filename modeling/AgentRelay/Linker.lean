import AgentRelay.Linker.Loading

set_option autoImplicit false

/-!
# The dynamic linker

A linker maps the library at a path, and a mapped library tells the addresses of its symbols.  Both steps
may fail, with a reason in words.  Nothing else is assumed of a linker.

`Linker.ofFiles` is the linker that finds its libraries among files and in the address space that it serves.
Its reasons are the ones that users of dynamic linkers know.  A path or a symbol is handed over as a string
that ends with a NUL, so one that holds a NUL of its own is refused before any file is looked at.

What a linker answers depends on what was loaded before.  `AddressSpace.after` is the address space after a library
was requested or released.
-/

namespace AgentRelay

/-- What a mapped library tells about a symbol: its address, or why there is none. -/
abbrev Exports := String → Except String Address

/-- A dynamic linker. -/
structure Linker where
  mapLibrary : Path → Except String Exports

/-! ## Strings that end with a NUL -/

/-- The bytes before the closing NUL of a string that is handed over.  The string may bring its own closing
NUL, but no other one. -/
def closedByNul (bytes : Utf8.Bytes) : Except String Utf8.Bytes :=
  if bytes.getLast? = some 0 then
    if (0 : UInt8) ∈ bytes.dropLast then .error "could not create a C string from bytes with trailing null"
    else .ok bytes.dropLast
  else if (0 : UInt8) ∈ bytes then .error "could not create a C string from bytes"
  else .ok bytes

/-! ## Libraries among files -/

namespace Linking

/-- Opens the library at a path. -/
def openPath (source : FileSource) (path : Path) : Linking Nat := do
  openLibrary source (← liftM (m := Except String) (closedByNul path.bytes))

/-- The address of a symbol of a library that is open. -/
def addressOf (number : Nat) (symbol : String) : Linking Address := do
  address number (← liftM (m := Except String) (closedByNul (Utf8.encode symbol)))

end Linking

/-- The linker of an address space. -/
def Linker.ofFiles (space : AddressSpace) (source : FileSource) : Linker where
  mapLibrary path :=
    match (Linking.openPath source path).run space with
    | (.error reason, _) => .error reason
    | (.ok number, after) => .ok fun symbol => ((Linking.addressOf number symbol).run after).1

/-! ## One library after the other -/

/-- What is done with libraries: a symbol of one is requested, and if it is there the library stays in use; or the
library that was requested last is released. -/
inductive LibraryUse where
  | request (path : Path) (symbol : String)
  | release
  deriving DecidableEq, Repr

namespace AddressSpace

/-- The address space after a symbol of a library was requested.  The null address counts for none. -/
def requested (s : AddressSpace) (source : FileSource) (path : Path) (symbol : String) : AddressSpace :=
  match (Linking.openPath source path).run s with
  | (.error _, after) => after
  | (.ok number, after) =>
    match (Linking.addressOf number symbol).run after with
    | (.ok found, after) => if found = 0 then after.close else after
    | (.error _, after) => after.close

/-- The address space after a library was used. -/
def after (s : AddressSpace) (source : FileSource) : LibraryUse → AddressSpace
  | .request path symbol => s.requested source path symbol
  | .release => s.close

/-- The files that the linker looks for when it maps the library at a path. -/
def filesFor (s : AddressSpace) (source : FileSource) (path : Path) : List Path :=
  ((Linking.openPath source path).run { s with visited := [] }).2.visited.reverse

end AddressSpace

end AgentRelay
