import AgentRelay.Linker.AddressSpace
import AgentRelay.SystemLibrary.Companions
import AgentRelay.SystemLibrary.Core
import AgentRelay.SystemLibrary.Mathematics

set_option autoImplicit false

/-!
# The libraries of the system

Every process holds the system library and the linker itself, and the running program holds the unwinder
besides.  So a symbol of theirs is found in the running program, and in every library that needs the system
library.  The other libraries are in the directories of the system, where a library is found by its name alone.
-/

namespace AgentRelay.SystemLibrary

/-- The libraries that are not in a process from the start. -/
def installed : List LibraryTable :=
  [mathematics, vectorMathematics, dynamicLoading, threads, realTime, utilities, nameResolution, asynchronousNames,
    brokenLocale, networkServices, threadDebugging, memoryDebugging, compatibleUsers, servedNames, filedNames,
    hesiodNames]

/-- The directories of the system in which libraries are looked for. -/
def directories : List Path :=
  ["/lib/x86_64-linux-gnu/", "/usr/lib/x86_64-linux-gnu/", "/lib/", "/usr/lib/"].map Path.ofString

/-- Where the libraries of the system are. -/
def directory : Location := ["usr", "lib", "x86_64-linux-gnu"].map Utf8.encode

/-- The running program.  It has no symbols of its own. -/
def program (origin : Path) : LoadedObject where
  number := AddressSpace.programNumber
  object := { SharedObject.empty with needs := [unwinder, library].map fun t => .library (Utf8.encode t.name) }
  file := ⟨[]⟩
  location? := none
  names := []
  origin := origin
  loader? := none
  base := AddressSpace.baseOf AddressSpace.programNumber
  needs := [1, 2]
  bonds := []
  scope? := some [AddressSpace.programNumber, 1, 2, 3]
  isBound := true
  isKept := true
  isInitial := true

/-- A library that is in a process from the start. -/
def resident (number : Nat) (object : SharedObject) (file : Path) (name : String) (needs : List Nat) :
    LoadedObject where
  number := number
  object := object
  file := file
  location? := some (directory ++ [Utf8.encode name])
  names := [Utf8.encode name]
  origin := AddressSpace.originOf ⟨[]⟩ file
  loader? := none
  base := AddressSpace.baseOf number
  needs := needs
  bonds := []
  scope? := none
  isBound := true
  isKept := true
  isInitial := true

/-- The libraries that are in every process from the start.  The last one is no file: the system itself maps it. -/
def residents : List LoadedObject := [
  resident 1 unwinder.sharedObject (.ofString "/lib/x86_64-linux-gnu/libgcc_s.so.1") unwinder.name [2, 3],
  resident 2 library.sharedObject (.ofString "/lib/x86_64-linux-gnu/libc.so.6") library.name [3],
  resident 3 linker.sharedObject (.ofString "/lib64/ld-linux-x86-64.so.2") linker.name [],
  { resident 4 services.sharedObject (.ofString services.name) services.name [] with location? := none }]

/-- The address space of a program that lies in a directory and works in another. -/
def addressSpace (origin current : Path) : AddressSpace where
  current := current
  systemDirectories := directories
  objects := program origin :: residents
  next := residents.length + 1
  inUse := []
  uniqueSymbols := []
  visited := []

end AgentRelay.SystemLibrary
