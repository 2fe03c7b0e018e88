import AgentRelay.Library

set_option autoImplicit false

/-!
# Shared objects

A shared object is what a linker finds in the file of a library: the symbols that it offers, the libraries that
it needs, and what has to be found elsewhere before it can be used.

A name may stand for several symbols of one object, which differ in their versions.  `SharedObject.symbol?`
chooses the one that a search is after, and decides whether others may use it at all.
-/

namespace AgentRelay

/-! ## Versions -/

/-- A version of symbols: its name, and the hash that stands for the name.  The hash zero is that of no version. -/
structure Version where
  name : Utf8.Bytes
  hash : Nat
  deriving DecidableEq, Repr

namespace Version

/-- The version of the symbols that have none. -/
def none : Version := ⟨[], 0⟩

end Version

/-- A version that an object needs of a library. -/
structure VersionDemand where
  library : Utf8.Bytes
  version : Version
  isOptional : Bool
  deriving DecidableEq, Repr

/-- A record that offers a version, or the number of the format of a record that cannot be read. -/
abbrev VersionOffer := Except Nat Version

/-! ## Symbols -/

/-- What the address of a symbol is relative to. -/
inductive Anchor where
  | nowhere
  | zero
  | object
  deriving DecidableEq, Repr

/-- What a symbol names: code or data, data of which each thread has its own, or a part of the file.  An object may
have symbols for the data of threads although it provides no such data. -/
inductive SymbolKind where
  | plain
  | threadLocal (isProvided : Bool)
  | bookkeeping
  deriving DecidableEq, Repr

/-- Who binds to a symbol: nobody else, everybody, or everybody to the first symbol of that name in the process. -/
inductive Binding where
  | own
  | shared
  | unique
  deriving DecidableEq, Repr

/-- A symbol of an object.  `versionIndex` says which of the object's versions it belongs to; the first two
indices are those of symbols without a version.  A superseded symbol is only found by those who ask for its
version. -/
structure Symbol where
  value : Address
  anchor : Anchor
  kind : SymbolKind
  binding : Binding
  isVisible : Bool
  versionIndex : Nat
  isSuperseded : Bool
  deriving DecidableEq, Repr

namespace Symbol

/-- How far the data of the thread is from the other data of an object. -/
def threadDistance : Address := 0x80000000

/-- Where the data of the thread is taken to be for an object that provides none. -/
def strayData : Address := 1

/-- The address of a symbol in an object that lies in memory from a base on. -/
def address (s : Symbol) (base : Address) : Address :=
  match s.kind, s.anchor with
  | .threadLocal true, _ => base + threadDistance + s.value
  | .threadLocal false, _ => strayData + s.value
  | _, .zero => s.value
  | _, _ => base + s.value

/-- Whether the symbol is somewhere.  At the value zero only fixed symbols and those of threads are. -/
def isDefined (s : Symbol) : Bool :=
  match s.kind with
  | .plain => s.value != 0 || s.anchor == .zero
  | .threadLocal _ => true
  | .bookkeeping => false

/-- Whether others may use the symbol. -/
def isShared (s : Symbol) : Bool := s.isVisible && s.binding != .own

end Symbol

/-! ## Searches -/

/-- What a search asks for.  A call is not bound to a symbol that another object has to define.  Without a
version, symbols are taken if their version index is below `plainIndices`, and others if there is no choice. -/
structure Wanted where
  name : Utf8.Bytes
  version? : Option Version
  isExact : Bool
  isCall : Bool
  plainIndices : Nat
  deriving DecidableEq, Repr

/-- How well a symbol fits a search: it is the one, or it will do if it is the only one, or it is another. -/
inductive Fit where
  | right
  | possible
  | wrong
  deriving DecidableEq, Repr

/-- A name that an object gives for a library: one that it needs, one that stands in for it and has to be there,
or one that stands in for it if it is there. -/
inductive Need where
  | library (name : Utf8.Bytes)
  | filter (name : Utf8.Bytes)
  | auxiliary (name : Utf8.Bytes)
  deriving DecidableEq, Repr

/-- A use of a symbol that has to be found before an object can be used, or a use of a kind that is not known. -/
inductive Reference where
  | symbol (wanted : Wanted) (isOptional : Bool)
  | unknown (reason : String)
  deriving DecidableEq, Repr

/-- What a linker finds in the file of a library.

* `ownName?` is the name that the object gives itself.
* `searchPath?` lists directories for the libraries that it needs and that these need in turn, `ownSearchPath?`
  those for its own needs alone.
* `isPermanent` objects stay in memory, those that avoid the system do not look for libraries in the directories
  of the system, and those that prefer themselves search their own symbols before all others.
* `versions?` gives the versions for the indices, if the object has versions at all.
* `offers?` are the versions that it tells others of, `demands` those that it needs, or the number of the format
  in which they are given if it is not known, and `versionFault?` is what else is wrong with its versions.
* `references` are the uses of symbols, in the order in which the linker comes to them. -/
structure SharedObject where
  ownName? : Option Utf8.Bytes
  needs : List Need
  searchPath? : Option Utf8.Bytes
  ownSearchPath? : Option Utf8.Bytes
  isPermanent : Bool
  avoidsSystem : Bool
  prefersItself : Bool
  symbols : Utf8.Bytes → List Symbol
  versions? : Option (Nat → Version)
  offers? : Option (List VersionOffer)
  demands : Except Nat (List VersionDemand)
  versionFault? : Option String
  references : List Reference

namespace SharedObject

/-- An object with nothing in it. -/
def empty : SharedObject where
  ownName? := none
  needs := []
  searchPath? := none
  ownSearchPath? := none
  isPermanent := false
  avoidsSystem := false
  prefersItself := false
  symbols _ := []
  versions? := none
  offers? := none
  demands := .ok []
  versionFault? := none
  references := []

/-- How well a symbol of an object fits a search, by its version alone. -/
def versionFit (o : SharedObject) (w : Wanted) (s : Symbol) : Fit :=
  match o.versions? with
  | none => .right
  | some versionOf =>
    let version := versionOf s.versionIndex
    match w.version? with
    | some wanted =>
      if version = wanted then .right
      else if w.isExact || version.hash ≠ 0 || s.isSuperseded then .wrong
      else .right
    | none =>
      if s.versionIndex < w.plainIndices then .right
      else if s.isSuperseded then .wrong
      else .possible

/-- How well a symbol of an object fits a search. -/
def fit (o : SharedObject) (w : Wanted) (s : Symbol) : Fit :=
  if s.isDefined && !(w.isCall && s.anchor == .nowhere) then o.versionFit w s else .wrong

/-- The symbol that a search is after: the first that fits, or the only one that is possible. -/
def chosen? (o : SharedObject) (w : Wanted) : Option Symbol :=
  let candidates := o.symbols w.name
  match candidates.find? fun s => o.fit w s == .right with
  | some s => some s
  | none =>
    match candidates.filter fun s => o.fit w s == .possible with
    | [s] => some s
    | _ => none

/-- The symbol that a search finds in an object. -/
def symbol? (o : SharedObject) (w : Wanted) : Option Symbol := (o.chosen? w).filter Symbol.isShared

end SharedObject

end AgentRelay
