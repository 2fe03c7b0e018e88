import AgentRelay.Path

set_option autoImplicit false

/-!
# Libraries

A library in memory, with the symbol that was looked up in it.  The address of the symbol is never null:
that is part of the type, so a library that is there can be called.
-/

namespace AgentRelay

/-- An address in the memory of the process.  Zero is the null address. -/
abbrev Address := UInt64

/-- The text of an address. -/
def Address.text (a : Address) : String := "0x" ++ String.ofList (Path.hexDigits a.toNat)

/-- Where a symbol is: an address that is not null. -/
structure EntryPoint where
  address : Address
  isSomewhere : address ≠ 0
  deriving DecidableEq, Repr

namespace EntryPoint

/-- The entry point at an address, unless that is null. -/
def ofAddress? (a : Address) : Option EntryPoint := if h : a = 0 then none else some ⟨a, h⟩

/-- The entry point as it is shown to a developer. -/
def described (e : EntryPoint) : String := "EntryPoint(" ++ e.address.text ++ ")"

theorem ofAddress?_eq_none_iff (a : Address) : ofAddress? a = none ↔ a = 0 := by
  unfold ofAddress?
  split <;> simp_all

theorem ofAddress?_eq_some_iff (a : Address) (e : EntryPoint) : ofAddress? a = some e ↔ e.address = a := by
  unfold ofAddress?
  split
  · next h => simpa using fun he : e.address = a => e.isSomewhere (he.trans h)
  · next h =>
    cases e
    simp [eq_comm]

end EntryPoint

/-- A library in memory: the path it was asked for by, the symbol that was looked up, and where that is. -/
structure Library where
  path : Path
  symbol : String
  entry : EntryPoint
  deriving DecidableEq, Repr

/-- The library as it is shown to a developer. -/
def Library.described (l : Library) : String :=
  "AgentLibrary \x7b path: " ++ l.path.quoted ++ ", symbol: " ++ (Path.ofString l.symbol).quoted ++
    ", entry: " ++ l.entry.described ++ ", .. \x7d"

end AgentRelay
