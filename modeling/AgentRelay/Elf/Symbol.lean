import AgentRelay.Elf.Dynamic

set_option autoImplicit false

/-!
# Symbols of ELF objects

The symbols of an object are in a table, and a hash table leads from a name to those that may have it: the hash of
the name chooses a bucket, and the bucket is a chain of symbols.  A symbol that is in no chain is not found.

There are two sorts of hash tables.  The newer sort has a bit filter in front, which tells of most names that are
not there that they are not, and its chains hold the hashes of the names.  If an object has both, the newer one
counts.
-/

namespace AgentRelay.Elf

/-! ## Hashes -/

/-- The hash of a name: each byte is added behind the bits so far, and what goes beyond 28 bits is folded in. -/
def hash (name : Utf8.Bytes) : Nat :=
  name.foldl (fun h b =>
    let sum := (h * 16 + b.toNat) % Nat.pow 2 32
    let top := sum / Nat.pow 2 28 * Nat.pow 2 28
    (sum ^^^ top / Nat.pow 2 24) % Nat.pow 2 28) 0

/-- The newer hash of a name. -/
def newHash (name : Utf8.Bytes) : Nat := name.foldl (fun h b => (h * 33 + b.toNat) % Nat.pow 2 32) 5381

/-! ## Hash tables -/

/-- The number of bytes of a number in a hash table. -/
def cellSize : Nat := 4

/-- The number of bytes of a word of the bit filter. -/
def filterWordSize : Nat := 8

/-- The number of bits of a word of the bit filter. -/
def filterWordBits : Nat := 64

/-- A chain from a symbol on, of at most a number of symbols.  For each symbol the table tells the next; the symbol
zero ends the chain. -/
def chainFrom (m : Memory) (table : Nat) : Nat → Nat → List Nat
  | 0, _ => []
  | limit + 1, symbol =>
    if symbol = 0 then []
    else symbol :: chainFrom m table limit ((m.number? (table + symbol * cellSize) cellSize).getD 0)

/-- The symbols that a hash table gives for a name. -/
def bucket (m : Memory) (table : Nat) (name : Utf8.Bytes) : Option (List Nat) := do
  let count ← m.number? table cellSize
  if count = 0 then return []
  let buckets := table + 2 * cellSize
  let first ← m.number? (buckets + hash name % count * cellSize) cellSize
  return chainFrom m (buckets + count * cellSize) m.extent first

/-- The symbols in a chain of the newer sort that have a hash, from one symbol on.  `cells` is where the cell of the
symbol zero would be.  The lowest bit of a cell ends the chain; the others are those of the hash. -/
def newChainFrom (m : Memory) (cells hash : Nat) : Nat → Nat → List Nat
  | 0, _ => []
  | limit + 1, symbol =>
    match m.number? (cells + symbol * cellSize) cellSize with
    | none => []
    | some cell =>
      let rest := if cell % 2 = 1 then [] else newChainFrom m cells hash limit (symbol + 1)
      if cell / 2 = hash / 2 then symbol :: rest else rest

/-- The symbols that a hash table of the newer sort gives for a name. -/
def newBucket (m : Memory) (table : Nat) (name : Utf8.Bytes) : Option (List Nat) := do
  let count ← m.number? table cellSize
  if count = 0 then return []
  let firstSymbol ← m.number? (table + cellSize) cellSize
  let filterWords ← m.number? (table + 2 * cellSize) cellSize
  let shift ← m.number? (table + 3 * cellSize) cellSize
  let filterTable := table + 4 * cellSize
  let hash := newHash name
  let word ← m.number? (filterTable + hash / filterWordBits % filterWords * filterWordSize) filterWordSize
  let bit := hash % filterWordBits
  let otherBit := hash / Nat.pow 2 (shift % 32) % filterWordBits
  if !(word.testBit bit && word.testBit otherBit) then return []
  let buckets := filterTable + filterWords * filterWordSize
  let first ← m.number? (buckets + hash % count * cellSize) cellSize
  if first = 0 then return []
  let cells := buckets + count * cellSize + Nat.pow 2 64 - firstSymbol * cellSize
  return newChainFrom m cells hash m.extent first

/-! ## Symbols -/

/-- The number of bytes of a symbol. -/
def symbolSize : Nat := 24

/-- The section of symbols that another object has to define. -/
def undefinedSection : Nat := 0

/-- The section of symbols that do not move with their object. -/
def fixedSection : Nat := 0xFFF1

/-- What the kind of a symbol says: whether it is code or data, data of a thread, or something else. -/
def symbolKind (providesThreadData : Bool) (kind : Nat) : SymbolKind :=
  if kind = 6 then .threadLocal providesThreadData else if kind ∈ [0, 1, 2, 5, 10] then .plain else .bookkeeping

/-- Who binds to a symbol. -/
def binding (code : Nat) : Binding :=
  if code = 10 then .unique else if code = 1 || code = 2 then .shared else .own

/-- Whether a symbol may be seen from outside of its object. -/
def isVisible (visibility : Nat) : Bool := visibility % 4 = 0 || visibility % 4 = 3

/-- A symbol of the table: the place of its name, and what it is. -/
structure SymbolEntry where
  nameAt : Nat
  bindingCode : Nat
  kind : Nat
  visibility : Nat
  definedIn : Nat
  value : Nat
  deriving DecidableEq, Repr

namespace Object

/-- The symbol of an index. -/
def symbolEntry? (o : Object) (index : Nat) : Option SymbolEntry := do
  let position := (← o.value? Tag.symbols) + index * symbolSize
  let info ← o.memory.number? (position + 4) 1
  return ⟨← o.memory.number? position 4, info / 16, info % 16, ← o.memory.number? (position + 5) 1,
    ← o.memory.number? (position + 6) 2, ← o.memory.number? (position + 8) 8⟩

/-- The indices of the symbols that may have a name. -/
def indices (o : Object) (name : Utf8.Bytes) : List Nat :=
  match o.value? Tag.newHashTable with
  | some table => (newBucket o.memory table name).getD []
  | none => ((o.value? Tag.hashTable).bind fun table => bucket o.memory table name).getD []

end Object

end AgentRelay.Elf
