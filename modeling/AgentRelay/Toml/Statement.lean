import AgentRelay.Toml.Scalar
import AgentRelay.Toml.Table

set_option autoImplicit false

/-!
# The statements of a TOML document

A document is a sequence of statements: a pair of a key and a value, the header of a table, or the header
of an element of an array of tables.  A statement ends with its line.  A byte order mark in front of the
document is skipped.

Arrays and inline tables nest in one another less than `depthLimit` times.  A value is read with an
allowance of further nesting, on which the reader recurses.
-/

namespace AgentRelay.Toml

/-! ## Values -/

/-- The items of an array, from the first item on to the closing bracket. -/
def arrayItems (item : Reader Value) : Nat → Reader (List Value)
  | 0, _ => none
  | fuel + 1, s =>
    match item s with
    | none => none
    | some (v, after) =>
      match skipLines after with
      | ']' :: rest => some ([v], rest)
      | ',' :: rest =>
        match skipLines rest with
        | ']' :: rest => some ([v], rest)
        | next => (arrayItems item fuel next).map fun read => (v :: read.1, read.2)
      | _ => none

/-- An array after its opening bracket. -/
def arrayRest (item : Reader Value) : Reader Value := fun s =>
  match skipLines s with
  | ']' :: rest => some (.array [], rest)
  | first => (arrayItems item first.length first).map fun read => (.array read.1, read.2)

/-- The pairs of an inline table, from the first key on to the closing brace. -/
def inlinePairs (item : Reader Value) : Nat → Reader (List (List String × Value))
  | 0, _ => none
  | fuel + 1, s =>
    match dottedKey s with
    | some (key, '=' :: after) =>
      match item (skipGaps after) with
      | none => none
      | some (v, after) =>
        match skipGaps after with
        | ',' :: rest => (inlinePairs item fuel rest).map fun read => ((key, v) :: read.1, read.2)
        | rest => if rest.head? = some '\x7d' then some ([(key, v)], rest.tail) else none
    | _ => none

/-- Sets a key of one or more parts. -/
def setKey (key : List String) (v : Value) (entries : Entries) : Option Entries :=
  match key.getLast? with
  | some last => entries.setValue key.dropLast last v
  | none => none

/-- An inline table of pairs. -/
def inlineTable (pairs : List (List String × Value)) : Option Value :=
  (pairs.foldlM (fun entries (pair : List String × Value) => setKey pair.1 pair.2 entries) []).map
    fun entries => .table (Node.entryValues entries)

/-- An inline table after its opening brace. -/
def inlineRest (item : Reader Value) : Reader Value := fun s =>
  match skipGaps s with
  | [] => none
  | c :: rest =>
    if c = '\x7d' then some (.table [], rest)
    else (inlinePairs item s.length s).bind fun read =>
      (inlineTable read.1).map fun v => (v, read.2)

/-- A value of no further nesting. -/
def flatValue : Reader Value := fun s =>
  if s.head? = some '"' ∨ s.head? = some '\'' then (stringToken s).map fun read => (.string read.1, read.2)
  else scalar s

/-- A value that nests at most `allowance` times. -/
def nestedValue : Nat → Reader Value
  | 0, s => if s.head? = some '[' ∨ s.head? = some '\x7b' then none else flatValue s
  | allowance + 1, s =>
    match s with
    | c :: rest =>
      if c = '[' then arrayRest (nestedValue allowance) rest
      else if c = '\x7b' then inlineRest (nestedValue allowance) rest
      else flatValue (c :: rest)
    | [] => none

/-- A value. -/
def value : Reader Value := nestedValue (depthLimit - 1)

/-! ## Statements -/

/-- One statement of a document. -/
inductive Statement where
  | pair (key : List String) (value : Value)
  | header (key : List String)
  | elementHeader (key : List String)

/-- A statement without the end of its line. -/
def statement : Reader Statement := fun s =>
  match s with
  | '[' :: '[' :: rest =>
    match dottedKey rest with
    | some (key, ']' :: ']' :: after) => some (.elementHeader key, after)
    | _ => none
  | '[' :: rest =>
    match dottedKey rest with
    | some (key, ']' :: after) => some (.header key, after)
    | _ => none
  | _ =>
    match dottedKey s with
    | some (key, '=' :: after) => (value (skipGaps after)).map fun read => (.pair key read.1, read.2)
    | _ => none

/-- The statements from the beginning of a line on. -/
def statementsFrom : Nat → List Char → Option (List Statement)
  | 0, _ => none
  | fuel + 1, s =>
    match skipLines s with
    | [] => some []
    | first =>
      match statement first with
      | none => none
      | some (st, after) =>
        match lineEnd? after with
        | none => none
        | some next => (statementsFrom fuel next).map (st :: ·)

/-- The characters after a byte order mark. -/
def skipByteOrderMark : List Char → List Char
  | '\uFEFF' :: rest => rest
  | s => s

/-- The statements of a document. -/
def statements (text : String) : Option (List Statement) :=
  statementsFrom (text.toList.length + 1) (skipByteOrderMark text.toList)

end AgentRelay.Toml
