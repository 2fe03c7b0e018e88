import AgentRelay.Toml.Value

set_option autoImplicit false

/-!
# Tables under construction

A document may fill a table in several places, so a table that is being built remembers how it came about:

* it is *implicit* while it exists only because something below it was named;
* it is *dotted* if a dotted key made it.

A dotted key may enter implicit tables only, and may set a key only in a table that a dotted key made.  A
header may pass through every table, and through an array of tables into its last element.  A key is set
once; a value that is written out, an inline table among them, is never entered again.
-/

namespace AgentRelay.Toml

/-- What a key stands for in a table under construction. -/
inductive Node where
  | leaf (value : Value)
  | table (implicit dotted : Bool) (entries : List (String × Node))
  | tables (elements : List (List (String × Node)))

/-- The keys of a table under construction, in the order in which they were first named. -/
abbrev Entries := List (String × Node)

namespace Entries

/-- Gives a key that is present another meaning. -/
def replace (entries : Entries) (key : String) (node : Node) : Entries :=
  entries.map fun entry => if entry.1 = key then (key, node) else entry

/-- Changes the table at the end of a path, which is made where it is missing, and answers with what the
change finds there.  `byKey` says whether the path belongs to a dotted key rather than to a header;
`change` is told whether the table is dotted. -/
def visit {β : Type} (byKey : Bool) (change : Bool → Entries → Option (β × Entries)) :
    List String → Bool → Entries → Option (β × Entries)
  | [], dotted, entries => change dotted entries
  | key :: path, _, entries =>
    match entries.lookup key with
    | none => (visit byKey change path byKey []).map fun made =>
        (made.1, entries ++ [(key, .table true byKey made.2)])
    | some (.leaf _) => none
    | some (.table implicit dotted below) =>
      if byKey && !implicit then none
      else (visit byKey change path dotted below).map fun made =>
        (made.1, entries.replace key (.table implicit dotted made.2))
    | some (.tables elements) =>
      match elements.getLast? with
      | none => none
      | some last => (visit byKey change path false last).map fun made =>
          (made.1, entries.replace key (.tables (elements.dropLast ++ [made.2])))

/-- Changes the table at the end of a path. -/
def modify (byKey : Bool) (change : Bool → Entries → Option Entries) (path : List String)
    (entries : Entries) : Option Entries :=
  (entries.visit byKey (fun dotted here => (change dotted here).map fun made => ((), made)) path false).map
    Prod.snd

/-- Sets a key that is not set yet. -/
def put (entries : Entries) (key : String) (node : Node) : Option Entries :=
  if (entries.lookup key).isSome then none else some (entries ++ [(key, node)])

/-- Sets the dotted key `path.key`. -/
def setValue (path : List String) (key : String) (value : Value) (entries : Entries) : Option Entries :=
  entries.modify true
    (fun dotted here => if !path.isEmpty && !dotted then none else here.put key (.leaf value)) path

/-- Takes the table that a header names out of the table around it, to be filled: it is empty if it is not
there yet, and otherwise it must so far be implicit and made by no dotted key. -/
def takeTable (entries : Entries) (key : String) : Option (Entries × Entries) :=
  match entries.lookup key with
  | none => some ([], entries)
  | some (.table true false below) => some (below, entries.filter fun entry => entry.1 != key)
  | some _ => none

/-- Makes room for an element of an array of tables. -/
def openElement (entries : Entries) (key : String) : Option Entries :=
  match entries.lookup key with
  | none => some (entries ++ [(key, .tables [])])
  | some (.tables _) => some entries
  | some _ => none

/-- Adds an element to an array of tables. -/
def addElement (entries : Entries) (key : String) (element : Entries) : Option Entries :=
  match entries.lookup key with
  | none => some (entries ++ [(key, .tables [element])])
  | some (.tables elements) => some (entries.replace key (.tables (elements ++ [element])))
  | some _ => none

end Entries

/-! ## Finished tables -/

mutual

/-- The value of a finished node. -/
def Node.value : Node → Value
  | .leaf v => v
  | .table _ _ entries => .table (Node.entryValues entries)
  | .tables elements => .array (Node.elementValues elements)

/-- The values of a finished table. -/
def Node.entryValues : List (String × Node) → List (String × Value)
  | [] => []
  | (key, node) :: rest => (key, node.value) :: Node.entryValues rest

/-- The elements of a finished array of tables. -/
def Node.elementValues : List (List (String × Node)) → List Value
  | [] => []
  | entries :: rest => .table (Node.entryValues entries) :: Node.elementValues rest

end

end AgentRelay.Toml
