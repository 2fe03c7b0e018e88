import AgentRelay.Toml.Statement

set_option autoImplicit false

/-!
# TOML documents

The statements of a document build its table.  A header opens a table, the pairs after it fill that table,
and the next header closes it.  The finished document lists its keys in the increasing order of their
bytes, which is the order of their code points.

Below the table of the document, a table may stand for a point in time.  Its first key then has a name that
is set aside for this, and the value of that key is the point in time as text.
-/

namespace AgentRelay.Toml

/-! ## Building the table -/

/-- A document under construction: what is closed, and the table that is open, with its path and whether it
is an element of an array of tables. -/
structure Draft where
  closed : Entries
  path : List String
  isElement : Bool
  opened : Entries

namespace Draft

/-- The document before its first statement: its own table is open. -/
def start : Draft := ⟨[], [], false, []⟩

/-- The entries after the open table has been closed. -/
def close (d : Draft) : Option Entries :=
  match d.path.getLast? with
  | none => some d.opened
  | some key =>
    d.closed.modify false (fun _ around =>
      if d.isElement then around.addElement key d.opened
      else around.put key (.table false false d.opened)) d.path.dropLast

/-- Opens the table of a header. -/
def openTable (key : List String) (closed : Entries) : Option Draft :=
  match key.getLast? with
  | none => none
  | some last =>
    (closed.visit false (fun _ around => around.takeTable last) key.dropLast false).map
      fun (found, remaining) => ⟨remaining, key, false, found⟩

/-- Opens the element of a header. -/
def openElement (key : List String) (closed : Entries) : Option Draft :=
  match key.getLast? with
  | none => none
  | some last =>
    (closed.modify false (fun _ around => around.openElement last) key.dropLast).map
      fun made => ⟨made, key, true, []⟩

/-- The document after one more statement. -/
def add (d : Draft) : Statement → Option Draft
  | .pair key v => (setKey key v d.opened).map fun made => { d with opened := made }
  | .header key => d.close.bind (openTable key)
  | .elementHeader key => d.close.bind (openElement key)

end Draft

/-! ## Points in time as tables -/

/-- The first key of a table that stands for a point in time. -/
def momentKey : String := "$__toml_private_datetime"

/-- The point in time that a value of that key gives. -/
def momentOf : Value → Option Value
  | .string text => if isMoment text then some (.datetime text) else none
  | _ => none

mutual

/-- The value with its points in time instead of the tables that stand for them.  The further keys of such a
table are not looked at. -/
def Value.withMoments : Value → Option Value
  | .array items => (itemsWithMoments items).map .array
  | .table [] => some (.table [])
  | .table ((key, v) :: rest) =>
    if key = momentKey then momentOf v
    else
      match v.withMoments, entriesWithMoments rest with
      | some made, some others => some (.table ((key, made) :: others))
      | _, _ => none
  | v => some v

/-- The items of an array with their points in time. -/
def itemsWithMoments : List Value → Option (List Value)
  | [] => some []
  | v :: rest =>
    match v.withMoments, itemsWithMoments rest with
    | some made, some others => some (made :: others)
    | _, _ => none

/-- The entries of a table with their points in time. -/
def entriesWithMoments : List (String × Value) → Option (List (String × Value))
  | [] => some []
  | (key, v) :: rest =>
    match v.withMoments, entriesWithMoments rest with
    | some made, some others => some ((key, made) :: others)
    | _, _ => none

end

/-! ## Documents -/

/-- The table of a document, its keys in increasing order. -/
abbrev Document := List (String × Value)

/-- The table that a sequence of statements builds. -/
def Document.ofStatements (sts : List Statement) : Option Document :=
  (sts.foldlM Draft.add Draft.start).bind fun draft =>
    draft.close.bind fun entries =>
      (entriesWithMoments (Node.entryValues entries)).map fun made =>
        made.mergeSort fun a b => decide (a.1 ≤ b.1)

/-- The document that a text holds. -/
def Document.parse (text : String) : Option Document := (statements text).bind Document.ofStatements

end AgentRelay.Toml
