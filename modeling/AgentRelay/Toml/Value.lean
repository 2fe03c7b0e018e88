import AgentRelay.Number.Binary64

set_option autoImplicit false

/-!
# TOML values

The values of a TOML document, version 1.0, and the names of their kinds.  A point in time is kept as it is
written, because nothing here computes with it.
-/

namespace AgentRelay.Toml

/-- The kinds of values. -/
inductive Kind where
  | string
  | integer
  | float
  | boolean
  | datetime
  | array
  | table
  deriving DecidableEq, Repr

/-- The name of a kind. -/
def Kind.name : Kind → String
  | string => "string"
  | integer => "integer"
  | float => "float"
  | boolean => "boolean"
  | datetime => "datetime"
  | array => "array"
  | table => "table"

/-- A value of a document. -/
inductive Value where
  | string (text : String)
  | integer (n : Int)
  | float (x : Binary64)
  | boolean (b : Bool)
  | datetime (written : String)
  | array (items : List Value)
  | table (entries : List (String × Value))
  deriving Repr

/-- The kind of a value. -/
def Value.kind : Value → Kind
  | .string _ => .string
  | .integer _ => .integer
  | .float _ => .float
  | .boolean _ => .boolean
  | .datetime _ => .datetime
  | .array _ => .array
  | .table _ => .table

end AgentRelay.Toml
