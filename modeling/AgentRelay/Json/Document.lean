import AgentRelay.Json.Quoted

set_option autoImplicit false

/-!
# JSON documents, laid out in lines

Reports are written as JSON with one member or item on a line, indented by two spaces for each level.  An
empty array stays on its line.  The members of an object keep their order.
-/

namespace AgentRelay.Json

/-- A document.  Numbers are natural. -/
inductive Document where
  | null
  | bool (b : Bool)
  | number (n : Nat)
  | string (text : String)
  | array (items : List Document)
  | object (members : List (String × Document))
  deriving Repr

namespace Document

/-- The end of a line and the indentation of the next one. -/
def newLine (depth : Nat) : List Char := '\n' :: List.replicate (2 * depth) ' '

/-- The document of a value that may be absent. -/
def ofOption {α : Type} (f : α → Document) : Option α → Document
  | some a => f a
  | none => .null

mutual

/-- A document whose first line is already indented. -/
def layout (depth : Nat) : Document → List Char
  | .null => "null".toList
  | .bool b => (if b then "true" else "false").toList
  | .number n => Nat.toDigits 10 n
  | .string text => quoteChars text.toList
  | .array items =>
    if items.isEmpty then "[]".toList
    else ['['] ++ layoutItems (depth + 1) items ++ newLine depth ++ [']']
  | .object members =>
    if members.isEmpty then ['\x7b', '\x7d']
    else ['\x7b'] ++ layoutMembers (depth + 1) members ++ newLine depth ++ ['\x7d']

/-- The lines of items, separated by commas. -/
def layoutItems (depth : Nat) : List Document → List Char
  | [] => []
  | item :: rest =>
    newLine depth ++ item.layout depth ++ (if rest.isEmpty then [] else [',']) ++ layoutItems depth rest

/-- The lines of members, separated by commas. -/
def layoutMembers (depth : Nat) : List (String × Document) → List Char
  | [] => []
  | (key, item) :: rest =>
    newLine depth ++ quoteChars key.toList ++ [':', ' '] ++ item.layout depth ++
      (if rest.isEmpty then [] else [',']) ++ layoutMembers depth rest

end

/-- The text of a document. -/
def pretty (document : Document) : String := String.ofList (document.layout 0)

end Document

end AgentRelay.Json
