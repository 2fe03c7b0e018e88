import AgentRelay.Json.Quoted
import AgentRelay.Text.Blank
import AgentRelay.Text.Split
import AgentRelay.Text.Utf8

set_option autoImplicit false

/-!
# Selecting names by patterns

A list of patterns selects names.  A pattern that begins with `!` excludes, every other one includes; a
name is selected when some pattern includes it and none excludes it.

A pattern covers a name if its literal stands in the name at a given byte offset.  Bytes are compared, not
characters, and an offset beyond the end of the name is covered by nothing, not even by the empty literal.

A class has a name and the name of its superclass.  For classes the patterns that begin with `!subclassOf:`
exclude a second time, by the name of the superclass.
-/

namespace AgentRelay

/-! ## Patterns -/

/-- What a pattern does with the names that it covers. -/
inductive Pattern where
  | includes (literal : String)
  | excludes (literal : String)
  deriving DecidableEq, Repr

namespace Pattern

/-- The mark of a pattern that excludes. -/
def exclusionMark : Char := '!'

/-- The pattern that a text writes. -/
def parse (raw : String) : Pattern :=
  match raw.toList with
  | c :: rest => if c = exclusionMark then .excludes (String.ofList rest) else .includes raw
  | [] => .includes raw

/-- The text that is compared with names. -/
def literal : Pattern → String
  | includes text => text
  | excludes text => text

/-- Whether the pattern excludes. -/
def isExclusion : Pattern → Bool
  | includes _ => false
  | excludes _ => true

/-- The text that writes a pattern. -/
def raw : Pattern → String
  | includes text => text
  | excludes text => String.ofList (exclusionMark :: text.toList)

end Pattern

/-- Whether `literal` stands in `name` at a byte offset. -/
def covers (literal name : String) (offset : Nat) : Bool :=
  let bytes := Utf8.encode name
  offset ≤ bytes.length && (Utf8.encode literal).isPrefixOf (bytes.drop offset)

/-- Whether a pattern covers a name at a byte offset. -/
def Pattern.hits (p : Pattern) (name : String) (offset : Nat) : Bool := covers p.literal name offset

/-- Whether the patterns select a name at a byte offset. -/
def selects (patterns : List String) (name : String) (offset : Nat) : Bool :=
  let parsed := patterns.map Pattern.parse
  parsed.any (fun p => !p.isExclusion && p.hits name offset) &&
    !parsed.any fun p => p.isExclusion && p.hits name offset

/-! ## Classes -/

/-- A class and its direct superclass.  The name of a superclass that is not known is empty. -/
structure ClassSource where
  name : String
  superName : String
  deriving DecidableEq, Repr

namespace ClassSource

/-- A class with the name of its superclass, if that is known. -/
def ofNames (name : String) (superName : Option String) : ClassSource := ⟨name, superName.getD ""⟩

/-- What begins a pattern that excludes by the superclass. -/
def subclassMark : String := "!subclassOf:"

/-- The text after the mark, for a pattern that excludes by the superclass. -/
def superLiteral? (raw : String) : Option String :=
  if subclassMark.toList.isPrefixOf raw.toList then
    some (String.ofList (raw.toList.drop subclassMark.toList.length))
  else none

/-- Whether a pattern excludes the class by its superclass. -/
def isVetoedBy (c : ClassSource) (offset : Nat) (raw : String) : Bool :=
  (superLiteral? raw).any fun literal => covers literal c.superName offset

/-- Whether the patterns select the class. -/
def isSelectedBy (c : ClassSource) (patterns : List String) (offset : Nat) : Bool :=
  !patterns.any (c.isVetoedBy offset) && selects patterns c.name offset

end ClassSource

/-! ## Lists of patterns -/

/-- Patterns in the order in which they were given. -/
structure PatternList where
  raws : List String
  deriving DecidableEq, Repr

namespace PatternList

/-- A character that separates the patterns of an option value. -/
def isSeparator (c : Char) : Bool := c == ';' || c == ','

/-- The patterns of an option value: its fields, without the blanks around them and without those that are
blank. -/
def ofOption (text : String) : PatternList :=
  ⟨((Split.fields isSeparator text.toList).map trimBlanks |>.filter (· ≠ [])).map String.ofList⟩

/-- The list with one more pattern. -/
def push (l : PatternList) (raw : String) : PatternList := ⟨l.raws ++ [raw]⟩

/-- The patterns, read. -/
def patterns (l : PatternList) : List Pattern := l.raws.map Pattern.parse

/-- The number of patterns. -/
def size (l : PatternList) : Nat := l.raws.length

/-- The list as JSON: an array of its patterns as they were given. -/
def toJson (l : PatternList) : String := Json.quoteAll l.raws

/-- The list that a JSON document holds, if it is an array of strings. -/
def ofJson? (document : String) : Option PatternList := (Json.strings? document).map PatternList.mk

/-- Whether the patterns select a name at a byte offset. -/
def selectsAt (l : PatternList) (name : String) (offset : Nat) : Bool := selects l.raws name offset

end PatternList

end AgentRelay
