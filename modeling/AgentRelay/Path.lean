import AgentRelay.Text.Split
import AgentRelay.Text.Utf8
import AgentRelay.Text.Veiled

set_option autoImplicit false

/-!
# Paths

A path is a string of bytes.  Most paths are UTF-8, but a file system does not promise it, so a path keeps
its bytes and is turned into text only to be shown.

* `join` puts a path below a directory; an absolute path replaces the directory.
* `fileName?` and `extension?` read the last component.
* `expand?` resolves a leading tilde.
* `shown` is the path in running text, `quoted` the path inside quotation marks, where every character
  that could mislead the reader and every byte that is not UTF-8 is written as an escape.
-/

namespace AgentRelay

/-- The name of a place in a file system. -/
structure Path where
  bytes : Utf8.Bytes
  deriving DecidableEq, Repr

namespace Path

/-- The path with the UTF-8 bytes of a text. -/
def ofString (text : String) : Path := ⟨Utf8.encode text⟩

/-- The path as text, if its bytes are UTF-8. -/
def text? (p : Path) : Option String := Utf8.decode? p.bytes

/-! ## Structure -/

/-- The byte `/`, which separates components. -/
def separator : UInt8 := 0x2F

/-- The byte `.`. -/
def dot : UInt8 := 0x2E

/-- A path that starts at the root. -/
def isAbsolute (p : Path) : Bool := p.bytes.head? == some separator

/-- The path of `rest` below `base`.  An absolute `rest` stands alone; otherwise one separator is put
between the two unless `base` is empty or already ends with one. -/
def join (base rest : Path) : Path :=
  if rest.isAbsolute then rest
  else if base.bytes.isEmpty || base.bytes.getLast? == some separator then ⟨base.bytes ++ rest.bytes⟩
  else ⟨base.bytes ++ separator :: rest.bytes⟩

/-- The names between the separators, the empty ones included. -/
def names (p : Path) : List Utf8.Bytes := Split.pieces [separator] p.bytes

/-- The name of the directory itself. -/
def here : Utf8.Bytes := [dot]

/-- The name of the directory above. -/
def above : Utf8.Bytes := [dot, dot]

/-- The components: the root if the path is absolute, then the names.  Empty names say nothing, and
neither does `.` after the first name. -/
def components (p : Path) : List Utf8.Bytes :=
  let lead := if p.isAbsolute then [[separator]] else if p.names.head? == some here then [here] else []
  lead ++ p.names.filter fun name => !name.isEmpty && name != here

/-- The last component, unless it is the root or leads upwards or nowhere. -/
def fileName? (p : Path) : Option Utf8.Bytes :=
  match (p.names.filter fun name => !name.isEmpty && name != here).getLast? with
  | some name => if name == above then none else some name
  | none => none

/-- What follows the last dot of a file name.  A dot that begins the name begins no extension. -/
def extension? (p : Path) : Option Utf8.Bytes :=
  p.fileName?.bind fun name =>
    if dot ∈ name.drop 1 then some (name.reverse.takeWhile (· != dot)).reverse else none

/-- An ASCII letter in its small form. -/
def smallLetter (b : UInt8) : UInt8 := if 0x41 ≤ b && b ≤ 0x5A then b + 0x20 else b

/-- Whether the extension is `ext`, which is given in small letters, up to the case of ASCII letters. -/
def hasExtension (p : Path) (ext : String) : Bool :=
  p.extension?.any fun found => found.map smallLetter == Utf8.encode ext

/-! ## The home directory -/

/-- The byte `~`. -/
def tilde : UInt8 := 0x7E

/-- The path with a leading tilde resolved: `~` is the home directory and `~/rest` is `rest` below it.
Every other path, and every path that is not UTF-8, is left as it is.  There is no answer when the home
directory is needed and not known. -/
def expand? (home : Option Path) (p : Path) : Option Path :=
  if p.text?.isNone then some p
  else
    match p.bytes with
    | [t] => if t == tilde then home else some p
    | t :: s :: rest =>
      if t == tilde && s == separator then home.map (·.join ⟨rest⟩) else some p
    | [] => some p

/-! ## Showing a path -/

/-- The path in running text. -/
def shown (p : Path) : String := Utf8.decodeLossy p.bytes

/-- The digits of a number to base 16, in small letters. -/
def hexDigits (n : Nat) : List Char := Nat.toDigits 16 n

/-- A character inside quotation marks. -/
def quotedChar (c : Char) : List Char :=
  if c = '"' then ['\\', '"']
  else if c = '\\' then ['\\', '\\']
  else if c = '\x00' then ['\\', '0']
  else if c = '\t' then ['\\', 't']
  else if c = '\r' then ['\\', 'r']
  else if c = '\n' then ['\\', 'n']
  else if isVeiled c then ['\\', 'u', '\x7b'] ++ hexDigits c.toNat ++ ['\x7d']
  else [c]

/-- A byte that belongs to no character, inside quotation marks: always two digits, in capital letters. -/
def quotedByte (b : UInt8) : List Char :=
  ['\\', 'x'] ++ ((if b < 0x10 then ['0'] else []) ++ hexDigits b.toNat).map Char.toUpper

/-- A piece of a path inside quotation marks. -/
def quotedPiece : Utf8.Piece → List Char
  | .char c => quotedChar c
  | .broken bytes => bytes.flatMap quotedByte

/-- The path between quotation marks. -/
def quoted (p : Path) : String :=
  String.ofList (['"'] ++ (Utf8.pieces p.bytes).flatMap quotedPiece ++ ['"'])

end Path

end AgentRelay
