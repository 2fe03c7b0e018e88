import AgentRelay.Path

set_option autoImplicit false

/-!
# Tokens in the path of a library

The path of a library may hold tokens, which the linker replaces before it opens a file: `$ORIGIN` is the
directory of the running program, `$PLATFORM` the name of the processor, and `$LIB` the directory of the
libraries below the root.  A token may stand in braces, as in `${LIB}`.  Without braces it ends where no
letter, digit or underscore follows, so that `$LIB2` is no token and stays as it is.
-/

namespace AgentRelay

/-- A name in the path of a library that stands for something else. -/
inductive Token where
  | origin
  | platform
  | lib
  deriving DecidableEq, Repr

namespace Token

/-- The name of a token, without the dollar sign. -/
def name : Token → Utf8.Bytes
  | .origin => Utf8.encode "ORIGIN"
  | .platform => Utf8.encode "PLATFORM"
  | .lib => Utf8.encode "LIB"

/-- Every token. -/
def all : List Token := [.origin, .platform, .lib]

/-- What a token stands for in a program of a directory. -/
def meaning (directory : Path) : Token → Utf8.Bytes
  | .origin => directory.bytes
  | .platform => Utf8.encode "x86_64"
  | .lib => Utf8.encode "lib/x86_64-linux-gnu"

/-- The byte `$`, with which every token begins. -/
def dollar : UInt8 := 0x24

/-- The byte with which a token in braces begins after the dollar sign. -/
def openingBrace : UInt8 := 0x7B

/-- The byte with which a token in braces ends. -/
def closingBrace : UInt8 := 0x7D

/-- A byte that makes a name longer: a letter, a digit or an underscore. -/
def continuesName (b : UInt8) : Bool :=
  (0x41 ≤ b && b ≤ 0x5A) || (0x61 ≤ b && b ≤ 0x7A) || (0x30 ≤ b && b ≤ 0x39) || b == 0x5F

/-- How many of the bytes after a dollar sign belong to the token, if they begin with it. -/
def extent? (t : Token) : Utf8.Bytes → Option Nat
  | [] => none
  | b :: rest =>
    if b = openingBrace then
      if (t.name ++ [closingBrace]).isPrefixOf rest then some (t.name.length + 2) else none
    else if t.name.isPrefixOf (b :: rest) && !((b :: rest)[t.name.length]?.any continuesName) then
      some t.name.length
    else none

/-- The token that the bytes after a dollar sign begin with, and how many of them belong to it. -/
def find? (rest : Utf8.Bytes) : Option (Token × Nat) :=
  all.findSome? fun t => (t.extent? rest).map (Prod.mk t)

/-- Replaces the tokens after the first `skipped` bytes, which are left out. -/
def expandAfter (meaning : Token → Utf8.Bytes) : Nat → Utf8.Bytes → Utf8.Bytes
  | _, [] => []
  | skipped + 1, _ :: rest => expandAfter meaning skipped rest
  | 0, b :: rest =>
    if b = dollar then
      match find? rest with
      | some (t, extent) => meaning t ++ expandAfter meaning extent rest
      | none => b :: expandAfter meaning 0 rest
    else b :: expandAfter meaning 0 rest

/-- Replaces every token. -/
def expand (meaning : Token → Utf8.Bytes) (bytes : Utf8.Bytes) : Utf8.Bytes := expandAfter meaning 0 bytes

end Token

end AgentRelay
