set_option autoImplicit false

/-!
# UTF-8, read strictly and read leniently

Text reaches the relay as bytes: the host's option string, the name of a file, the contents of a file.
This module splits a byte string into *pieces*, each of which is one encoded character or one run of
bytes that encodes none, and derives every reading of the bytes from that one split.

* `pieces` is the split.  A broken run is maximal among the beginnings of well-formed sequences, so a
  truncated character is one run, while a byte that can begin nothing is a run of its own.
* `decode?` accepts the bytes when no piece is broken.
* `decodeLossy` puts one U+FFFD where a piece is broken.
* `encode` is the other direction, and `pieces_nil` and `pieces_cons` are the equations of the split.
-/

namespace AgentRelay.Utf8

/-- A byte string in the order in which it is stored. -/
abbrev Bytes := List UInt8

/-- One encoded character, or the bytes of one broken sequence. -/
inductive Piece where
  | char (c : Char)
  | broken (bytes : Bytes)
  deriving DecidableEq, Repr

/-- The UTF-8 bytes of a text. -/
def encode (text : String) : Bytes := text.toList.flatMap String.utf8EncodeChar

/-! ## The well-formed sequences -/

/-- A byte that continues a sequence. -/
def isTail (b : UInt8) : Bool := 0x80 ≤ b && b ≤ 0xBF

/-- The second bytes that may follow the lead byte of a three-byte sequence: they exclude the overlong
forms and the surrogates. -/
def isSecondOfThree (lead b : UInt8) : Bool :=
  if lead == 0xE0 then 0xA0 ≤ b && b ≤ 0xBF
  else if lead == 0xED then 0x80 ≤ b && b ≤ 0x9F
  else isTail b

/-- The second bytes that may follow the lead byte of a four-byte sequence: they exclude the overlong
forms and what lies above U+10FFFF. -/
def isSecondOfFour (lead b : UInt8) : Bool :=
  if lead == 0xF0 then 0x90 ≤ b && b ≤ 0xBF
  else if lead == 0xF4 then 0x80 ≤ b && b ≤ 0x8F
  else isTail b

/-- The low six bits that a continuing byte carries. -/
def payload (b : UInt8) : Nat := b.toNat % 64

/-- The character of a two-byte sequence. -/
def pair (a b : UInt8) : Char := Char.ofNat (a.toNat % 32 * 64 + payload b)

/-- The character of a three-byte sequence. -/
def triple (a b c : UInt8) : Char := Char.ofNat (a.toNat % 16 * 4096 + payload b * 64 + payload c)

/-- The character of a four-byte sequence. -/
def quadruple (a b c d : UInt8) : Char :=
  Char.ofNat (a.toNat % 8 * 262144 + payload b * 4096 + payload c * 64 + payload d)

/-! ## The split -/

/-- The piece that begins with `lead`, and the bytes after it. -/
def next (lead : UInt8) (rest : Bytes) : Piece × Bytes :=
  if lead < 0x80 then (.char (Char.ofNat lead.toNat), rest)
  else if 0xC2 ≤ lead && lead ≤ 0xDF then
    match rest with
    | b :: r => if isTail b then (.char (pair lead b), r) else (.broken [lead], rest)
    | [] => (.broken [lead], rest)
  else if 0xE0 ≤ lead && lead ≤ 0xEF then
    match rest with
    | b :: r =>
      if isSecondOfThree lead b then
        match r with
        | c :: s => if isTail c then (.char (triple lead b c), s) else (.broken [lead, b], r)
        | [] => (.broken [lead, b], r)
      else (.broken [lead], rest)
    | [] => (.broken [lead], rest)
  else if 0xF0 ≤ lead && lead ≤ 0xF4 then
    match rest with
    | b :: r =>
      if isSecondOfFour lead b then
        match r with
        | c :: s =>
          if isTail c then
            match s with
            | d :: t => if isTail d then (.char (quadruple lead b c d), t) else (.broken [lead, b, c], s)
            | [] => (.broken [lead, b, c], s)
          else (.broken [lead, b], r)
        | [] => (.broken [lead, b], r)
      else (.broken [lead], rest)
    | [] => (.broken [lead], rest)
  else (.broken [lead], rest)

theorem next_length_le (lead : UInt8) (rest : Bytes) : (next lead rest).2.length ≤ rest.length := by
  unfold next
  repeat' split
  all_goals simp only [List.length_cons]; try omega

/-- The bytes as encoded characters and broken runs, in order. -/
def pieces : Bytes → List Piece
  | [] => []
  | lead :: rest => (next lead rest).1 :: pieces (next lead rest).2
termination_by bytes => bytes.length
decreasing_by
  have := next_length_le lead rest
  simp only [List.length_cons]
  omega

theorem pieces_nil : pieces [] = [] := by rw [pieces]

theorem pieces_cons (lead : UInt8) (rest : Bytes) :
    pieces (lead :: rest) = (next lead rest).1 :: pieces (next lead rest).2 := by rw [pieces]

/-! ## The readings -/

/-- The character that stands for a broken run in lenient reading. -/
def replacement : Char := '\uFFFD'

/-- The character of a piece, if it encodes one. -/
def Piece.char? : Piece → Option Char
  | .char c => some c
  | .broken _ => none

/-- The character shown for a piece. -/
def Piece.shown : Piece → Char
  | .char c => c
  | .broken _ => replacement

/-- The text of bytes that are UTF-8 throughout. -/
def decode? (bytes : Bytes) : Option String := ((pieces bytes).mapM Piece.char?).map String.ofList

/-- The text of any bytes, with one replacement character for each broken run. -/
def decodeLossy (bytes : Bytes) : String := String.ofList ((pieces bytes).map Piece.shown)

end AgentRelay.Utf8
