import AgentRelay.Number.Binary64
import AgentRelay.Number.Numeral
import AgentRelay.Toml.Lexeme
import AgentRelay.Toml.Value

set_option autoImplicit false

/-!
# The scalars of TOML: numbers, truth values and points in time

A plain scalar is recognised by how it begins.  Four digits and a hyphen begin a date, two digits and a
colon a time of day; every other sign or digit begins a number.

* An integer fits into 64 bits with a sign.  To base 16, 8 and 2 it has no sign of its own.
* A digit stands on both sides of every underscore, and underscores do not count.
* A float has a fraction, an exponent or both, and is rounded to the nearest 64-bit value.  A positive
  literal beyond the range is an error, a negative one is minus infinity.
* A date exists in the calendar; a second may be a leap second.
-/

namespace AgentRelay.Toml

/-! ## Digits -/

/-- The digits in front, the first of which has been seen, without the underscores between them. -/
def moreDigits (isDigit : Char → Bool) : Reader (List Char)
  | [] => some ([], [])
  | c :: rest =>
    if isDigit c then push c (moreDigits isDigit rest)
    else if c = '_' then if rest.head?.any isDigit then moreDigits isDigit rest else none
    else some ([], c :: rest)

/-- At least one digit, without the underscores between the digits. -/
def someDigits (isDigit : Char → Bool) : Reader (List Char) := fun s =>
  if s.head?.any isDigit then moreDigits isDigit s else none

/-- The number of digits to a base, the most significant one first. -/
def numberOf (base : Nat) (digits : List Char) : Nat := digits.foldl (fun n c => n * base + hexValue c) 0

/-! ## Integers and floats -/

/-- The bounds of an integer: at least `-2 ^ 63` and less than `2 ^ 63`. -/
def isWordSized (n : Int) : Bool := -9223372036854775808 ≤ n && n ≤ 9223372036854775807

/-- An integer within its bounds. -/
def boundedInteger (n : Int) (rest : List Char) : Option (Value × List Char) :=
  if isWordSized n then some (.integer n, rest) else none

/-- An integer to a base other than ten, after the base. -/
def basedInteger (base : Nat) (isDigit : Char → Bool) : Reader Value := fun s =>
  (someDigits isDigit s).bind fun read => boundedInteger (numberOf base read.1) read.2

/-- The sign in front: whether it is a minus, and the characters after it. -/
def signOf : List Char → Bool × List Char
  | '+' :: rest => (false, rest)
  | '-' :: rest => (true, rest)
  | s => (false, s)

/-- The digits of a decimal integer, which begins with a zero only if it is zero. -/
def decimalDigits : Reader (List Char)
  | '0' :: rest => some (['0'], rest)
  | s => someDigits Char.isDigit s

/-- The exponent of a float: nothing in front of any character but `e` and `E`. -/
def exponent : Reader Int
  | c :: rest =>
    if c = 'e' ∨ c = 'E' then
      let (negative, digits) := signOf rest
      (someDigits Char.isDigit digits).map fun read =>
        (if negative then -(numberOf 10 read.1 : Int) else numberOf 10 read.1, read.2)
    else some (0, c :: rest)
  | [] => some (0, [])

/-- A float with its sign, the digits before and after its point, and its exponent. -/
def floatOf (negative : Bool) (whole fraction : List Char) (scale : Int) : Option Value :=
  match Binary64.ofDecimal negative (numberOf 10 (whole ++ fraction)) (scale - fraction.length) with
  | .infinite false => none
  | x => some (.float x)

/-- What follows the digits of a decimal integer: a fraction, an exponent, both, or neither. -/
def afterWhole (negative : Bool) (whole : List Char) : Reader Value := fun s =>
  match s with
  | '.' :: rest =>
    (someDigits Char.isDigit rest).bind fun fraction =>
      (exponent fraction.2).bind fun scale =>
        (floatOf negative whole fraction.1 scale.1).map fun v => (v, scale.2)
  | c :: _ =>
    if c = 'e' ∨ c = 'E' then
      (exponent s).bind fun scale => (floatOf negative whole [] scale.1).map fun v => (v, scale.2)
    else boundedInteger (if negative then -(numberOf 10 whole : Int) else numberOf 10 whole) s
  | [] => boundedInteger (if negative then -(numberOf 10 whole : Int) else numberOf 10 whole) s

/-- The characters after a word in front. -/
def word? (word : String) (s : List Char) : Option (List Char) :=
  if word.toList.isPrefixOf s then some (s.drop word.toList.length) else none

/-- A number. -/
def number : Reader Value := fun s =>
  match s with
  | '0' :: 'x' :: rest => basedInteger 16 isHexDigit rest
  | '0' :: 'o' :: rest => basedInteger 8 (fun c => '0' ≤ c && c ≤ '7') rest
  | '0' :: 'b' :: rest => basedInteger 2 (fun c => c == '0' || c == '1') rest
  | _ =>
    let (negative, magnitude) := signOf s
    match word? "inf" magnitude, word? "nan" magnitude with
    | some rest, _ => some (.float (.infinite negative), rest)
    | _, some rest => some (.float .nan, rest)
    | none, none =>
      (decimalDigits magnitude).bind fun whole => afterWhole negative whole.1 whole.2

/-! ## Points in time -/

/-- A number of exactly `count` digits. -/
def fixedNumber (count : Nat) : Reader Nat := fun s =>
  let digits := s.take count
  if digits.length = count ∧ digits.all Char.isDigit then some (numberOf 10 digits, s.drop count) else none

/-- The characters after `c`. -/
def mark? (c : Char) : List Char → Option (List Char)
  | d :: rest => if d = c then some rest else none
  | [] => none

/-- A number of two digits between two bounds. -/
def boundedNumber (low high : Nat) : Reader Nat := fun s =>
  (fixedNumber 2 s).bind fun read => if low ≤ read.1 ∧ read.1 ≤ high then some read else none

/-- The number of days of a month. -/
def daysOf (year month : Nat) : Nat :=
  if month = 2 then
    if year % 4 = 0 ∧ (year % 100 ≠ 0 ∨ year % 400 = 0) then 29 else 28
  else if month = 4 ∨ month = 6 ∨ month = 9 ∨ month = 11 then 30
  else 31

/-- The characters after a date. -/
def date? (s : List Char) : Option (List Char) := do
  let (year, s) ← fixedNumber 4 s
  let s ← mark? '-' s
  let (month, s) ← boundedNumber 1 12 s
  let s ← mark? '-' s
  let (_, s) ← boundedNumber 1 (daysOf year month) s
  return s

/-- The characters after the fraction of a second in front, if there is one. -/
def skipFraction : List Char → List Char
  | '.' :: c :: rest => if c.isDigit then rest.dropWhile Char.isDigit else '.' :: c :: rest
  | s => s

/-- The characters after a time of day. -/
def time? (s : List Char) : Option (List Char) := do
  let (_, s) ← boundedNumber 0 23 s
  let s ← mark? ':' s
  let (_, s) ← boundedNumber 0 59 s
  let s ← mark? ':' s
  let (_, s) ← boundedNumber 0 60 s
  return skipFraction s

/-- The characters after the offset in front, if there is one. -/
def offset? (s : List Char) : Option (List Char) :=
  match s with
  | c :: rest =>
    if c = 'Z' ∨ c = 'z' then some rest
    else if c = '+' ∨ c = '-' then do
      let (_, s) ← boundedNumber 0 23 rest
      let s ← mark? ':' s
      let (_, s) ← boundedNumber 0 59 s
      return s
    else some s
  | [] => some []

/-- Whether a time of day can begin here: two digits and a colon. -/
def beginsTime (s : List Char) : Bool := ((fixedNumber 2 s).bind fun read => mark? ':' read.2).isSome

/-- Whether a date can begin here: four digits and a hyphen. -/
def beginsDate (s : List Char) : Bool := ((fixedNumber 4 s).bind fun read => mark? '-' read.2).isSome

/-- The characters after a date, with the time of day that may follow it. -/
def dateTime? (s : List Char) : Option (List Char) := do
  let after ← date? s
  match after with
  | c :: rest =>
    if (c = 'T' ∨ c = 't' ∨ c = ' ') ∧ beginsTime rest then (time? rest).bind offset?
    else return after
  | [] => return []

/-- A point in time, as it is written. -/
def moment (s : List Char) (after : Option (List Char)) : Option (Value × List Char) :=
  after.map fun rest => (.datetime (String.ofList (s.take (s.length - rest.length))), rest)

/-- Whether a whole text is a point in time. -/
def isMoment (text : String) : Bool :=
  (if beginsDate text.toList then dateTime? text.toList else time? text.toList) == some []

/-! ## Scalars -/

/-- A value that is not a string, an array or a table. -/
def scalar : Reader Value := fun s =>
  if beginsDate s then moment s (dateTime? s)
  else if beginsTime s then moment s (time? s)
  else
    match word? "true" s, word? "false" s with
    | some rest, _ => some (.boolean true, rest)
    | _, some rest => some (.boolean false, rest)
    | none, none => number s

end AgentRelay.Toml
