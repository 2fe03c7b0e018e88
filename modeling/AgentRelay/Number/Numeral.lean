set_option autoImplicit false

/-!
# Decimal numerals

An offset on the command line and a level given by its number are decimal numerals of a 64-bit word: ASCII
digits, at least one, with an optional plus sign in front.  Leading zeros are allowed, blanks and other
digits are not, and a numeral of `2 ^ 64` or more is no numeral of a word.

The numerals of real numbers are only recognised.  Either sign may stand in front of them, a point before,
between or behind their digits, and an exponent at their end; infinity and what is no number have names.
-/

namespace AgentRelay.Numeral

/-- The number that decimal digits denote, the most significant one first. -/
def value (digits : List Char) : Nat :=
  digits.foldl (fun n c => n * 10 + (c.toNat - '0'.toNat)) 0

/-- The number of words of 64 bits. -/
def wordLimit : Nat := 18446744073709551616

/-- The digits of a numeral, without its sign. -/
def unsigned : List Char → List Char
  | '+' :: digits => digits
  | digits => digits

/-- The number that a numeral of a 64-bit word denotes. -/
def word? (text : String) : Option Nat :=
  let digits := unsigned text.toList
  if digits ≠ [] ∧ digits.all Char.isDigit ∧ value digits < wordLimit then some (value digits) else none

/-! ## Real numbers -/

/-- A numeral without its sign, which may be a minus. -/
def magnitude : List Char → List Char
  | '-' :: digits => digits
  | digits => unsigned digits

/-- Whether a text is an exponent: the letter, a sign perhaps, and digits. -/
def isExponent : List Char → Bool
  | [] => true
  | c :: rest => (c == 'e' || c == 'E') && magnitude rest != [] && (magnitude rest).all Char.isDigit

/-- Whether a text is a numeral of a real number, in decimal notation or by name. -/
def isReal (text : String) : Bool :=
  let body := magnitude text.toList
  let digits := body.takeWhile Char.isDigit
  let rest := body.dropWhile Char.isDigit
  let fraction := if rest.head? == some '.' then (rest.drop 1).takeWhile Char.isDigit else []
  let tail := if rest.head? == some '.' then (rest.drop 1).dropWhile Char.isDigit else rest
  ["inf", "infinity", "nan"].contains (String.ofList (body.map Char.toLower)) ||
    !(digits.isEmpty && fraction.isEmpty) && isExponent tail

end AgentRelay.Numeral
