set_option autoImplicit false

/-!
# Binary floating point, 64 bits wide

A value is kept as what it denotes: not a number, an infinity, or a sign with a mantissa and a power of
two.  Nothing here is done in machine arithmetic, so a value can be computed and reasoned about with
natural numbers alone.

* `ofDecimal` rounds a decimal number to the nearest value, a half going to the even mantissa.
* `Binary64.shortest` (in `AgentRelay.Number.Shortest`) finds the fewest decimal digits that lead back.
-/

namespace AgentRelay

/-- A 64-bit floating point value.  A finite value denotes `mantissa * 2 ^ exponent`, with
`mantissa < 2 ^ 53`, and its mantissa is at least `2 ^ 52` unless the exponent is the least one. -/
inductive Binary64 where
  | nan
  | infinite (negative : Bool)
  | finite (negative : Bool) (mantissa : Nat) (exponent : Int)
  deriving DecidableEq, Repr

namespace Binary64

/-- The number of bits of a full mantissa. -/
def width : Nat := 53

/-- The least exponent, at which the mantissa need not be full. -/
def leastExponent : Int := -1074

/-- The greatest exponent. -/
def greatestExponent : Int := 971

/-! ## Rounding a quotient -/

/-- The quotient `num / den` rounded to the nearest natural number, a half to the even one. -/
def roundHalfEven (num den : Nat) : Nat :=
  let low := num / den
  let twice := 2 * (num % den)
  if twice < den then low
  else if den < twice then low + 1
  else if low % 2 = 0 then low else low + 1

/-- The exponent of the greatest power of two that is not above `num / den`, with `num` and `den` positive. -/
def topExponent (num den : Nat) : Int :=
  let guess : Int := (num.log2 : Int) - (den.log2 : Int)
  -- `num / den` lies between `2 ^ (guess - 1)` and `2 ^ (guess + 1)`
  if (if 0 ≤ guess then den * Nat.pow 2 guess.toNat ≤ num else den ≤ num * Nat.pow 2 (-guess).toNat) then guess
  else guess - 1

/-- The mantissa of `num / den` at an exponent. -/
def mantissaAt (num den : Nat) (exponent : Int) : Nat :=
  if 0 ≤ exponent then roundHalfEven num (den * Nat.pow 2 exponent.toNat)
  else roundHalfEven (num * Nat.pow 2 (-exponent).toNat) den

/-- The value with a mantissa and an exponent, whose mantissa is one bit too wide if it was rounded up to a power of
two. -/
def ofRounded (negative : Bool) (mantissa : Nat) (exponent : Int) : Binary64 :=
  let carried := mantissa = Nat.pow 2 width
  let mantissa := if carried then Nat.pow 2 (width - 1) else mantissa
  let exponent := if carried then exponent + 1 else exponent
  if greatestExponent < exponent then .infinite negative
  else if mantissa = 0 then .finite negative 0 0
  else .finite negative mantissa exponent

/-- The value of least distance to `num / den`, with `num` and `den` positive. -/
def ofRatio (negative : Bool) (num den : Nat) : Binary64 :=
  let exponent := max leastExponent (topExponent num den - (width - 1 : Nat))
  ofRounded negative (mantissaAt num den exponent) exponent

/-! ## Reading a decimal -/

/-- The number of decimal digits of a natural number. -/
def digitCount (n : Nat) : Nat := (Nat.toDigits 10 n).length

/-- The value of least distance to `digits * 10 ^ scale`.  A number far outside the range is decided by
its size alone, without computing the power of ten. -/
def ofDecimal (negative : Bool) (digits : Nat) (scale : Int) : Binary64 :=
  if digits = 0 then .finite negative 0 0
  else
    let size := (digitCount digits : Int) + scale
    if 310 < size then .infinite negative
    else if size < -330 then .finite negative 0 0
    else if 0 ≤ scale then ofRatio negative (digits * Nat.pow 10 scale.toNat) 1
    else ofRatio negative digits (Nat.pow 10 (-scale).toNat)

end Binary64

end AgentRelay
