import AgentRelay.Number.Binary64

set_option autoImplicit false

/-!
# The shortest decimal text of a floating point value

The digits of a value are the fewest that lead back to it: no decimal with fewer digits rounds to the
value, and among those with as many the one nearest to the value is taken, the greater one if two are
equally near.

The search works on the interval of reals that round to the value.  For one digit, two digits, and so on,
it tests the two neighbours of the value among the decimals with that many digits; if any such decimal lies
in the interval then one of the two neighbours does.  Seventeen digits always suffice.

The text is positional at every size: a value is never written with a power of ten, and a whole number has
no point.
-/

namespace AgentRelay

namespace Binary64

/-! ## The interval that rounds to a value -/

/-- A rational number that is not negative. -/
structure Ratio where
  num : Nat
  den : Nat
  pos : 0 < den
  deriving DecidableEq, Repr

/-- `m * 2 ^ e` as a ratio. -/
def Ratio.scaled (m : Nat) (e : Int) : Ratio :=
  if 0 ≤ e then ⟨m * Nat.pow 2 e.toNat, 1, Nat.one_pos⟩
  else ⟨m, Nat.pow 2 (-e).toNat, Nat.pow_pos Nat.two_pos⟩

/-- `n * 10 ^ k` as a ratio. -/
def Ratio.decimal (n : Nat) (k : Int) : Ratio :=
  if 0 ≤ k then ⟨n * Nat.pow 10 k.toNat, 1, Nat.one_pos⟩
  else ⟨n, Nat.pow 10 (-k).toNat, Nat.pow_pos (Nat.succ_pos 9)⟩

def Ratio.lt (a b : Ratio) : Bool := a.num * b.den < b.num * a.den

def Ratio.le (a b : Ratio) : Bool := a.num * b.den ≤ b.num * a.den

/-- The lower end of the reals that round to `m * 2 ^ e`: half a step down, and the step below a full
mantissa is half as wide. -/
def lowerEnd (m : Nat) (e : Int) : Ratio :=
  if m = Nat.pow 2 (width - 1) ∧ leastExponent < e then .scaled (4 * m - 1) (e - 2)
  else .scaled (2 * m - 1) (e - 1)

/-- The upper end of the reals that round to `m * 2 ^ e`. -/
def upperEnd (m : Nat) (e : Int) : Ratio := .scaled (2 * m + 1) (e - 1)

/-- Whether a real rounds to `m * 2 ^ e`.  The ends do so exactly if the mantissa is even. -/
def roundsTo (m : Nat) (e : Int) (x : Ratio) : Bool :=
  if m % 2 = 0 then (lowerEnd m e).le x && x.le (upperEnd m e)
  else (lowerEnd m e).lt x && x.lt (upperEnd m e)

/-! ## The search -/

/-- The floor of `x / 10 ^ k`. -/
def floorAt (x : Ratio) (k : Int) : Nat :=
  if 0 ≤ k then x.num / (x.den * Nat.pow 10 k.toNat) else x.num * Nat.pow 10 (-k).toNat / x.den

/-- The place of a value: the least `k`, at or above `start`, with `x < 10 ^ k`. -/
def placeFrom (x : Ratio) : Nat → Int → Int
  | 0, k => k
  | steps + 1, k => if x.lt (.decimal 1 k) then k else placeFrom x steps (k + 1)

/-- Whether `low * 10 ^ k` is strictly nearer to `x` than `(low + 1) * 10 ^ k`. -/
def isNearerBelow (x : Ratio) (low : Nat) (k : Int) : Bool :=
  if 0 ≤ k then 2 * x.num < (2 * low + 1) * Nat.pow 10 k.toNat * x.den
  else 2 * x.num * Nat.pow 10 (-k).toNat < (2 * low + 1) * x.den

/-- The neighbour of `x` on the grid of multiples of `10 ^ k` that rounds to `m * 2 ^ e`. -/
def neighbour? (m : Nat) (e : Int) (x : Ratio) (k : Int) : Option Nat :=
  let low := floorAt x k
  let below := 0 < low && roundsTo m e (.decimal low k)
  let above := roundsTo m e (.decimal (low + 1) k)
  if below && (!above || isNearerBelow x low k) then some low
  else if above then some (low + 1)
  else none

/-- The same decimal without a last digit of zero.  Only the upper neighbour of a value just below a power
of ten has one: any other would have been found on the coarser grid. -/
def strip (n : Nat) (k : Int) : Nat × Int := if n % 10 = 0 then (n / 10, k + 1) else (n, k)

/-- The first grid, from `10 ^ k` downwards, on which a neighbour rounds to the value. -/
def search (m : Nat) (e : Int) (x : Ratio) : Nat → Int → Nat × Int
  | 0, k => (floorAt x k, k)
  | steps + 1, k =>
    match neighbour? m e x k with
    | some n => strip n k
    | none => search m e x steps (k - 1)

/-- The digits `n` and the place `k` such that `n * 10 ^ k` is the shortest decimal that rounds to
`m * 2 ^ e`, for a positive mantissa. -/
def shortest (m : Nat) (e : Int) : Nat × Int :=
  let x := Ratio.scaled m e
  let place := placeFrom x 640 (-324)
  search m e x 17 (place - 1)

/-! ## The text -/

/-- The decimal digits of `n * 10 ^ k`, written positionally. -/
def positional (n : Nat) (k : Int) : List Char :=
  let digits := Nat.toDigits 10 n
  if 0 ≤ k then digits ++ List.replicate k.toNat '0'
  else
    let places := (-k).toNat
    if places < digits.length then
      digits.take (digits.length - places) ++ ['.'] ++ digits.drop (digits.length - places)
    else ['0', '.'] ++ List.replicate (places - digits.length) '0' ++ digits

/-- The text of a value. -/
def text : Binary64 → String
  | .nan => "NaN"
  | .infinite negative => if negative then "-inf" else "inf"
  | .finite negative m e =>
    let sign := if negative then ['-'] else []
    let magnitude := if m = 0 then ['0'] else
      let (n, k) := shortest m e
      positional n k
    String.ofList (sign ++ magnitude)

end Binary64

end AgentRelay
