import Launcher.Decimal.Binary64
/-!
# The shortest decimal text of a binary number

A number of double precision is written with the fewest digits from which the same number is
read again, and among those with the digits nearest to it.

## Main definitions

* `Launcher.Decimal.Binary64.shortest` — the digits, and how many of them stand before the point.
* `Launcher.Decimal.Binary64.positional` — the text, with a point in it.
-/

namespace Launcher.Decimal.Binary64

/-- The number as a quotient of whole numbers. -/
def quotient (x : Binary64) : Nat × Nat :=
  shift x.mantissa 1 (-x.exponent)

/-- The quotient `n / d` is read as the number `x`: it lies between the points half-way to the
neighbours of `x`, and may be such a point when the mantissa is even. The gap below a power of
two is half as wide as the one above. -/
def reads (x : Binary64) (n d : Nat) : Bool :=
  let narrow := x.mantissa == leastFull && leastExponent < x.exponent
  -- in quarters of the last binary place
  let (above, below) := (4 * x.mantissa + 2, 4 * x.mantissa - (if narrow then 1 else 2))
  let (a, b) := shift (4 * n) d x.exponent
  if x.mantissa % 2 = 0 then below * b ≤ a && a ≤ above * b
  else below * b < a && a < above * b

/-- The quotient `n / d` in units of `10 ^ k`. -/
def inUnits (n d : Nat) (k : Int) : Nat × Nat :=
  if 0 ≤ k then (n, d * powerOfTen k.toNat) else (n * powerOfTen (-k).toNat, d)

/-- A number of units of `10 ^ k`, as a quotient. -/
def ofUnits (units : Nat) (k : Int) : Nat × Nat :=
  if 0 ≤ k then (units * powerOfTen k.toNat, 1) else (units, powerOfTen (-k).toNat)

/-- How many digits stand before the point of the quotient `n / d`: the least `k` for which it is
below `10 ^ k`. The search goes up from a lower bound. -/
def places (n d : Nat) : (steps : Nat) → (k : Int) → Int
  | 0, k => k
  | steps + 1, k =>
    let (a, b) := inUnits n d k
    if a < b then k else places n d steps (k + 1)

/-- The multiple of `10 ^ k` that is read as `x`, if one of the two around `x` is: the nearer
one, or the upper one when both are as near. -/
def onGrid? (x : Binary64) (k : Int) : Option Nat :=
  let (n, d) := x.quotient
  let (a, b) := inUnits n d k
  let down := a / b
  let hit (units : Nat) : Bool :=
    let (n, d) := ofUnits units k
    x.reads n d
  match hit down, hit (down + 1) with
  | true, true => some (if 2 * (a % b) < b then down else down + 1)
  | true, false => some down
  | false, true => some (down + 1)
  | false, false => none

/-- The first grid with a hit, from `10 ^ k` down: its multiple and its exponent. Seventeen
digits always suffice. -/
def finestGrid (x : Binary64) : (steps : Nat) → (k : Int) → Nat × Int
  | 0, k => (x.mantissa, k)
  | steps + 1, k =>
    match x.onGrid? k with
    | some units => (units, k)
    | none => x.finestGrid steps (k - 1)

/-- The fewest digits from which the number is read again, and the power of ten of the last. -/
def shortest (x : Binary64) : Nat × Int :=
  if x.mantissa = 0 then (0, 0)
  else
    let (n, d) := x.quotient
    let k := places n d 800 (-330)
    x.finestGrid 18 (k - 1)

/-- The text of a whole number of units of `10 ^ k`, without a power of ten, and with a point. -/
def positionalText (units : Nat) (k : Int) : String :=
  let digits := Nat.toDigits 10 units
  if 0 ≤ k then String.ofList (digits ++ List.replicate k.toNat '0') ++ ".0"
  else
    let behind := (-k).toNat
    let padded := List.replicate (behind + 1 - digits.length) '0' ++ digits
    let cut := padded.length - behind
    let fraction := (padded.drop cut).reverse.dropWhile (· == '0')
    String.ofList (padded.take cut) ++ "." ++
      (if fraction.isEmpty then "0" else String.ofList fraction.reverse)

/-- The text of a number without its sign. -/
def positional (x : Binary64) : String :=
  let (units, k) := x.shortest
  positionalText units k

end Launcher.Decimal.Binary64
