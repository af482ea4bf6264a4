import Launcher.Decimal.Literal
/-!
# Binary numbers of double precision

## Main definitions

* `Launcher.Decimal.Binary64` — a finite number of double precision, without its sign.
* `Launcher.Decimal.Binary64.nearest?` — the number nearest to a quotient.
* `Launcher.Decimal.Binary64.ofLiteral?` — the number nearest to a decimal number.
-/

namespace Launcher.Decimal

/-- The number `mantissa · 2 ^ exponent`, with a mantissa below `2 ^ 53` and an exponent that is
at least `-1074`. The mantissa is at least `2 ^ 52` unless the exponent is the least one. -/
structure Binary64 where
  mantissa : Nat
  exponent : Int
  deriving Repr, DecidableEq

namespace Binary64

/-- The least mantissa of 53 bits, `2 ^ 52`. -/
def leastFull : Nat := 0x10000000000000

/-- A power of ten. -/
def powerOfTen (k : Nat) : Nat :=
  Nat.pow 10 k

/-- The least exponent. -/
def leastExponent : Int := -1074

/-- The greatest exponent. -/
def greatestExponent : Int := 971

/-- The quotient `n / d` times `2 ^ -q`, as a quotient again. -/
def shift (n d : Nat) (q : Int) : Nat × Nat :=
  if 0 ≤ q then (n, d <<< q.toNat) else (n <<< (-q).toNat, d)

/-- The whole number nearest to `n / d`; of two, the even one. -/
def roundEven (n d : Nat) : Nat :=
  let whole := n / d
  let rest := n % d
  if 2 * rest < d then whole
  else if d < 2 * rest then whole + 1
  else whole + whole % 2

/-- The number nearest to the quotient `n / d` of positive numbers, of two the one with an even
mantissa. There is none for a quotient too large. -/
def nearest? (n d : Nat) : Option Binary64 :=
  let guess : Int := (n.log2 : Int) - d.log2 - 52
  let (a, b) := shift n d guess
  let exponent := max leastExponent (if a < leastFull * b then guess - 1 else guess)
  let (a, b) := shift n d exponent
  let mantissa := roundEven a b
  let result : Binary64 :=
    if mantissa = 2 * leastFull then ⟨leastFull, exponent + 1⟩ else ⟨mantissa, exponent⟩
  if result.exponent ≤ greatestExponent then some result else none

/-- The number nearest to a decimal number without its sign, if it is not too large. A number
whose first digit stands above the 310th place is too large, and one whose first digit stands
below the 330th place behind the point is nearest to zero. -/
def ofLiteral? (l : Literal) : Option Binary64 :=
  let places : Int := (Nat.toDigits 10 l.digits).length + l.exponent
  if l.digits = 0 || places < -330 then some ⟨0, leastExponent⟩
  else if 310 < places then none
  else if 0 ≤ l.exponent then nearest? (l.digits * powerOfTen l.exponent.toNat) 1
  else nearest? l.digits (powerOfTen (-l.exponent).toNat)

end Binary64

end Launcher.Decimal
