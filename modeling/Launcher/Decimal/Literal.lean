/-!
# Decimal numbers as they are written

## Main definitions

* `Launcher.Decimal.Literal` — a decimal number: a sign, its digits and a power of ten.
* `Launcher.Decimal.Literal.read?` — the number that a text writes.
-/

namespace Launcher.Decimal

/-- The decimal number `± digits · 10 ^ exponent`. -/
structure Literal where
  /-- There is a minus sign, also before a zero. -/
  negative : Bool
  /-- The digits, read as a whole number. -/
  digits : Nat
  /-- The power of ten that they are multiplied by. -/
  exponent : Int
  deriving Repr, DecidableEq

/-- A decimal digit. -/
def isDigit (c : Char) : Bool :=
  '0' ≤ c && c ≤ '9'

/-- The value of a run of decimal digits. -/
def value (digits : List Char) : Nat :=
  digits.foldl (fun n c => n * 10 + (c.toNat - '0'.toNat)) 0

/-- A sign in front of a text, and the text behind it. -/
def takeSign : List Char → Bool × List Char
  | '-' :: rest => (true, rest)
  | '+' :: rest => (false, rest)
  | text => (false, text)

/-- The power of ten that a text ends with: nothing, or the letter `e`, a sign if there is one,
and digits. -/
def readExponent? : List Char → Option Int
  | [] => some 0
  | c :: rest =>
    let (negative, digits) := takeSign rest
    if (c == 'e' || c == 'E') && !digits.isEmpty && digits.all isDigit then
      some (if negative then -(value digits : Int) else value digits)
    else none

/-- The number that a text writes: a sign, digits with a point somewhere, and a power of ten;
sign, point and power may be missing, and there is at least one digit. -/
def Literal.read? (text : List Char) : Option Literal :=
  let (negative, unsigned) := takeSign text
  let whole := unsigned.takeWhile isDigit
  let behind := unsigned.dropWhile isDigit
  let (fraction, rest) :=
    match behind with
    | '.' :: more => (more.takeWhile isDigit, more.dropWhile isDigit)
    | _ => ([], behind)
  if whole.isEmpty && fraction.isEmpty then none
  else (readExponent? rest).map fun power =>
    ⟨negative, value (whole ++ fraction), power - fraction.length⟩

end Launcher.Decimal
