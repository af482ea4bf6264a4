import Launcher.Decimal.Shortest
import Launcher.Text.Quoted
import Launcher.Yaml.Token
/-!
# What a scalar means

A plain scalar without a tag means null, a truth value, a number, or its own text. A quoted
scalar means its text. A tag may ask for one kind.

## Main definitions

* `Launcher.Yaml.ScalarValue` — what a scalar means.
* `Launcher.Yaml.ScalarValue.ofPlain` — the meaning of a plain scalar.
* `Launcher.Yaml.ScalarValue.read` — the meaning of any scalar.
* `Launcher.Yaml.int?` — the whole number that a text writes.
-/

namespace Launcher.Yaml

/-- What a scalar means. -/
inductive ScalarValue where
  | null
  | bool (value : Bool)
  /-- A whole number from 0 to 2⁶⁴ − 1. -/
  | unsigned (value : Nat)
  /-- A negative number down to −2⁶³, or a zero with a minus sign. -/
  | signed (value : Int)
  /-- A whole number of up to 128 bits that is none of these, with the name of its width. -/
  | wide (value : Int) (width : String)
  /-- A number with a fraction or a power of ten, by its shortest text. -/
  | float (text : String)
  | text (value : String)
  deriving Repr, DecidableEq

/-! ## Words and numbers -/

/-- The words for null. -/
def isNullWord (text : String) : Bool :=
  ["~", "null", "Null", "NULL"].contains text

/-- The truth value of a word. -/
def bool? (text : String) : Option Bool :=
  if ["true", "True", "TRUE"].contains text then some true
  else if ["false", "False", "FALSE"].contains text then some false
  else none

/-- Digits behind a superfluous zero, with or without a sign: a text and no number. -/
def isPaddedDigits (text : List Char) : Bool :=
  match text with
  | '-' :: '0' :: rest | '+' :: '0' :: rest | '0' :: rest => !rest.isEmpty && rest.all Char.isDigit
  | _ => false

/-- The value of digits of some base; there is at least one. -/
def digits? (base : Nat) (text : List Char) : Option Nat :=
  if !text.isEmpty && text.all fun c => isHexDigit c && hexValue c < base then
    some (text.foldl (fun n c => base * n + hexValue c) 0)
  else none

/-- The value of digits of the base that two characters in front of them announce. -/
def basedDigits? : List Char → Option Nat
  | '0' :: 'x' :: rest => digits? 16 rest
  | '0' :: 'o' :: rest => digits? 8 rest
  | '0' :: 'b' :: rest => digits? 2 rest
  | _ => none

/-- A whole number without a minus sign that is below `bound`. A plus sign may stand in front. -/
def unsigned? (bound : Nat) (text : List Char) : Option Nat :=
  let bare := match text with
    | '+' :: rest => rest
    | _ => text
  let fits (n : Nat) : Option Nat := if n < bound then some n else none
  match (basedDigits? bare).bind fits with
  | some n => some n
  | none => if isPaddedDigits text then none else (digits? 10 bare).bind fits

/-- A whole number with a minus sign that is not below `-bound`. -/
def negative? (bound : Nat) (text : List Char) : Option Int :=
  match text with
  | '-' :: bare =>
    let fits (n : Nat) : Option Int := if n ≤ bound then some (-(n : Int)) else none
    match (basedDigits? bare).bind fits with
    | some n => some n
    | none => if isPaddedDigits text then none else (digits? 10 bare).bind fits
  | _ => none

/-- The least number that needs 64 bits. -/
def bound63 : Nat := 0x8000000000000000

/-- The whole number of 64 bits with a sign that a text writes. -/
def int? (text : String) : Option Int :=
  match unsigned? bound63 text.toList with
  | some n => some n
  | none => negative? bound63 text.toList

/-- The least number that needs 128 bits. -/
def bound127 : Nat := 0x80000000000000000000000000000000

/-- The whole number of up to 128 bits that a text writes, as the narrowest kind that holds it. -/
def integer? (text : List Char) : Option ScalarValue :=
  match unsigned? (2 * bound63) text, negative? bound63 text with
  | some n, _ => some (.unsigned n)
  | none, some n => some (.signed n)
  | none, none =>
    match unsigned? (2 * bound127) text, negative? bound127 text with
    | some n, _ => some (.wide n "u128")
    | none, some n => some (.wide n "i128")
    | none, none => none

/-- The number that a text writes: an infinity, no number at all, or a finite number. A text whose
number is too large writes none. -/
def float? (text : List Char) : Option String :=
  let bare := match text with
    | '+' :: rest => rest
    | _ => text
  if [".inf", ".Inf", ".INF"].contains (String.ofList bare) then some "inf"
  else if ["-.inf", "-.Inf", "-.INF"].contains (String.ofList text) then some "-inf"
  else if [".nan", ".NaN", ".NAN"].contains (String.ofList text) then some "NaN"
  else
    match text, bare with
    | '+' :: _, '+' :: _ | '+' :: _, '-' :: _ => none
    | _, _ => do
      let literal ← Decimal.Literal.read? bare
      let value ← Decimal.Binary64.ofLiteral? literal
      some ((if literal.negative then "-" else "") ++ value.positional)

namespace ScalarValue

/-- The meaning of a plain scalar. -/
def ofPlain (text : String) : ScalarValue :=
  if text.isEmpty || isNullWord text then null
  else
    match bool? text with
    | some value => bool value
    | none =>
      let chars := text.toList
      match integer? chars with
      | some value => value
      | none =>
        match if isPaddedDigits chars then none else float? chars with
        | some value => float value
        | none => .text text

/-- The complaint about a text that a tag makes something else of. -/
def mistagged (text expected : String) : String :=
  "invalid value: string " ++ Text.quoted text ++ ", expected " ++ expected

/-- The meaning of a scalar, or a complaint about a tag that does not fit. -/
def read (tag : Option Tag) (text : String) (style : ScalarStyle) :
    Except String ScalarValue :=
  let bare := if style = .plain then ofPlain text else .text text
  match tag with
  | none => .ok bare
  | some tag =>
    if tag = .bool then
      match bool? text with
      | some value => .ok (bool value)
      | none => .error (mistagged text "a boolean")
    else if tag = .int then
      match integer? text.toList with
      | some value => .ok value
      | none => .error (mistagged text "an integer")
    else if tag = .float then
      match float? text.toList with
      | some value => .ok (float value)
      | none => .error (mistagged text "a float")
    else if tag = .null then
      if isNullWord text then .ok null else .error (mistagged text "null")
    else if tag.isLocal then .ok bare
    else .ok (.text text)

/-- How a complaint names what was found. -/
def found : ScalarValue → String
  | null => "unit value"
  | bool value => "boolean " ++ ticked (if value then "true" else "false")
  | unsigned value => "integer " ++ ticked (toString value)
  | signed value => "integer " ++ ticked (toString value)
  | wide value width => "integer " ++ ticked (toString value) ++ " as " ++ width
  | float digits => "floating point " ++ ticked digits
  | .text value => "string " ++ Text.quoted value
where
  /-- A text between grave accents. -/
  ticked (text : String) : String := "\x60" ++ text ++ "\x60"

end ScalarValue

end Launcher.Yaml
