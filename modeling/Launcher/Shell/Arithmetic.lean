/-!
# Computing with whole numbers

A script computes with numbers of 64 bits, in expressions of numbers, names and operators. Of two
operators, the one of the later level binds tighter; on one level, what comes first is done first.

## Main definitions

* `Launcher.Shell.Arithmetic.Token` — a number, a name or an operator.
* `Launcher.Shell.Arithmetic.tokens?` — those of a text.
* `Launcher.Shell.Arithmetic.evaluate?` — the value of an expression.
-/

namespace Launcher.Shell

/-- A letter, a digit or `_`. -/
def isNameChar (c : Char) : Bool :=
  c.isAlphanum || c == '_'

namespace Arithmetic

/-! ## Tokens -/

/-- A number, a name or an operator of an expression. -/
inductive Token where
  | number (value : Int64)
  | name (name : String)
  | operator (text : String)
  deriving Repr, DecidableEq

/-- The value of some digits in a base. -/
def digits? (base : Nat) (digits : List Char) : Option Int64 := do
  let values ← digits.mapM fun c =>
    let value :=
      if c.isDigit then c.toNat - '0'.toNat
      else if 'a' ≤ c.toLower && c.toLower ≤ 'f' then c.toLower.toNat - 'a'.toNat + 10
      else base
    if value < base then some value else none
  pure (Int64.ofNat (values.foldl (fun n d => base * n + d) 0))

/-- The value of a number as it is written: in base sixteen behind `0x`, in base eight behind `0`, and
in base ten otherwise. -/
def constant? (text : List Char) : Option Int64 :=
  match text with
  | '0' :: 'x' :: digits | '0' :: 'X' :: digits => digits? 16 digits
  | '0' :: digits => digits? 8 digits
  | digits => digits? 10 digits

/-- The operators with two sides, by levels. -/
def levels : List (List String) :=
  [["||"], ["&&"], ["|"], ["^"], ["&"], ["==", "!="], ["<", "<=", ">", ">="], ["<<", ">>"],
    ["+", "-"], ["*", "/", "%"]]

/-- All operators, each behind those that begin with it. -/
def operators : List String :=
  ["||", "&&", "==", "!=", "<=", ">=", "<<", ">>", "|", "^", "&", "<", ">", "+", "-", "*", "/", "%",
    "!", "~", "?", ":", "(", ")"]

/-- The tokens of a text. A dollar sign in front of a name changes nothing. -/
def tokensFrom : (steps : Nat) → List Char → Option (List Token)
  | 0, _ => none
  | _, [] => some []
  | steps + 1, c :: rest =>
    if " \t\n".toList.contains c then tokensFrom steps rest
    else
      let word := (c :: rest).takeWhile isNameChar
      let behind := (c :: rest).drop word.length
      if c.isDigit then do
        let value ← constant? word
        some (.number value :: (← tokensFrom steps behind))
      else if isNameChar c then do
        some (.name (String.ofList word) :: (← tokensFrom steps behind))
      else if c == '$' then
        match rest with
        | '{' :: inside =>
          let name := inside.takeWhile isNameChar
          match inside.drop name.length with
          | '\x7d' :: rest => do
            some (.name (String.ofList name) :: (← tokensFrom steps rest))
          | _ => none
        | rest =>
          let name := rest.takeWhile isNameChar
          let name := if name.isEmpty then rest.take 1 else name
          if name.isEmpty then none
          else do
            some (.name (String.ofList name) :: (← tokensFrom steps (rest.drop name.length)))
      else
        match operators.find? fun operator => operator.toList.isPrefixOf (c :: rest) with
        | some operator => do
          some (.operator operator :: (← tokensFrom steps (rest.drop (operator.length - 1))))
        | none => none

/-- The tokens of a text. -/
def tokens? (text : List Char) : Option (List Token) :=
  tokensFrom (text.length + 1) text

/-! ## Values -/

/-- The number for a condition. -/
def truth (holds : Bool) : Int64 :=
  if holds then 1 else 0

/-- The value of an operator with two sides. Nothing can be divided by zero. -/
def operate? (operator : String) (a b : Int64) : Option Int64 :=
  match operator with
  | "||" => some (truth (a != 0 || b != 0))
  | "&&" => some (truth (a != 0 && b != 0))
  | "|" => some (a ||| b)
  | "^" => some (a ^^^ b)
  | "&" => some (a &&& b)
  | "==" => some (truth (a == b))
  | "!=" => some (truth (a != b))
  | "<" => some (truth (a < b))
  | "<=" => some (truth (a ≤ b))
  | ">" => some (truth (b < a))
  | ">=" => some (truth (b ≤ a))
  | "<<" => some (a <<< b)
  | ">>" => some (a >>> b)
  | "+" => some (a + b)
  | "-" => some (a - b)
  | "*" => some (a * b)
  | "/" => if b == 0 then none else some (a / b)
  | "%" => if b == 0 then none else some (a % b)
  | _ => none

/-- The number that the value of a name stands for; an empty one stands for zero. -/
def valueOf? (text : String) : Option Int64 :=
  match text.trimAscii.toString.toList with
  | [] => some 0
  | '-' :: digits => (constant? digits).map fun n => -n
  | '+' :: digits => constant? digits
  | digits => constant? digits

mutual

/-- An expression of some levels, and the tokens behind it. -/
def binary (value : String → String) :
    (steps : Nat) → (levels : List (List String)) → List Token → Option (Int64 × List Token)
  | 0, _, _ => none
  | steps + 1, [], ts => unary value steps ts
  | steps + 1, level :: tighter, ts => do
    let (first, rest) ← binary value steps tighter ts
    chain value steps level tighter first rest

/-- The operators of a level behind the first side, and the tokens behind them. -/
def chain (value : String → String) :
    (steps : Nat) → (level : List String) → (tighter : List (List String)) → Int64 → List Token →
    Option (Int64 × List Token)
  | 0, _, _, _, _ => none
  | steps + 1, level, tighter, first, .operator operator :: rest =>
    if level.contains operator then do
      let (second, rest) ← binary value steps tighter rest
      chain value steps level tighter (← operate? operator first second) rest
    else some (first, .operator operator :: rest)
  | _, _, _, first, ts => some (first, ts)

/-- An expression without operators with two sides, and the tokens behind it. -/
def unary (value : String → String) : (steps : Nat) → List Token → Option (Int64 × List Token)
  | 0, _ => none
  | _, .number n :: rest => some (n, rest)
  | _, .name name :: rest => (valueOf? (value name)).map fun n => (n, rest)
  | steps + 1, .operator operator :: rest => do
    if operator == "(" then
      let (n, rest) ← conditional value steps rest
      match rest with
      | .operator ")" :: rest => some (n, rest)
      | _ => none
    else
      let (n, rest) ← unary value steps rest
      match operator with
      | "-" => some (-n, rest)
      | "+" => some (n, rest)
      | "!" => some (truth (n == 0), rest)
      | "~" => some (~~~n, rest)
      | _ => none
  | _, [] => none

/-- An expression, and the tokens behind it. -/
def conditional (value : String → String) :
    (steps : Nat) → List Token → Option (Int64 × List Token)
  | 0, _ => none
  | steps + 1, ts => do
    let (condition, rest) ← binary value steps levels ts
    match rest with
    | .operator "?" :: rest =>
      let (yes, rest) ← conditional value steps rest
      match rest with
      | .operator ":" :: rest =>
        let (no, rest) ← conditional value steps rest
        some (if condition == 0 then no else yes, rest)
      | _ => none
    | rest => some (condition, rest)

end

/-- The value of an expression, from the values of names. -/
def evaluate? (value : String → String) (ts : List Token) : Option Int64 :=
  if ts.isEmpty then some 0
  else
    match conditional value (16 * (ts.length + 1)) ts with
    | some (n, []) => some n
    | _ => none

end Arithmetic

end Launcher.Shell
