import Launcher.Decimal.Literal
import Launcher.Text.Utf8
/-!
# Small commands

What `echo`, `printf`, `test`, `kill` and `sleep` make of their words.

## Main definitions

* `Launcher.Shell.integer?`, `count?` — the number that a word stands for.
* `Launcher.Shell.echoed` — the bytes that `echo` writes.
* `Launcher.Shell.formatted` — the bytes that `printf` writes.
* `Launcher.Shell.test?` — whether a condition holds.
* `Launcher.Shell.signal?` — the number of a signal.
* `Launcher.Shell.duration?` — the microseconds of a duration.
-/

namespace Launcher.Shell

open Text.Utf8 (encode)

/-! ## Numbers -/

/-- The whole number that a word stands for. Blanks may stand around it and a sign before it. -/
def integer? (word : String) : Option Int :=
  let (negative, digits) := Decimal.takeSign word.trimAscii.toString.toList
  if digits.isEmpty || !digits.all Decimal.isDigit then none
  else some (if negative then -(Decimal.value digits : Int) else Decimal.value digits)

/-- The number from 0 to 2³¹ − 1 that a word stands for. -/
def count? (word : String) : Option Nat := do
  let n ← integer? word
  if 0 ≤ n && n < 0x80000000 then some n.toNat else none

/-! ## Escapes -/

/-- The value of an octal digit. -/
def octal? (c : Char) : Option Nat :=
  if '0' ≤ c && c ≤ '7' then some (c.toNat - '0'.toNat) else none

/-- The value of at most so many octal digits, and the text behind them. -/
def octalNumber : (digits : Nat) → (value : Nat) → List Char → Nat × List Char
  | digits + 1, value, c :: rest =>
    match octal? c with
    | some d => octalNumber digits (8 * value + d) rest
    | none => (value, c :: rest)
  | _, value, rest => (value, rest)

/-- The byte of an escape that is one letter. -/
def letterEscape? : Char → Option UInt8
  | 'a' => some 7
  | 'b' => some 8
  | 'f' => some 12
  | 'n' => some 10
  | 'r' => some 13
  | 't' => some 9
  | 'v' => some 11
  | '\\' => some 92
  | _ => none

/-- The bytes of some characters. -/
def bytesOf (cs : List Char) : List UInt8 :=
  encode (String.ofList cs)

/-- The bytes of a text with escapes, and whether output goes on behind it. A number behind a
backslash begins with a zero where `zero` is set. -/
def unescape (zero : Bool) : (steps : Nat) → List Char → List UInt8 × Bool
  | 0, _ => ([], true)
  | _, [] => ([], true)
  | steps + 1, '\\' :: c :: rest =>
    match letterEscape? c, octal? c with
    | some b, _ =>
      let (bytes, goesOn) := unescape zero steps rest
      (b :: bytes, goesOn)
    | none, some _ =>
      if c == 'c' then ([], false)
      else if zero && c != '0' then
        let (bytes, goesOn) := unescape zero steps rest
        (92 :: bytesOf [c] ++ bytes, goesOn)
      else
        let (value, rest) := octalNumber 3 0 (if zero then rest else c :: rest)
        let (bytes, goesOn) := unescape zero steps rest
        (UInt8.ofNat value :: bytes, goesOn)
    | none, none =>
      if c == 'c' then ([], false)
      else
        let (bytes, goesOn) := unescape zero steps rest
        (92 :: bytesOf [c] ++ bytes, goesOn)
  | steps + 1, c :: rest =>
    let (bytes, goesOn) := unescape zero steps rest
    (bytesOf [c] ++ bytes, goesOn)

/-! ## Writing -/

/-- The bytes that `echo` writes. The one of the shell replaces escapes, the program does not. -/
def echoed (escapes : Bool) (words : List String) : List UInt8 :=
  let (silent, words) := match words with
    | "-n" :: rest => (true, rest)
    | words => (false, words)
  let line := " ".intercalate words
  let (bytes, goesOn) :=
    if escapes then unescape true (line.length + 1) line.toList else (encode line, true)
  if silent || !goesOn then bytes else bytes ++ [10]

/-- The number that a word of `printf` stands for. -/
def numberOf (word : String) : Int :=
  (integer? word).getD 0

/-- One pass of a format over some words: the bytes, the words that are left, and whether output
goes on. -/
def formatOnce : (steps : Nat) → List Char → List String → List UInt8 × List String × Bool
  | 0, _, words => ([], words, true)
  | _, [], words => ([], words, true)
  | steps + 1, '%' :: '%' :: rest, words =>
    let (bytes, words, goesOn) := formatOnce steps rest words
    (37 :: bytes, words, goesOn)
  | steps + 1, '%' :: kind :: rest, words =>
    let word := words.headD ""
    let (front, halts) : List UInt8 × Bool :=
      match kind with
      | 's' => (encode word, false)
      | 'd' | 'i' | 'u' => (encode (toString (numberOf word)), false)
      | 'c' => (bytesOf (word.toList.take 1), false)
      | 'b' =>
        let (bytes, goesOn) := unescape true (word.length + 1) word.toList
        (bytes, !goesOn)
      | _ => (bytesOf ['%', kind], false)
    if halts then (front, [], false)
    else
      let (bytes, words, goesOn) := formatOnce steps rest (words.drop 1)
      (front ++ bytes, words, goesOn)
  | steps + 1, '\\' :: rest, words =>
    let (number, behind) := octalNumber 3 0 rest
    let escape : List UInt8 × List Char :=
      match rest with
      | [] => ([92], [])
      | c :: rest =>
        match letterEscape? c, octal? c with
        | some b, _ => ([b], rest)
        | none, some _ => ([UInt8.ofNat number], behind)
        | none, none => (92 :: bytesOf [c], rest)
    let (bytes, words, goesOn) := formatOnce steps escape.2 words
    (escape.1 ++ bytes, words, goesOn)
  | steps + 1, c :: rest, words =>
    let (bytes, words, goesOn) := formatOnce steps rest words
    (bytesOf [c] ++ bytes, words, goesOn)

/-- The bytes of a format over words. It is used again as long as words are left and it takes
some. -/
def formatAll (format : List Char) : (rounds : Nat) → List String → List UInt8
  | 0, _ => []
  | rounds + 1, words =>
    let (bytes, left, goesOn) := formatOnce (format.length + 1) format words
    if goesOn && !left.isEmpty && left.length < words.length then
      bytes ++ formatAll format rounds left
    else bytes

/-- The bytes that `printf` writes; nothing, without a format. -/
def formatted : List String → Option (List UInt8)
  | [] => none
  | format :: words => some (formatAll format.toList (words.length + 1) words)

/-! ## Conditions -/

/-- What is asked about a path. -/
inductive Kind where
  | file (size : Nat)
  | directory
  | other
  deriving Repr, DecidableEq

/-- Whether a condition on one word holds. -/
def unaryTest? (kind : String → Option Kind) (operator word : String) : Option Bool :=
  match operator with
  | "-n" => some (!word.isEmpty)
  | "-z" => some word.isEmpty
  | "-e" | "-r" | "-w" => some (kind word).isSome
  | "-f" => some ((kind word) matches some (.file _))
  | "-d" => some (kind word == some .directory)
  | "-c" => some (kind word == some .other)
  | "-s" => some (match kind word with
    | some (.file size) => size != 0
    | some .directory => true
    | _ => false)
  | _ => none

/-- Whether a condition on two words holds. -/
def binaryTest? (left operator right : String) : Option Bool :=
  let compare (holds : Int → Int → Bool) : Option Bool := do
    pure (holds (← integer? left) (← integer? right))
  match operator with
  | "=" => some (left == right)
  | "!=" => some (left != right)
  | "-eq" => compare (· == ·)
  | "-ne" => compare (· != ·)
  | "-lt" => compare (decide <| · < ·)
  | "-le" => compare (decide <| · ≤ ·)
  | "-gt" => compare (decide <| · > ·)
  | "-ge" => compare (decide <| · ≥ ·)
  | _ => none

/-- Whether a condition without connectives holds. -/
def plainTest? (kind : String → Option Kind) : List String → Option Bool
  | [] => some false
  | [word] => some (!word.isEmpty)
  | ["!", word] => some word.isEmpty
  | [operator, word] => unaryTest? kind operator word
  | ["!", operator, word] => (unaryTest? kind operator word).map not
  | [left, operator, right] => binaryTest? left operator right
  | ["!", left, operator, right] => (binaryTest? left operator right).map not
  | _ => none

/-- The parts of a list between the places where a word stands. -/
def splitAtWord (separator : String) (words : List String) : List (List String) :=
  words.foldr
    (fun word parts =>
      if word == separator then [] :: parts
      else match parts with
        | part :: rest => (word :: part) :: rest
        | [] => [[word]])
    [[]]

/-- Whether a condition holds; nothing, for one that is none. -/
def test? (kind : String → Option Kind) (words : List String) : Option Bool :=
  if words.length ≤ 3 then plainTest? kind words
  else do
    let sides ← (splitAtWord "-o" words).mapM fun side => do
      let parts ← (splitAtWord "-a" side).mapM (plainTest? kind)
      pure (parts.all id)
    pure (sides.any id)

/-! ## Signals and durations -/

/-- The names of signals, by their numbers. -/
def signalNames : List (Nat × String) :=
  [(1, "HUP"), (2, "INT"), (3, "QUIT"), (4, "ILL"), (5, "TRAP"), (6, "ABRT"), (7, "BUS"), (8, "FPE"),
    (9, "KILL"), (10, "USR1"), (11, "SEGV"), (12, "USR2"), (13, "PIPE"), (14, "ALRM"), (15, "TERM"),
    (16, "STKFLT"), (17, "CHLD"), (18, "CONT"), (19, "STOP"), (20, "TSTP"), (21, "TTIN"),
    (22, "TTOU"), (23, "URG"), (24, "XCPU"), (25, "XFSZ"), (26, "VTALRM"), (27, "PROF"),
    (28, "WINCH"), (29, "IO"), (30, "PWR"), (31, "SYS")]

/-- The number of a signal. -/
def signal? (text : String) : Option Nat :=
  match count? text with
  | some n => if n ≤ 64 then some n else none
  | none =>
    let upper := text.toUpper
    let name := if upper.startsWith "SIG" then (upper.drop 3).toString else upper
    if name == "EXIT" then some 0
    else (signalNames.find? fun entry => entry.2 == name).map Prod.fst

/-- The signal and the processes that `kill` names, groups by negative numbers. -/
def killTargets? (words : List String) : Option (Nat × List Int) := do
  let (signal, targets) ← match words with
    | "-s" :: name :: rest => do pure (← signal? name, rest)
    | "--" :: rest => pure (15, rest)
    | word :: rest =>
      if word.startsWith "-" then do pure (← signal? (word.drop 1).toString, rest)
      else pure (15, words)
    | [] => none
  let targets := if targets.head? == some "--" then targets.drop 1 else targets
  if targets.isEmpty then none
  else pure (signal, ← targets.mapM integer?)

/-- The microseconds of a duration, given in seconds or with a unit. -/
def duration? (word : String) : Option Nat := do
  let cs := word.toList
  let unit := match cs.getLast? with
    | some 's' => 1
    | some 'm' => 60
    | some 'h' => 3600
    | some 'd' => 86400
    | _ => 1
  let number := if (cs.getLast?.map Char.isAlpha).getD false then cs.dropLast else cs
  let whole := number.takeWhile Char.isDigit
  let rest := number.drop whole.length
  let fraction ← match rest with
    | [] => some []
    | '.' :: digits => if digits.all Char.isDigit then some digits else none
    | _ => none
  if whole.isEmpty && fraction.isEmpty then none
  else
    let value (digits : List Char) := digits.foldl (fun n d => 10 * n + (d.toNat - 48)) 0
    some (unit * (1000000 * value whole +
      value ((fraction ++ List.replicate 6 '0').take 6)))

end Launcher.Shell
