/-!
# Bytes and text

Files hold bytes, and most of them hold text in UTF-8. A byte string is cut into pieces: each
is a character, or a run of bytes that starts none. Such a run is as long as a character can be
begun, so that one broken character is one piece.

## Main definitions

* `Launcher.Text.Utf8.pieces` — the characters and the broken pieces of a byte string.
* `Launcher.Text.Utf8.decode?` — the text of a byte string without broken pieces.
* `Launcher.Text.Utf8.decodeLossy` — the text, with a replacement character for each broken piece.
* `Launcher.Text.Utf8.encode` — the bytes of a text.
-/

namespace Launcher.Text.Utf8

/-- What a leading byte announces: its own bits, how many bytes follow it, and the range of the
first of them. Every later byte lies between `0x80` and `0xBF`. -/
structure Lead where
  /-- The bits of the leading byte that belong to the character. -/
  bits : Nat
  /-- How many bytes follow. -/
  tails : Nat
  /-- The least second byte. -/
  low : Nat := 0x80
  /-- The greatest second byte. -/
  high : Nat := 0xBF

/-- What a byte announces at the start of a character; nothing, for a byte that starts none. -/
def lead? (b : Nat) : Option Lead :=
  if b ≤ 0x7F then some { bits := b, tails := 0 }
  else if b < 0xC2 then none
  else if b ≤ 0xDF then some { bits := b - 0xC0, tails := 1 }
  else if b = 0xE0 then some { bits := 0, tails := 2, low := 0xA0 }
  else if b = 0xED then some { bits := 0xD, tails := 2, high := 0x9F }
  else if b ≤ 0xEF then some { bits := b - 0xE0, tails := 2 }
  else if b = 0xF0 then some { bits := 0, tails := 3, low := 0x90 }
  else if b ≤ 0xF3 then some { bits := b - 0xF0, tails := 3 }
  else if b = 0xF4 then some { bits := 4, tails := 3, high := 0x8F }
  else none

/-- Takes the bytes that follow a leading byte. The answer is the code point, or nothing when a
byte is missing or out of range, and what is left: a byte out of range is left. -/
def takeTails : (tails low high bits : Nat) → List UInt8 → Option Nat × List UInt8
  | 0, _, _, bits, rest => (some bits, rest)
  | _ + 1, _, _, _, [] => (none, [])
  | tails + 1, low, high, bits, b :: rest =>
    if low ≤ b.toNat ∧ b.toNat ≤ high then
      takeTails tails 0x80 0xBF (bits * 64 + (b.toNat - 0x80)) rest
    else (none, b :: rest)

/-- Taking the bytes that follow makes what is left no longer. -/
theorem length_takeTails (tails low high bits : Nat) (bytes : List UInt8) :
    (takeTails tails low high bits bytes).2.length ≤ bytes.length := by
  fun_induction takeTails tails low high bits bytes with
  | case1 => exact Nat.le_refl _
  | case2 => exact Nat.le_refl _
  | case3 tails low high bits b rest hrange ih => exact Nat.le_succ_of_le ih
  | case4 => exact Nat.le_refl _

/-- What is at the start of a byte string that begins with `b`, and what follows it. -/
def first (b : UInt8) (rest : List UInt8) : Option Nat × List UInt8 :=
  match lead? b.toNat with
  | none => (none, rest)
  | some lead => takeTails lead.tails lead.low lead.high lead.bits rest

/-- Taking a character makes what is left no longer. -/
theorem length_first (b : UInt8) (rest : List UInt8) :
    (first b rest).2.length ≤ rest.length := by
  unfold first
  split
  · simp
  · exact length_takeTails ..

/-- The characters of a byte string in order, with nothing for each broken piece. -/
def pieces : List UInt8 → List (Option Char)
  | [] => []
  | b :: rest =>
    have := length_first b rest
    (first b rest).1.map Char.ofNat :: pieces (first b rest).2
termination_by bytes => bytes.length
decreasing_by simp only [List.length_cons]; omega

/-- The text of a byte string that is UTF-8 throughout. -/
def decode? (bytes : List UInt8) : Option String :=
  ((pieces bytes).mapM id).map String.ofList

/-- The character that stands for a broken piece. -/
def replacement : Char := '\ufffd'

/-- The text of a byte string, where every broken piece becomes a replacement character. -/
def decodeLossy (bytes : List UInt8) : String :=
  String.ofList ((pieces bytes).map fun piece => piece.getD replacement)

/-- The bytes of a text. -/
def encode (text : String) : List UInt8 :=
  text.toUTF8.data.toList

end Launcher.Text.Utf8
