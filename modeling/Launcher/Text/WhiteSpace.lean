/-!
# White space of a command line

A command line counts as empty when nothing but white space is in it. The white space meant
here is the Unicode property `White_Space`, which is larger than the set of blanks that
separate arguments (`Launcher.CommandLine.isBlank`).

## Main definitions

* `Launcher.Text.isWhiteSpace` — the property, as a table of its 25 characters.
* `Launcher.Text.isBlankText` — a text made of white space alone.
-/

namespace Launcher.Text

/-- The characters with the Unicode property `White_Space`, as closed ranges of code points. -/
def whiteSpaceRanges : List (Nat × Nat) :=
  [(0x09, 0x0D), (0x20, 0x20), (0x85, 0x85), (0xA0, 0xA0), (0x1680, 0x1680),
   (0x2000, 0x200A), (0x2028, 0x2029), (0x202F, 0x202F), (0x205F, 0x205F), (0x3000, 0x3000)]

/-- A character has the Unicode property `White_Space`. -/
def isWhiteSpace (c : Char) : Bool :=
  whiteSpaceRanges.any fun (lo, hi) => lo ≤ c.toNat && c.toNat ≤ hi

/-- A text that holds white space only; the empty text is one. -/
def isBlankText (s : String) : Bool :=
  s.toList.all isWhiteSpace

/-- A space is white space. -/
theorem isWhiteSpace_space : isWhiteSpace ' ' = true := by decide

/-- A tab is white space. -/
theorem isWhiteSpace_tab : isWhiteSpace '\t' = true := by decide

end Launcher.Text
