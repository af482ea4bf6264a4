import Launcher.Text.Hidden
/-!
# Quoted text in messages

A message quotes a text between double quotes, so that its ends and its odd characters show.

## Main definitions

* `Launcher.Text.quoted` — the quoted form of a text.
-/

namespace Launcher.Text

/-- A number in base sixteen, with small letters and no leading zeros. -/
def hex (n : Nat) : String :=
  String.ofList (Nat.toDigits 16 n)

/-- A character inside a quoted text: five have a short form, one without a visible form is
written by number, and any other stands for itself. -/
def quotedChar (c : Char) : String :=
  if c = '\x00' then "\\0"
  else if c = '\t' then "\\t"
  else if c = '\r' then "\\r"
  else if c = '\n' then "\\n"
  else if c = '\\' then "\\\\"
  else if c = '"' then "\\\""
  else if isHidden c then "\\u\x7b" ++ hex c.toNat ++ "\x7d"
  else c.toString

/-- A text between double quotes. -/
def quoted (text : String) : String :=
  "\"" ++ String.join (text.toList.map quotedChar) ++ "\""

end Launcher.Text
