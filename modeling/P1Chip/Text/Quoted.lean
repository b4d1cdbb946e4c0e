import P1Chip.Text.Hidden
import P1Chip.Text.Radix

/-!
# Quoted text

A text is shown in quotation marks, with marks, backslashes and everything that cannot be seen
replaced by escapes, so that it can be told where it begins and ends and what is in it.

* `Text.escape` — what is written for a character.
* `Text.quoted` — the text with quotation marks and escapes.
-/

namespace P1Chip.Text

/-- What is written for a character between quotation marks. -/
def escape (c : Char) : String :=
  if c = '"' then "\\\""
  else if c = '\\' then "\\\\"
  else if c = '\n' then "\\n"
  else if c = '\r' then "\\r"
  else if c = '\t' then "\\t"
  else if c.toNat = 0 then "\\0"
  else if isHidden c then "\\u\x7b" ++ hexDigits 1 c.toNat ++ "\x7d"
  else c.toString

/-- A text in quotation marks. -/
def quoted (s : String) : String :=
  "\"" ++ String.join (s.toList.map escape) ++ "\""

end P1Chip.Text
