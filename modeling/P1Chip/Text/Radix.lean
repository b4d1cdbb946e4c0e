/-!
# Numbers in hexadecimal

Addresses, registers and pin masks are shown in base sixteen, in lower case, padded with zeros to
the width of the quantity they show.

* `Text.hexDigits` — the digits alone, at least as many as asked for.
* `Text.hex` — the same after the `0x` mark.
-/

namespace P1Chip.Text

/-- `s` with `fill` put in front until it has `width` characters; a longer text stays as it is. -/
def padLeft (width : Nat) (fill : Char) (s : String) : String :=
  String.ofList (List.replicate (width - s.length) fill) ++ s

/-- The hexadecimal digits of `n`, in lower case, padded with zeros to at least `digits` places.
No number is ever cut: one that needs more places gets them. -/
def hexDigits (digits n : Nat) : String :=
  padLeft digits '0' (String.ofList (Nat.toDigits 16 n))

/-- `n` in hexadecimal behind the mark `0x`, with at least `digits` digits. -/
def hex (digits n : Nat) : String :=
  "0x" ++ hexDigits digits n

end P1Chip.Text
