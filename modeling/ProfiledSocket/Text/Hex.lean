/-
Hexadecimal digits.

Main definitions:
* `Text.hex` — a number in lower case without padding;
* `Text.hexPadded` — the same with at least so many digits;
* `Text.hexBytes` — two digits for every byte.
-/

namespace ProfiledSocket.Text

/-- `n` in lower-case hexadecimal. -/
def hex (n : Nat) : List Char := Nat.toDigits 16 n

/-- `n` in hexadecimal with zeros in front, so that it has at least `width` digits. -/
def hexPadded (width n : Nat) : List Char :=
  List.replicate (width - (hex n).length) '0' ++ hex n

/-- Two digits for every byte. -/
def hexBytes (bytes : List UInt8) : String :=
  String.ofList (bytes.flatMap fun b => hexPadded 2 b.toNat)

end ProfiledSocket.Text
