/-
Reading the address of an endpoint.

Only the canonical dotted quad is an address: four decimal numerals from 0 to 255, without
sign or leading zero, with dots between them. White space around it is allowed. Names are not
looked up.

Main definitions:
* `Ipv4.ofChars?` — reads a dotted quad;
* `Endpoint.read` — reads the address of an endpoint, or says which text was refused.
-/
import ProfiledSocket.Error
import ProfiledSocket.Text.Blank

namespace ProfiledSocket

namespace Ipv4

/-- The fields of a text that dots separate; there is always at least one. -/
def splitDots : List Char → List (List Char)
  | [] => [[]]
  | c :: rest =>
    if c = '.' then [] :: splitDots rest
    else
      match splitDots rest with
      | field :: fields => (c :: field) :: fields
      | [] => [[c]]

/-- Whether `field` is a decimal numeral without sign or leading zero. -/
def isNumeral (field : List Char) : Bool :=
  !field.isEmpty && field.all Char.isDigit && (field.head? != some '0' || field.length == 1)

/-- Reads one of the four numbers of an address. -/
def octet? (field : List Char) : Option UInt8 :=
  if isNumeral field && Nat.ofDigitChars 10 field 0 ≤ 255 then
    some (UInt8.ofNat (Nat.ofDigitChars 10 field 0))
  else none

/-- Reads a dotted quad. -/
def ofChars? (cs : List Char) : Option Ipv4 :=
  match splitDots cs with
  | [f₁, f₂, f₃, f₄] => do
    let a ← octet? f₁
    let b ← octet? f₂
    let c ← octet? f₃
    let d ← octet? f₄
    return ⟨a, b, c, d⟩
  | _ => none

end Ipv4

/-- Reads the address of an endpoint. A refused text is kept as it was given, its white space
included. -/
def Endpoint.read (ip : String) (port : UInt16) : Except SocketError Endpoint :=
  match Ipv4.ofChars? (Text.strip ip.toList) with
  | some address => .ok ⟨address, port⟩
  | none => .error (.invalidAddress ip)

end ProfiledSocket
