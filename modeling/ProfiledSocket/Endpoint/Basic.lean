/-
IPv4 addresses and endpoints, and how they are written.

Main definitions:
* `Ipv4` — the four numbers of an address;
* `Endpoint` — an address with a port;
* `Ipv4.text`, `Endpoint.text` — the dotted quad, and the dotted quad with `:port`.
-/

namespace ProfiledSocket

/-- An IPv4 address, its most significant number first. -/
structure Ipv4 where
  a : UInt8
  b : UInt8
  c : UInt8
  d : UInt8
deriving DecidableEq

namespace Ipv4

/-- The address that stands for all addresses of the machine. -/
def any : Ipv4 := ⟨0, 0, 0, 0⟩

/-- The four numbers in decimal with dots between them. -/
def chars (ip : Ipv4) : List Char :=
  Nat.toDigits 10 ip.a.toNat ++ '.' :: Nat.toDigits 10 ip.b.toNat ++
    '.' :: Nat.toDigits 10 ip.c.toNat ++ '.' :: Nat.toDigits 10 ip.d.toNat

/-- The dotted quad. -/
def text (ip : Ipv4) : String := String.ofList ip.chars

/-- The four numbers in order. -/
def octets (ip : Ipv4) : List UInt8 := [ip.a, ip.b, ip.c, ip.d]

end Ipv4

/-- One end of a conversation: an address and a port. -/
structure Endpoint where
  ip : Ipv4
  port : UInt16
deriving DecidableEq

/-- The dotted quad, a colon and the port. -/
def Endpoint.text (e : Endpoint) : String :=
  e.ip.text ++ ":" ++ toString e.port.toNat

end ProfiledSocket
