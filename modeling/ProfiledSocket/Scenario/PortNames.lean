/-
Names for ports that the system chose.

Such ports differ from run to run, so an answer shows the name of the socket that got one. The
texts of messages are treated in the same way, and the numbers of descriptors are left out of
them.

Main definitions:
* `Scenario.PortNames` — the ports noted so far and their labels;
* `Scenario.PortNames.record` — notes the local port of a socket;
* `Scenario.PortNames.port`, `Scenario.PortNames.endpoint` — a port and an address as shown;
* `Scenario.PortNames.message` — a message as shown.
-/
import ProfiledSocket.Endpoint.Basic

namespace ProfiledSocket.Scenario

/-- The ports of a scenario. -/
structure PortNames where
  /-- The local port last noted for each socket. -/
  noted : List (String × UInt16) := []
  /-- The labels of ports, the latest first. -/
  labels : List (UInt16 × String) := []
  /-- The sockets that gave a label, as often as they did. -/
  givers : List String := []
  /-- The ports that steps stated as numbers. -/
  stated : List Nat := []

namespace PortNames

/-- The local port last noted for a socket. -/
def ownPort? (names : PortNames) (name : String) : Option UInt16 := names.noted.lookup name

/-- Remembers that a step stated a port. -/
def state (names : PortNames) (port : Option UInt16) : PortNames :=
  match port with
  | some port => { names with stated := port.toNat :: names.stated }
  | none => names

/-- A label for one more port of a socket. -/
def freshLabel (names : PortNames) (name : String) : String :=
  match names.givers.count name with
  | 0 => name
  | n + 1 => name ++ "#" ++ toString (n + 2)

/-- Gives a port a label. -/
def label (names : PortNames) (name : String) (port : UInt16) : PortNames :=
  { names with
    labels := (port, names.freshLabel name) :: names.labels
    givers := name :: names.givers }

/-- Notes the local port of a socket. A port that is new for it gets a label, unless it was
asked for. -/
def record (names : PortNames) (name : String) (port : UInt16) (asked : Bool) : PortNames :=
  if names.ownPort? name = some port then names
  else
    let names := { names with noted := (name, port) :: names.noted }
    if asked then names else names.label name port

/-! ### What is shown -/

/-- The first of the ports that a system may choose. -/
def firstChosen : Nat := 32768

/-- A port as shown: by its label, or as a number if the scenario can know it. -/
def port (names : PortNames) (n : Nat) : String :=
  match names.labels.find? fun entry => entry.1.toNat = n with
  | some (_, label) => "@" ++ label
  | none => if n < firstChosen || names.stated.contains n then toString n else "?"

/-- An endpoint as shown. -/
def endpoint (names : PortNames) (e : Endpoint) : String :=
  e.ip.text ++ ":" ++ names.port e.port.toNat

/-- The pieces of a text: runs of digits, and what is between them. -/
def pieces (text : List Char) : List (List Char) :=
  text.splitBy fun a b => a.isDigit == b.isDigit

/-- Whether a text before a number says that it is the number of a descriptor. -/
def announcesDescriptor (before : List Char) : Bool :=
  "fd ".toList.isSuffixOf before || "descriptor ".toList.isSuffixOf before

/-- Whether a piece is a run of digits. -/
def isNumber (piece : List Char) : Bool := piece.any Char.isDigit

/-- A piece as shown after the two pieces before it: a number after an address and a colon is a
port, and the number of a descriptor is left out. -/
def showPiece (names : PortNames) (earlier last piece : List Char) : List Char :=
  if !isNumber piece then piece
  else if announcesDescriptor last then ['N']
  else if last = [':'] && isNumber earlier then
    (names.port (Nat.ofDigitChars 10 piece 0)).toList
  else piece

/-- The pieces as shown, after two pieces that came before them. -/
def showPieces (names : PortNames) (earlier last : List Char) :
    List (List Char) → List Char
  | [] => []
  | piece :: rest => names.showPiece earlier last piece ++ names.showPieces last piece rest

/-- A message as shown. -/
def message (names : PortNames) (text : String) : String :=
  String.ofList (names.showPieces [] [] (pieces text.toList))

end PortNames

end ProfiledSocket.Scenario
