import BucketMap.Address.IPv6
import BucketMap.Text.Blank
import BucketMap.Text.Case

/-!
# Network addresses

The form of an address by which nodes are told apart. Literals of one IP address have one form,
names are compared in lower case; names are not looked up.

* `IPAddress.read?` reads a literal of either version, `IPAddress.text` writes it.
* `Address.normalize` is the normal form of a host: without white space around it and without one
  pair of brackets, a literal in its written form and a name in lower case.
-/

namespace BucketMap

/-- An IP address of either version. -/
inductive IPAddress
  | v4 (address : IPv4)
  | v6 (address : IPv6)
deriving DecidableEq

namespace IPAddress

/-- The address that a literal denotes. -/
def read? (t : Text) : Option IPAddress :=
  match IPv4.read? t with
  | some a => some (.v4 a)
  | none => (IPv6.read? t).map .v6

/-- The written form. -/
def text : IPAddress → Text
  | v4 a => a.text
  | v6 a => a.text

end IPAddress

namespace Address

/-- Why a host has no normal form. -/
inductive Fault
  /-- A bracket without its partner. -/
  | brackets (host : Text)
  /-- Nothing is left. -/
  | empty

/-- The normal form of a host without brackets. -/
def canonical (host : Text) : Text :=
  match IPAddress.read? host with
  | some address => address.text
  | none => Text.lower host

/-- The text between the first and the last code point. -/
def inner (t : Text) : Text := t.tail.dropLast

/-- The host without one pair of brackets. -/
def unbracket (host : Text) : Except Fault Text :=
  let opens := host.head? = some (CodePoint.ofChar '[')
  let closes := Text.endsWith host ']'
  if opens ∨ closes then
    if opens ∧ closes then .ok (inner host) else .error (.brackets host)
  else .ok host

/-- The normal form of a host. -/
def normalize (host : Text) : Except Fault Text := do
  let bare ← unbracket (Text.strip host)
  if bare.isEmpty then .error .empty else .ok (canonical bare)

end Address

end BucketMap
