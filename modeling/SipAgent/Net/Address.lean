import SipAgent.Net.IPv6

/-!
# Network addresses

An address of either family, and the question whether a host with that address sits behind an
address translator.
-/

namespace SipAgent

/-- An IP address of either family. -/
inductive Address where
  | v4 (ip : IPv4)
  | v6 (ip : IPv6)
  deriving DecidableEq

namespace Address

/-- Read an address of either family. -/
def read (cs : List Char) : Option Address :=
  match IPv4.read cs with
  | some ip => some (.v4 ip)
  | none => (IPv6.read cs).map .v6

/-- The text of an address. -/
def text : Address → String
  | .v4 ip => String.ofList ip.chars
  | .v6 ip => ip.text

/-- Whether a host with this address reaches the network through a translator: its address is
private, shared by a carrier, or unique local. -/
def isTranslated : Address → Bool
  | .v4 ip => ip.isPrivate || ip.isCarrierShared
  | .v6 ip => ip.isUniqueLocal

end Address

end SipAgent
