import SipAgent.Net.IPv6

/-!
# SIP addresses

The address of a party: an optional user, a host and an optional port. A host that is an IPv6
address is kept without brackets and printed in them.
-/

namespace SipAgent

open Text

/-- The address of a party. -/
structure Uri where
  user : Option String
  host : String
  port : Option UInt16
  deriving DecidableEq, Repr

namespace Uri

/-- The host as it is printed: in brackets if it holds a colon. -/
def hostChars (host : List Char) : List Char :=
  if ':' ∈ host then '[' :: host ++ [']'] else host

/-- The printed form of an address, as characters. -/
def chars (u : Uri) : List Char :=
  "sip:".toList ++
    (match u.user with
      | some user => user.toList ++ ['@']
      | none => []) ++
    hostChars u.host.toList ++
    (match u.port with
      | some port => ':' :: decimal port.toNat
      | none => [])

/-- The printed form of an address. -/
def text (u : Uri) : String :=
  String.ofList u.chars

end Uri

end SipAgent
