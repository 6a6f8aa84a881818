import SipAgent.Text.Alphanumeric
import SipAgent.Text.Cut

/-!
# Parameters

Addresses and header values end in parameters, each a name and perhaps a value. Both are tokens.
Tokens in octets are ASCII, and tokens in the text of a header value take letters and digits of any
script, so whoever reads parameters is told which characters make up a token.
-/

namespace SipAgent

open Text

/-- A character of a token in octets. -/
def isTokenChar (c : Char) : Bool :=
  c.isAlphanum || "-.!%*_+\x60\x27~".toList.contains c

/-- A character of a token in text. -/
def isTextTokenChar (c : Char) : Bool :=
  isTokenChar c || isAlphanumeric c

/-- A parameter: a name, and a value if an equals sign stands after the name. -/
structure Param where
  name : List Char
  value : Option (List Char)
  deriving DecidableEq, Repr

namespace Param

/-- Whether a parameter has this name, in any ASCII letter case. -/
def isNamed (p : Param) (name : String) : Bool :=
  sameAnyCase p.name name.toList

/-- The value of the first parameter that has this name and a value. -/
def lookup (name : String) (params : List Param) : Option (List Char) :=
  params.findSome? fun p => if p.isNamed name then p.value else none

/-- The transports that an address or a Via header may name. -/
def transports : List String :=
  ["UDP", "TCP", "TLS", "SCTP", "TLS-SCTP", "WS", "WSS"]

end Param

end SipAgent
