import SipAgent.Text.Cut

/-!
# Headers

The headers of a message, and the names that the agent asks for. Names count in any letter case and
only in full: every other name, a compact one included, is kept as it stands and never asked for.
-/

namespace SipAgent

open Text

/-- The name of a header. -/
inductive HeaderName where
  | callId
  | via
  | fromParty
  | toParty
  | cseq
  | contact
  | expires
  | minExpires
  | wwwAuthenticate
  | proxyAuthenticate
  | other (name : String)
  deriving DecidableEq, Repr

namespace HeaderName

/-- The names that the agent asks for, with their spelling in a message. -/
def known : List (HeaderName × String) :=
  [(.callId, "Call-ID"), (.via, "Via"), (.fromParty, "From"), (.toParty, "To"), (.cseq, "CSeq"),
    (.contact, "Contact"), (.expires, "Expires"), (.minExpires, "Min-Expires"),
    (.wwwAuthenticate, "WWW-Authenticate"), (.proxyAuthenticate, "Proxy-Authenticate")]

/-- The name that a spelling stands for, in any ASCII letter case. -/
def ofSpelling (word : List Char) : HeaderName :=
  match known.find? fun entry => sameAnyCase entry.2.toList word with
  | some entry => entry.1
  | none => .other (String.ofList word)

end HeaderName

/-- A header: its name, and its value as text. -/
structure Header where
  name : HeaderName
  value : String
  deriving DecidableEq, Repr

/-- The value of the first header with a name. -/
def Header.first? (name : HeaderName) (headers : List Header) : Option String :=
  (headers.find? fun h => h.name = name).map (·.value)

end SipAgent
