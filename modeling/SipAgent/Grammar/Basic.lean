import SipAgent.Identity
import SipAgent.Message.Header
import SipAgent.Method
import SipAgent.Text.Octets
import SipAgent.Uri.Reference

/-!
# The grammar of the wire

The agent does not take wire texts apart by itself: it hands them to a grammar, and `Grammar` is all
that it asks of one. There is a reader for each kind of text. A reader that fails tells why, in
words that end up in the errors of the agent, or it just fails where nobody is told.

How a grammar reads is left open here. The rules that results rest on are stated as properties of a
grammar, such as `Grammar.ReadsAddresses`, and `Grammar.tokenizer` is a grammar that has them.
-/

namespace SipAgent

/-- What a grammar reads in a From, To or Contact header. -/
structure Party where
  /-- The text in front of the address, without the blanks around it. -/
  display : Option String
  reference : Uri.Reference
  tag : Option Tag
  /-- The lifetime that a contact states, in seconds. -/
  expires : Option UInt32
  deriving DecidableEq, Repr

/-- What a grammar reads in the octets of a request. -/
structure WireRequest where
  method : WireMethod
  headers : List Header
  body : Octets
  deriving DecidableEq, Repr

/-- What a grammar reads in the octets of a response. -/
structure WireResponse where
  code : UInt16
  /-- The response as the grammar prints it; of this, only the first line is ever looked at. -/
  printed : String
  headers : List Header
  body : Octets
  deriving DecidableEq, Repr

/-- A grammar of the wire, as the agent uses one. -/
structure Grammar where
  /-- What the address at the start of a text refers to. -/
  address : List Char → Except String Uri.Reference
  request : Octets → Option WireRequest
  response : Octets → Option WireResponse
  /-- The value of the header with a name, out of the headers of a message. -/
  header : HeaderName → List Header → Except String String
  /-- The party in the value of a From, To or Contact header. -/
  party : List Char → Except String Party
  /-- The branch in the value of a Via header. -/
  branch : List Char → Except String (Option String)
  /-- The method in the value of a CSeq header. -/
  cseqMethod : List Char → Except String WireMethod
  /-- The seconds in the value of an Expires or Min-Expires header. -/
  seconds : List Char → Option UInt32
  /-- The realm in the value of a challenge. -/
  realm : List Char → Option String

end SipAgent
