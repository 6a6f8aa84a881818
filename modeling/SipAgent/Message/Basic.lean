import SipAgent.Error
import SipAgent.Grammar.Basic

/-!
# Messages

A message is a start line, headers and a body. Octets are a request if the grammar reads one in
them, else a response if the grammar reads one, else no message at all.
-/

namespace SipAgent

/-- The start line of a message. -/
inductive StartLine where
  | request (method : WireMethod)
  /-- The code of a response, and the response as it is printed. -/
  | status (code : UInt16) (printed : String)
  deriving DecidableEq, Repr

/-- A message. -/
structure Message where
  start : StartLine
  headers : List Header
  body : Octets
  deriving DecidableEq, Repr

namespace Message

/-- A request as a message. -/
def ofRequest (r : WireRequest) : Message :=
  ⟨.request r.method, r.headers, r.body⟩

/-- A response as a message. -/
def ofResponse (r : WireResponse) : Message :=
  ⟨.status r.code r.printed, r.headers, r.body⟩

/-- Read a message: a request if it is one, else a response. -/
def parse (g : Grammar) (data : Octets) : Except AgentError Message :=
  match g.request data with
  | some request => .ok (ofRequest request)
  | none =>
    match g.response data with
    | some response => .ok (ofResponse response)
    | none => .error (.message "could not parse as SIP request or response")

end Message

end SipAgent
