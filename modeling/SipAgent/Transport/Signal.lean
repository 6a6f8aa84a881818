import SipAgent.Identity
import SipAgent.Method
import SipAgent.Profile
import SipAgent.Text.Octets

/-!
# Signals from the network

What the network layer hands to the agent: requests and responses of peers, and the ends of
transactions and dialogs. Every signal carries the Call-ID by which it is routed.
-/

namespace SipAgent

/-! ### Handles -/

/-- A dialog, as the network layer names it. -/
structure Dialog where
  callId : CallId
  localTag : Tag
  remoteTag : Option Tag
  deriving DecidableEq, Repr

/-- A request that the agent sent. -/
structure ClientTransaction where
  id : TransactionId
  method : Method
  callId : CallId
  deriving DecidableEq, Repr

/-- A request that the agent answers. -/
structure ServerTransaction where
  id : TransactionId
  method : Method
  callId : CallId
  deriving DecidableEq, Repr

/-! ### Messages -/

/-- A request of a peer. -/
structure Request where
  method : Method
  callId : CallId
  transaction : TransactionId
  /-- Who sent the request. -/
  sender : Peer
  body : Octets
  dialog : Option Dialog
  deriving DecidableEq, Repr

/-- The transaction in which a request is answered. -/
def Request.serverTransaction (r : Request) : ServerTransaction :=
  ⟨r.transaction, r.method, r.callId⟩

/-- A response to a request of the agent. -/
structure Response where
  status : UInt16
  reason : String
  /-- The method of the request that is answered. -/
  method : Method
  callId : CallId
  transaction : TransactionId
  body : Octets
  dialog : Option Dialog
  /-- The `Expires` header. -/
  expires : Option UInt32
  /-- The `expires` parameter of the Contact header. -/
  contactExpires : Option UInt32
  /-- The `Min-Expires` header. -/
  minExpires : Option UInt32
  /-- The realm of a challenge. -/
  realm : Option String
  deriving DecidableEq, Repr

namespace Response

/-- A bare response in a client transaction. -/
def answering (t : ClientTransaction) (status : UInt16) (reason : String) : Response where
  status := status
  reason := reason
  method := t.method
  callId := t.callId
  transaction := t.id
  body := []
  dialog := none
  expires := none
  contactExpires := none
  minExpires := none
  realm := none

/-- The lifetime of a registration in seconds when the registrar states none. -/
def defaultExpiry : UInt32 :=
  3600

/-- The shorter of the lifetimes that the registrar states. -/
def statedExpiry (r : Response) : Option UInt32 :=
  match r.contactExpires, r.expires with
  | some contact, some header => some (if header < contact then header else contact)
  | some contact, none => some contact
  | none, header => header

/-- The lifetime in seconds that a registrar grants: the shorter of those it states, one hour if it
states none or zero, and never less than its minimum. -/
def negotiatedExpiry (r : Response) : UInt32 :=
  let granted :=
    match r.statedExpiry with
    | some time => if time = 0 then defaultExpiry else time
    | none => defaultExpiry
  match r.minExpires with
  | some least => if granted < least then least else granted
  | none => granted

/-- The reason and the status of a response, as a listener is told them. -/
def summary (r : Response) : String :=
  r.reason ++ " (" ++ String.ofList (Text.decimal r.status.toNat) ++ ")"

end Response

/-! ### Signals -/

/-- A transaction that timed out or ended. -/
structure TransactionEnd where
  transaction : TransactionId
  callId : CallId
  isServer : Bool
  deriving DecidableEq, Repr

/-- Everything the network layer hands to the agent. -/
inductive Signal where
  | request (r : Request)
  | response (r : Response)
  | timeout (t : TransactionEnd)
  | dialogTerminated (d : Dialog)
  | transactionTerminated (t : TransactionEnd)
  deriving DecidableEq, Repr

namespace Signal

/-- The Call-ID by which a signal is routed. -/
def key : Signal → CallId
  | .request r => r.callId
  | .response r => r.callId
  | .timeout t => t.callId
  | .dialogTerminated d => d.callId
  | .transactionTerminated t => t.callId

/-- A short description of a signal. -/
def name : Signal → String
  | .request r => r.method.name ++ " request"
  | .response r =>
    String.ofList (Text.decimal r.status.toNat) ++ " " ++ r.method.name ++ " response"
  | .timeout t => "timeout of " ++ t.transaction.text
  | .dialogTerminated _ => "dialog terminated"
  | .transactionTerminated t => "transaction " ++ t.transaction.text ++ " terminated"

end Signal

end SipAgent
