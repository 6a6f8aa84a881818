import SipAgent.Transport.Command

/-!
# A recording transport

A network layer without a network: it hands out identifiers as a real one does and records every
command instead of sending it. It can be made to refuse commands, or to have no route at all; a
refused command is not recorded.
-/

namespace SipAgent

/-- A command as it is recorded. -/
inductive Recorded where
  | register (callId : CallId) (expiry : UInt32)
  | invite (callId : CallId) (callee : Uri) (offer : Octets)
  | reinvite (callId : CallId) (offer : Octets)
  | cancel (callId : CallId)
  | bye (callId : CallId)
  | response (callId : CallId) (method : Method) (status : UInt16)
  | ringing (callId : CallId)
  | inviteOk (callId : CallId) (answer : Octets)
  | ack (callId : CallId)
  | challenge (callId : CallId) (username : String)
  | keepalive
  | terminateDialog (callId : CallId)
  deriving DecidableEq, Repr

/-- The name of a recorded command. -/
def Recorded.name : Recorded → String
  | .register .. => "REGISTER"
  | .invite .. => "INVITE"
  | .reinvite .. => "re-INVITE"
  | .cancel .. => "CANCEL"
  | .bye .. => "BYE"
  | .response .. => "response"
  | .ringing .. => "180 Ringing"
  | .inviteOk .. => "200 OK"
  | .ack .. => "ACK"
  | .challenge .. => "challenge"
  | .keepalive => "keepalive"
  | .terminateDialog .. => "terminate dialog"

/-- A network layer that records commands. -/
structure Recorder where
  host : String
  address : Address
  /-- The commands recorded and not yet taken, oldest first. -/
  commands : List Recorded
  /-- The last client transaction handed out. -/
  lastTransaction : Option ClientTransaction
  /-- All registrations share one Call-ID. -/
  registrationCallId : Option CallId
  failing : Bool
  unreachable : Bool
  supply : IdSupply
  deriving DecidableEq

namespace Recorder

/-- A recorder for a host, bound to the own host's address. -/
def ofHost (host : String) : Recorder where
  host := host
  address := .v4 IPv4.loopback
  commands := []
  lastTransaction := none
  registrationCallId := none
  failing := false
  unreachable := false
  supply := ⟨0⟩

/-- Why the recorder refuses a command, if it does. Having no route comes first. -/
def refusal? (r : Recorder) (c : Recorded) : Option TransportError :=
  if r.unreachable then
    some (.unreachable (c.name ++ " refused: no route to " ++ r.host))
  else if r.failing then
    some (.sendFailed (c.name ++ " refused: transport down"))
  else none

/-- Record a command, unless it is refused, and go on with the recorder that holds it. -/
def record {α : Type} (r : Recorder) (c : Recorded) (next : Recorder → α × Recorder) :
    Except TransportError α × Recorder :=
  match r.refusal? c with
  | some e => (.error e, r)
  | none =>
    let (value, r) := next { r with commands := r.commands ++ [c] }
    (.ok value, r)

/-- Hand out a client transaction. -/
def openTransaction (r : Recorder) (method : Method) (callId : CallId) :
    ClientTransaction × Recorder :=
  let supply := r.supply.next
  let transaction : ClientTransaction := ⟨supply.transactionId, method, callId⟩
  (transaction, { r with supply := supply, lastTransaction := some transaction })

/-- A fresh Call-ID. -/
def drawCallId (r : Recorder) : CallId × Recorder :=
  let supply := r.supply.next
  (supply.callId r.host, { r with supply := supply })

/-- The Call-ID of all registrations; the first one draws it. -/
def registrationId (r : Recorder) : CallId × Recorder :=
  match r.registrationCallId with
  | some callId => (callId, r)
  | none =>
    let (callId, r) := r.drawCallId
    (callId, { r with registrationCallId := some callId })

/-- Carry out a command. -/
def perform : (c : Command) → Recorder → Except TransportError c.Reply × Recorder
  | .register _ _ expiry, r =>
    let (callId, r) := r.registrationId
    r.record (.register callId expiry) fun r => r.openTransaction .register callId
  | .invite _ callee offer tag, r =>
    let (callId, r) := r.drawCallId
    r.record (.invite callId callee offer) fun r =>
      let (transaction, r) := r.openTransaction .invite callId
      ((transaction, ⟨callId, tag, none⟩), r)
  | .reinvite dialog offer, r =>
    r.record (.reinvite dialog.callId offer) fun r => r.openTransaction .invite dialog.callId
  | .cancel transaction, r => r.record (.cancel transaction.callId) fun r => ((), r)
  | .bye dialog, r => r.record (.bye dialog.callId) fun r => ((), r)
  | .respond request status, r =>
    r.record (.response request.callId request.method status) fun r => ((), r)
  | .ringing request _, r =>
    r.record (.ringing request.callId) fun r => (request.serverTransaction, r)
  | .acceptInvite request _ answer tag _, r =>
    r.record (.inviteOk request.callId answer) fun r =>
      ((⟨request.callId, tag, request.dialog.bind (·.remoteTag)⟩ : Dialog), r)
  | .acknowledge response _, r => r.record (.ack response.callId) fun r => ((), r)
  | .authenticate response credentials, r =>
    r.record (.challenge response.callId credentials.username) fun r =>
      r.openTransaction response.method response.callId
  | .keepalive _, r => r.record .keepalive fun r => ((), r)
  | .terminateDialog dialog, r => r.record (.terminateDialog dialog.callId) fun r => ((), r)

/-- A fresh tag. -/
def drawTag (r : Recorder) : Tag × Recorder :=
  let supply := r.supply.next
  (supply.tag, { r with supply := supply })

/-- A recorder is a network layer. -/
instance : Transport Recorder where
  perform := perform
  freshTag := drawTag
  localAddress := Recorder.address

/-- The recorded commands, and the recorder without them. -/
def takeCommands (r : Recorder) : List Recorded × Recorder :=
  (r.commands, { r with commands := [] })

end Recorder

end SipAgent
