import SipAgent.Session.Basic
import SipAgent.Session.Script

/-!
# The session machine

How a session reacts to an event. Each state has its own rules, `stateRule`; an event that they pass
over falls to the rules that hold in every state, `commonRule`; and an event that these pass over
too is refused. A rule is a script, and in every rule all commands come before any effect: if the
network refuses one, nothing has happened yet, and the session fails as a whole.

A script cannot be written down in another way, so this order is a claim about the machine that
works in place. `Workspace.handle` is that machine, with commands and effects in turn as the agent
has them, and `Workspace.handle_eq` says that the two come to the same.
-/

namespace SipAgent

namespace Session

/-- The challenges answered for one request before giving up. -/
def maxAuthRetries : Nat :=
  2

/-! ### Status classes -/

/-- A provisional response. -/
def isProvisional (status : UInt16) : Bool :=
  100 ≤ status && status < 200

/-- A provisional response that says that the peer is alerted, or as good as that. -/
def isAlerting (status : UInt16) : Bool :=
  180 ≤ status && status ≤ 183

/-- A successful response. -/
def isSuccess (status : UInt16) : Bool :=
  200 ≤ status && status < 300

/-- A response that asks for credentials. -/
def isChallenge (status : UInt16) : Bool :=
  status == 401 || status == 407

/-- A final response that ends the dialog along with the request. -/
def endsDialog (status : UInt16) : Bool :=
  status == 408 || status == 481

/-! ### Steps that rules share -/

/-- The realm of a challenge, if it is not the host of the own address. -/
def foreignRealm? (profile : Profile) (r : Response) : Option String :=
  match r.realm with
  | none => none
  | some realm =>
    if Text.sameAnyCase (Text.trim Text.isBlank realm.toList) profile.uri.host.toList then none
    else some realm

/-- Answer a challenge with credentials, unless that has been done often enough or another realm
asks for them. -/
def authenticate (profile : Profile) (s : Session) (r : Response) : Script Outcome :=
  if maxAuthRetries ≤ s.authRetries then
    .done (s.failed .invalidCredentials "incorrect username or password")
  else
    match foreignRealm? profile r with
    | some realm => .done (s.failed .crossDomainAuthentication realm)
    | none =>
      .send (.authenticate r profile.credentials) fun (t : ClientTransaction) =>
        .done
          { session :=
              { s.withKey t.callId with
                authRetries := s.authRetries + 1, clientTransaction := some t }
            processed := true
            reports := []
            keyChanges := s.rebound t.callId
            spawned := none }

/-- Acknowledge a final response in the dialog of the session. -/
def acknowledge {α : Type} (s : Session) (r : Response) (next : Script α) : Script α :=
  match s.dialog with
  | some dialog => .send (.acknowledge r dialog) fun _ => next
  | none => .fail (.noTransaction "no dialog to ACK in")

/-- Hang up in the dialog of the session, if it has one. -/
def hangUp {α : Type} (s : Session) (next : Script α) : Script α :=
  match s.dialog with
  | some dialog => .send (.bye dialog) fun _ => next
  | none => next

/-- Cancel the request of the session, if it has one. -/
def cancelRequest {α : Type} (s : Session) (next : Script α) : Script α :=
  match s.clientTransaction with
  | some t => .send (.cancel t) fun _ => next
  | none => next

/-- Give up the dialog of the session, if it has one; it does not matter whether that works. -/
def abandonDialog {α : Type} (s : Session) (next : Script α) : Script α :=
  match s.dialog with
  | some dialog => .attempt (.terminateDialog dialog) next
  | none => next

/-- Answer a request without a body. -/
def respond {α : Type} (r : Request) (status : UInt16) (next : Script α) : Script α :=
  .send (.respond r status) fun _ => next

/-- The own tag of the session's dialog, or a fresh one. -/
def withLocalTag {α : Type} (s : Session) (next : Tag → Script α) : Script α :=
  match s.dialog with
  | some dialog => next dialog.localTag
  | none => .freshTag next

/-- A change that the peer accepted takes effect. -/
def completeChange (s : Session) (r : Response) : Script Outcome :=
  s.acknowledge r (.done (s.capturing r.body).established)

/-! ### Rules by state -/

/-- Send a registration, or the end of one. -/
def startRegistration (profile : Profile) (s : Session) (expiry : UInt32) (next : SessionState) :
    Script Outcome :=
  .freshTag fun tag =>
    .send (.register profile tag expiry) fun (t : ClientTransaction) =>
      .done
        { session :=
            { s.withKey t.callId with
              clientTransaction := some t, authRetries := 0, state := next }
          processed := true
          reports := [⟨s.id, .registering⟩]
          keyChanges := s.rebound t.callId
          spawned := none }

/-- Send an invitation. -/
def startCall (profile : Profile) (s : Session) (callee : Uri) (offer : Octets) : Script Outcome :=
  .freshTag fun tag =>
    .send (.invite profile callee offer tag) fun (reply : ClientTransaction × Dialog) =>
      .done
        { session :=
            { s.withKey reply.1.callId with
              peer := some (.ofUri callee), localDescription := some offer,
              dialog := some reply.2, clientTransaction := some reply.1, authRetries := 0,
              state := .outgoingCall }
          processed := true
          reports := [⟨s.id, .calling⟩]
          keyChanges := s.rebound reply.1.callId
          spawned := none }

/-- Idle: the user calls or registers. -/
def readyRule (profile : Profile) (s : Session) : SessionEvent → Option (Script Outcome)
  | .makeCall peer offer => some (s.startCall profile peer offer)
  | .register expiry => some (s.startRegistration profile expiry .registering)
  | .deregister => some (s.startRegistration profile 0 .deregistering)
  | _ => none

/-- The seconds that a registrar's final response grants, or -1 at the end of a registration. -/
def grantedDuration (s : Session) (r : Response) : Int :=
  if s.state = .registering then min r.negotiatedExpiry.toNat 0x7fffffff else -1

/-- The registrar answers. -/
def registrationResponse (profile : Profile) (s : Session) (r : Response) : Script Outcome :=
  if isProvisional r.status then .done s.consumed
  else if isSuccess r.status then .done (s.finished (.registrationDone (s.grantedDuration r)))
  else if isChallenge r.status then s.authenticate profile r
  else .done (s.failed (if 500 ≤ r.status then .serverError else .ofStatus r.status) r.summary)

/-- A registration exchange is under way. -/
def registeringRule (profile : Profile) (s : Session) : SessionEvent → Option (Script Outcome)
  | .response r =>
    if r.method = .register then some (s.registrationResponse profile r) else none
  | _ => none

/-- Accept the invitation that came in. -/
def acceptCall (profile : Profile) (s : Session) (invite : Request) (answer : Octets) :
    Script Outcome :=
  let transaction := s.serverTransaction.getD invite.serverTransaction
  s.withLocalTag fun tag =>
    .send (.acceptInvite invite profile answer tag transaction) fun (dialog : Dialog) =>
      .done
        ({ s with
            dialog := some dialog, serverTransaction := some transaction,
            localDescription := some answer, state := .incomingCallAnswering } : Session).consumed

/-- An invitation has come in: the user accepts or rejects it, or the peer takes it back. -/
def incomingCallRule (profile : Profile) (s : Session) (e : SessionEvent) :
    Option (Script Outcome) :=
  match s.invite, e with
  | some invite, .answerCall answer => some (s.acceptCall profile invite answer)
  | some invite, .endCall => some (respond invite 486 (.done (s.finished .callEnded)))
  | some invite, .request r =>
    if r.method = .cancel then
      some (respond r 200 (respond invite 487 (.done (s.finished .callEnded))))
    else none
  | _, _ => none

/-- The acknowledgement of an accepted invitation arrives. -/
def confirmCall (s : Session) (r : Request) : Outcome :=
  let s := s.capturing r.body
  if s.peerDescription = none then s.failed .clientError "peer sdp is empty" else s.established

/-- An invitation has been accepted. -/
def incomingCallAnsweringRule (s : Session) : SessionEvent → Option (Script Outcome)
  | .request r =>
    if r.method = .ack then some (.done (s.confirmCall r))
    else if r.method = .cancel then some (respond r 200 (.done s.consumed))
    else none
  | .endCall => some (s.hangUp (.done (s.finished .callEnded)))
  | _ => none

/-- The invited peer answers. -/
def inviteResponse (profile : Profile) (s : Session) (r : Response) : Script Outcome :=
  if isAlerting r.status then
    if s.state = .outgoingCall then
      .done (({ s with state := .outgoingCallRingBack } : Session).telling .ringingBack)
    else .done s.consumed
  else if isProvisional r.status then .done s.consumed
  else if isSuccess r.status then
    s.acknowledge r
      (.done ({ s with peerDescription := some r.body } : Session).established)
  else if isChallenge r.status then s.authenticate profile r
  else if r.status = 491 then .done s.consumed
  else .done (s.failedWith r)

/-- An own invitation is under way. -/
def outgoingCallRule (profile : Profile) (s : Session) : SessionEvent → Option (Script Outcome)
  | .response r => if r.method = .invite then some (s.inviteResponse profile r) else none
  | .endCall =>
    some (s.cancelRequest (.done ({ s with state := .outgoingCallCanceling } : Session).consumed))
  | _ => none

/-- The invited peer answers although the invitation is being cancelled. A call that came up in
the meantime is ended at once. -/
def cancelledInviteResponse (s : Session) (r : Response) : Script Outcome :=
  if isProvisional r.status then .done s.consumed
  else if isSuccess r.status then
    s.acknowledge r (s.hangUp (.done (s.finished .callEnded)))
  else if r.status = 487 then .done (s.finished .callEnded)
  else .done (s.failedWith r)

/-- The own invitation is being cancelled. -/
def outgoingCallCancelingRule (s : Session) : SessionEvent → Option (Script Outcome)
  | .response r =>
    if r.method = .cancel then
      if 400 ≤ r.status then some (.done (s.failedWith r)) else some (.done s.consumed)
    else if r.method = .invite then some (s.cancelledInviteResponse r)
    else none
  | _ => none

/-- Accept a change by the peer, with the description that is in force. -/
def acceptChange (profile : Profile) (s : Session) (r : Request) : Script Outcome :=
  let transaction := r.serverTransaction
  s.withLocalTag fun tag =>
    .send (.acceptInvite r profile (s.localDescription.getD []) tag transaction)
      fun (dialog : Dialog) =>
        .done
          (({ s.capturing r.body with
              dialog := some dialog, invite := some r, serverTransaction := some transaction,
              state := .inCallAnswering } : Session).telling (.callChanged r.body))

/-- Send a change. -/
def startChange (s : Session) (offer : Octets) : Option (Script Outcome) :=
  match s.dialog with
  | none => none
  | some dialog =>
    some <| .send (.reinvite dialog offer) fun (t : ClientTransaction) =>
      .done
        ({ s with
            clientTransaction := some t, authRetries := 0, localDescription := some offer,
            state := .inCallChanging } : Session).consumed

/-- The call is up. -/
def inCallRule (profile : Profile) (s : Session) : SessionEvent → Option (Script Outcome)
  | .endCall => some (s.hangUp (.done (s.finished .callEnded)))
  | .request r =>
    if r.method = .invite then some (s.acceptChange profile r)
    else if r.method = .bye then some (respond r 200 (.done (s.finished .callEnded)))
    else none
  | .makeCall _ offer => s.startChange offer
  | .changeCall offer => s.startChange offer
  | _ => none

/-- A change by the peer has been accepted. -/
def inCallAnsweringRule (s : Session) : SessionEvent → Option (Script Outcome)
  | .request r =>
    if r.method = .ack then
      some (.done ({ s.capturing r.body with invite := none, state := .inCall } : Session).consumed)
    else none
  | .endCall => some (s.hangUp (.done (s.finished .callEnded)))
  | _ => none

/-- The peer answers a change. -/
def changeResponse (profile : Profile) (s : Session) (r : Response) : Script Outcome :=
  if isProvisional r.status then .done s.consumed
  else if isSuccess r.status then s.completeChange r
  else if isChallenge r.status then s.authenticate profile r
  else if endsDialog r.status then s.abandonDialog (.done (s.failedWith r))
  else .done (s.failedWith r)

/-- A change has been sent. -/
def inCallChangingRule (profile : Profile) (s : Session) : SessionEvent → Option (Script Outcome)
  | .response r => if r.method = .invite then some (s.changeResponse profile r) else none
  | .endCall =>
    some (s.cancelRequest (.done ({ s with state := .inCallChangingCanceling } : Session).consumed))
  | _ => none

/-- The peer answers a change that is being cancelled. A refusal leaves the call as it was. -/
def cancelledChangeResponse (s : Session) (r : Response) : Script Outcome :=
  if isProvisional r.status then .done s.consumed
  else if isSuccess r.status then s.completeChange r
  else if endsDialog r.status then s.abandonDialog (.done (s.failedWith r))
  else .done ({ s with state := .inCall } : Session).consumed

/-- The own change is being cancelled. -/
def inCallChangingCancelingRule (s : Session) : SessionEvent → Option (Script Outcome)
  | .response r =>
    if r.method = .cancel then some (.done s.consumed)
    else if r.method = .invite then some (s.cancelledChangeResponse r)
    else none
  | _ => none

/-- The rules of the state in which the session is. -/
def stateRule (profile : Profile) (s : Session) (e : SessionEvent) : Option (Script Outcome) :=
  match s.state with
  | .ready => s.readyRule profile e
  | .registering => s.registeringRule profile e
  | .deregistering => s.registeringRule profile e
  | .incomingCall => s.incomingCallRule profile e
  | .incomingCallAnswering => s.incomingCallAnsweringRule e
  | .outgoingCall => s.outgoingCallRule profile e
  | .outgoingCallRingBack => s.outgoingCallRule profile e
  | .outgoingCallCanceling => s.outgoingCallCancelingRule e
  | .inCall => s.inCallRule profile e
  | .inCallAnswering => s.inCallAnsweringRule e
  | .inCallChanging => s.inCallChangingRule profile e
  | .inCallChangingCanceling => s.inCallChangingCancelingRule e

/-! ### Rules for every state -/

/-- A request that the state has no rule for. -/
def strayRequest (s : Session) (r : Request) : Option (Script Outcome) :=
  match r.method with
  | .bye =>
    if s.state.isCall then some (respond r 200 (.done (s.finished .callEnded)))
    else some (respond r 481 (.done s.consumed))
  | .cancel => some (respond r 481 (.done s.consumed))
  | .options => some (respond r 200 (.done s.consumed))
  | .invite => if s.state = .ready then none else some (respond r 486 (.done s.consumed))
  | .ack => none
  | .register => none

/-- The outcome of a timeout of a current transaction. -/
def timedOut (s : Session) : Outcome :=
  if s.state.isRegistration then s.finished .registrationTimeout
  else if s.state = .ready then s.consumed
  else s.failed .timeOut "timed out"

/-- The rules for events that the state has no rule for. -/
def commonRule (s : Session) : SessionEvent → Option (Script Outcome)
  | .request r => s.strayRequest r
  | .timeout t =>
    if s.isCurrentClient t.transaction || s.isCurrentServer t.transaction then
      some (s.abandonDialog (.done s.timedOut))
    else none
  | .transactionTerminated t =>
    if !t.isServer && s.isCurrentClient t.transaction then
      if s.state.awaitsFinalResponse then
        some (.done (s.failed .transactionTerminated "transaction terminated"))
      else some (.done s.consumed)
    else none
  | .dialogTerminated d =>
    if s.isCurrentDialog d && s.state ≠ .ready then
      some (.done (s.failed .clientError "dialog terminated"))
    else some (.done s.consumed)
  | .connectionLost =>
    if s.state = .ready then none
    else some (.done (s.failed .dataConnectionLost "data connection lost"))
  | _ => none

/-! ### The machine -/

/-- The session with the dialog that a message carries. -/
def attaching (s : Session) (e : SessionEvent) : Session :=
  match e.dialog? with
  | some dialog => { s with dialog := some dialog }
  | none => s

/-- How a session that owns a dialog reacts to an event. -/
def dialogScript (profile : Profile) (s : Session) (e : SessionEvent) : Script Outcome :=
  let s := s.attaching e
  match s.stateRule profile e with
  | some script => script
  | none =>
    match s.commonRule e with
    | some script => script
    | none => .done s.refused

/-- The session that takes an invitation in. -/
def takingIn (fresh : SessionId) (r : Request) (tag : Tag) (t : ServerTransaction) : Session :=
  { (idle fresh .dialog).capturing r.body with
    state := .incomingCall, key := some r.callId, peer := some r.sender,
    dialog := some (r.dialog.getD ⟨r.callId, tag, none⟩), serverTransaction := some t,
    invite := some r }

/-- Take an invitation in: alert the user, and let a new session own the dialog. -/
def takeIn (s : Session) (fresh : SessionId) (r : Request) : Script Outcome :=
  .freshTag fun tag =>
    .send (.ringing r tag) fun (t : ServerTransaction) =>
      .done
        { session := s
          processed := true
          reports := [⟨fresh, .ringing r.sender r.body⟩]
          keyChanges := [.bind fresh r.callId]
          spawned := some (takingIn fresh r tag t) }

/-- How a receiver reacts to an event. -/
def receiverScript (s : Session) (fresh : SessionId) : SessionEvent → Script Outcome
  | .request r =>
    match r.method with
    | .invite => s.takeIn fresh r
    | .options => respond r 200 (.done s.consumed)
    | .cancel => respond r 481 (.done s.consumed)
    | .bye => respond r 481 (.done s.consumed)
    | .ack => .done s.refused
    | .register => .done s.refused
  | _ => .done s.refused

/-- How a session reacts to an event. A session that it spawns gets the number `fresh`. -/
def script (profile : Profile) (fresh : SessionId) (s : Session) (e : SessionEvent) :
    Script Outcome :=
  match s.role with
  | .dialog => s.dialogScript profile e
  | .receiver => s.receiverScript fresh e

/-- Feed one event to a session. A network that refuses a command makes the session fail. -/
def process {σ : Type} [Transport σ] (profile : Profile) (fresh : SessionId) (s : Session)
    (e : SessionEvent) (net : σ) : Outcome × σ :=
  match (s.script profile fresh e).run net with
  | (.ok outcome, net) => (outcome, net)
  | (.error cause, net) => (s.transportFailed e cause, net)

end Session

end SipAgent
