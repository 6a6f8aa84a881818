import SipAgent.Session.Step
import SipAgent.Session.Workspace

/-!
# Events handled in place

The session machine as a procedure on a workspace: every field is overwritten, every effect added
and every command given at its place in the order of events. A procedure says whether the event was
consumed; the first command that fails ends it in the middle.
-/

namespace SipAgent

namespace Procedure

variable {σ : Type} [Transport σ]

/-! ### Steps that rules share -/

/-- Acknowledge a final response in the dialog of the session. -/
def sendAck (r : Response) : Procedure σ Unit := do
  match (← session).dialog with
  | some dialog => command (.acknowledge r dialog)
  | none => throw (.noTransaction "no dialog to ACK in")

/-- Hang up in the dialog of the session, if it has one. -/
def sendBye : Procedure σ Unit := do
  match (← session).dialog with
  | some dialog => command (.bye dialog)
  | none => return

/-- Cancel the request of the session, if it has one. -/
def sendCancel : Procedure σ Unit := do
  match (← session).clientTransaction with
  | some t => command (.cancel t)
  | none => return

/-- Answer a request without a body. -/
def sendResponse (r : Request) (status : UInt16) : Procedure σ Unit :=
  command (.respond r status)

/-- The own tag of the session's dialog, or a fresh one. -/
def localTag : Procedure σ Tag := do
  match (← session).dialog with
  | some dialog => return dialog.localTag
  | none => freshTag

/-- Answer a challenge with credentials, unless that has been done often enough or another realm
asks for them. -/
def handleAuthentication (profile : Profile) (r : Response) : Procedure σ Unit := do
  if Session.maxAuthRetries ≤ (← session).authRetries then
    modify (·.fail .invalidCredentials "incorrect username or password")
  else
    match Session.foreignRealm? profile r with
    | some realm => modify (·.fail .crossDomainAuthentication realm)
    | none =>
      let transaction : ClientTransaction ← command (.authenticate r profile.credentials)
      assign fun s => { s with authRetries := s.authRetries + 1 }
      modify (·.bindKey transaction.callId)
      assign fun s => { s with clientTransaction := some transaction }

/-- A change that the peer accepted takes effect. -/
def completeChange (r : Response) : Procedure σ Unit := do
  sendAck r
  modify (·.capture r.body)
  assign fun s => { s with authRetries := 0 }
  assign fun s => { s with state := .inCall }
  modify (·.announce)

/-! ### Rules by state -/

/-- Send a registration, or the end of one. -/
def startRegistration (profile : Profile) (expiry : UInt32) (next : SessionState) :
    Procedure σ Unit := do
  let tag ← freshTag
  let transaction : ClientTransaction ← command (.register profile tag expiry)
  modify (·.bindKey transaction.callId)
  assign fun s => { s with clientTransaction := some transaction }
  assign fun s => { s with authRetries := 0 }
  assign fun s => { s with state := next }
  notify .registering

/-- Idle: the user calls or registers. -/
def ready (profile : Profile) : SessionEvent → Procedure σ Bool
  | .makeCall callee offer => do
    let tag ← freshTag
    let reply : ClientTransaction × Dialog ← command (.invite profile callee offer tag)
    assign fun s => { s with peer := some (.ofUri callee) }
    assign fun s => { s with localDescription := some offer }
    modify (·.bindKey reply.1.callId)
    assign fun s => { s with dialog := some reply.2 }
    assign fun s => { s with clientTransaction := some reply.1 }
    assign fun s => { s with authRetries := 0 }
    assign fun s => { s with state := .outgoingCall }
    notify .calling
    return true
  | .register expiry => do
    startRegistration profile expiry .registering
    return true
  | .deregister => do
    startRegistration profile 0 .deregistering
    return true
  | _ => return false

/-- The registrar answers. -/
def registrationResponse (profile : Profile) (r : Response) : Procedure σ Unit := do
  if Session.isProvisional r.status then return
  else if Session.isSuccess r.status then
    let duration := (← session).grantedDuration r
    modify (·.reset)
    notify (.registrationDone duration)
  else if Session.isChallenge r.status then handleAuthentication profile r
  else modify (·.fail (if 500 ≤ r.status then .serverError else .ofStatus r.status) r.summary)

/-- A registration exchange is under way. -/
def registering (profile : Profile) : SessionEvent → Procedure σ Bool
  | .response r =>
    if r.method = .register then do
      registrationResponse profile r
      return true
    else return false
  | _ => return false

/-- Accept the invitation that came in. -/
def answerCall (profile : Profile) (invite : Request) (answer : Octets) : Procedure σ Unit := do
  let transaction := (← session).serverTransaction.getD invite.serverTransaction
  let tag ← localTag
  let dialog : Dialog ← command (.acceptInvite invite profile answer tag transaction)
  assign fun s => { s with dialog := some dialog }
  assign fun s => { s with serverTransaction := some transaction }
  assign fun s => { s with localDescription := some answer }
  assign fun s => { s with state := .incomingCallAnswering }

/-- An invitation has come in: the user accepts or rejects it, or the peer takes it back. -/
def incomingCall (profile : Profile) (e : SessionEvent) : Procedure σ Bool := do
  match (← session).invite, e with
  | some invite, .answerCall answer =>
    answerCall profile invite answer
    return true
  | some invite, .endCall =>
    sendResponse invite 486
    modify (·.endCall)
    return true
  | some invite, .request r =>
    if r.method = .cancel then
      sendResponse r 200
      sendResponse invite 487
      modify (·.endCall)
      return true
    else return false
  | _, _ => return false

/-- The acknowledgement of an accepted invitation arrives. -/
def confirmCall (r : Request) : Procedure σ Unit := do
  modify (·.capture r.body)
  if (← session).peerDescription = none then modify (·.fail .clientError "peer sdp is empty")
  else modify (·.establishCall)

/-- An invitation has been accepted. -/
def incomingCallAnswering : SessionEvent → Procedure σ Bool
  | .request r =>
    if r.method = .ack then do
      confirmCall r
      return true
    else if r.method = .cancel then do
      sendResponse r 200
      return true
    else return false
  | .endCall => do
    sendBye
    modify (·.endCall)
    return true
  | _ => return false

/-- The invited peer answers. -/
def inviteResponse (profile : Profile) (r : Response) : Procedure σ Unit := do
  if Session.isAlerting r.status then
    if (← session).state = .outgoingCall then
      assign fun s => { s with state := .outgoingCallRingBack }
      notify .ringingBack
  else if Session.isProvisional r.status then return
  else if Session.isSuccess r.status then
    sendAck r
    assign fun s => { s with peerDescription := some r.body }
    modify (·.establishCall)
  else if Session.isChallenge r.status then handleAuthentication profile r
  else if r.status = 491 then return
  else modify (·.failWith r)

/-- An own invitation is under way. -/
def outgoingCall (profile : Profile) : SessionEvent → Procedure σ Bool
  | .response r =>
    if r.method = .invite then do
      inviteResponse profile r
      return true
    else return false
  | .endCall => do
    sendCancel
    assign fun s => { s with state := .outgoingCallCanceling }
    return true
  | _ => return false

/-- The invited peer answers although the invitation is being cancelled. A call that came up in
the meantime is ended at once. -/
def cancelledInviteResponse (r : Response) : Procedure σ Unit := do
  if Session.isProvisional r.status then return
  else if Session.isSuccess r.status then
    sendAck r
    sendBye
    modify (·.endCall)
  else if r.status = 487 then modify (·.endCall)
  else modify (·.failWith r)

/-- The peer answers the cancellation of an invitation. Unless it refuses, the answer to the
invitation is still to come. -/
def cancelResponse (r : Response) : Procedure σ Unit := do
  if 400 ≤ r.status then modify (·.failWith r)

/-- The own invitation is being cancelled. -/
def outgoingCallCanceling : SessionEvent → Procedure σ Bool
  | .response r =>
    if r.method = .cancel then do
      cancelResponse r
      return true
    else if r.method = .invite then do
      cancelledInviteResponse r
      return true
    else return false
  | _ => return false

/-- Accept a change by the peer, with the description that is in force. -/
def acceptChange (profile : Profile) (r : Request) : Procedure σ Unit := do
  let transaction := r.serverTransaction
  let answer := (← session).localDescription.getD []
  let tag ← localTag
  let dialog : Dialog ← command (.acceptInvite r profile answer tag transaction)
  modify (·.capture r.body)
  assign fun s => { s with dialog := some dialog }
  assign fun s => { s with invite := some r }
  assign fun s => { s with serverTransaction := some transaction }
  assign fun s => { s with state := .inCallAnswering }
  notify (.callChanged r.body)

/-- Send a change. -/
def startChange (offer : Octets) : Procedure σ Bool := do
  match (← session).dialog with
  | none => return false
  | some dialog =>
    let transaction : ClientTransaction ← command (.reinvite dialog offer)
    assign fun s => { s with clientTransaction := some transaction }
    assign fun s => { s with authRetries := 0 }
    assign fun s => { s with localDescription := some offer }
    assign fun s => { s with state := .inCallChanging }
    return true

/-- The call is up. -/
def inCall (profile : Profile) : SessionEvent → Procedure σ Bool
  | .endCall => do
    sendBye
    modify (·.endCall)
    return true
  | .request r =>
    if r.method = .invite then do
      acceptChange profile r
      return true
    else if r.method = .bye then do
      sendResponse r 200
      modify (·.endCall)
      return true
    else return false
  | .makeCall _ offer => startChange offer
  | .changeCall offer => startChange offer
  | _ => return false

/-- A change by the peer has been accepted. -/
def inCallAnswering : SessionEvent → Procedure σ Bool
  | .request r =>
    if r.method = .ack then do
      modify (·.capture r.body)
      assign fun s => { s with invite := none }
      assign fun s => { s with state := .inCall }
      return true
    else return false
  | .endCall => do
    sendBye
    modify (·.endCall)
    return true
  | _ => return false

/-- The peer answers a change. -/
def changeResponse (profile : Profile) (r : Response) : Procedure σ Unit := do
  if Session.isProvisional r.status then return
  else if Session.isSuccess r.status then completeChange r
  else if Session.isChallenge r.status then handleAuthentication profile r
  else if Session.endsDialog r.status then modify (·.terminate r)
  else modify (·.failWith r)

/-- A change has been sent. -/
def inCallChanging (profile : Profile) : SessionEvent → Procedure σ Bool
  | .response r =>
    if r.method = .invite then do
      changeResponse profile r
      return true
    else return false
  | .endCall => do
    sendCancel
    assign fun s => { s with state := .inCallChangingCanceling }
    return true
  | _ => return false

/-- The peer answers a change that is being cancelled. A refusal leaves the call as it was. -/
def cancelledChangeResponse (r : Response) : Procedure σ Unit := do
  if Session.isProvisional r.status then return
  else if Session.isSuccess r.status then completeChange r
  else if Session.endsDialog r.status then modify (·.terminate r)
  else assign fun s => { s with state := .inCall }

/-- The own change is being cancelled. -/
def inCallChangingCanceling : SessionEvent → Procedure σ Bool
  | .response r =>
    if r.method = .cancel then return true
    else if r.method = .invite then do
      cancelledChangeResponse r
      return true
    else return false
  | _ => return false

/-- The rules of the state in which the session is. -/
def inState (profile : Profile) (e : SessionEvent) : Procedure σ Bool := do
  match (← session).state with
  | .ready => ready profile e
  | .registering => registering profile e
  | .deregistering => registering profile e
  | .incomingCall => incomingCall profile e
  | .incomingCallAnswering => incomingCallAnswering e
  | .outgoingCall => outgoingCall profile e
  | .outgoingCallRingBack => outgoingCall profile e
  | .outgoingCallCanceling => outgoingCallCanceling e
  | .inCall => inCall profile e
  | .inCallAnswering => inCallAnswering e
  | .inCallChanging => inCallChanging profile e
  | .inCallChangingCanceling => inCallChangingCanceling e

/-! ### Rules for every state -/

/-- A request that the state has no rule for. -/
def strayRequest (r : Request) : Procedure σ Bool := do
  match r.method with
  | .bye =>
    if (← session).state.isCall then
      sendResponse r 200
      modify (·.endCall)
      return true
    else
      sendResponse r 481
      return true
  | .cancel =>
    sendResponse r 481
    return true
  | .options =>
    sendResponse r 200
    return true
  | .invite =>
    if (← session).state = .ready then return false
    else
      sendResponse r 486
      return true
  | .ack => return false
  | .register => return false

/-- The current transaction has ended. -/
def endTransaction : Procedure σ Unit := do
  if (← session).state.awaitsFinalResponse then
    modify (·.fail .transactionTerminated "transaction terminated")

/-- A dialog has ended, not necessarily the current one. -/
def endDialog (d : Dialog) : Procedure σ Unit := do
  let s ← session
  if s.isCurrentDialog d && s.state ≠ .ready then modify (·.fail .clientError "dialog terminated")

/-- The rules for events that the state has no rule for. -/
def exceptions : SessionEvent → Procedure σ Bool
  | .request r => strayRequest r
  | .timeout t => do
    let s ← session
    if s.isCurrentClient t.transaction || s.isCurrentServer t.transaction then
      modify (·.timeOut)
      return true
    else return false
  | .transactionTerminated t => do
    let s ← session
    if !t.isServer && s.isCurrentClient t.transaction then
      endTransaction
      return true
    else return false
  | .dialogTerminated d => do
    endDialog d
    return true
  | .connectionLost => do
    if (← session).state = .ready then return false
    else
      modify (·.fail .dataConnectionLost "data connection lost")
      return true
  | _ => return false

/-! ### The machine -/

/-- Attach the dialog that a message carries. -/
def attach (e : SessionEvent) : Procedure σ Unit :=
  match e.dialog? with
  | some dialog => assign fun s => { s with dialog := some dialog }
  | none => return

/-- A session that owns a dialog handles an event. -/
def inDialog (profile : Profile) (e : SessionEvent) : Procedure σ Bool := do
  attach e
  if ← inState profile e then return true
  else exceptions e

/-- A new session takes an invitation in. -/
def acceptInvite (r : Request) : Procedure σ Unit := do
  let tag ← freshTag
  let transaction : ServerTransaction ← command (.ringing r tag)
  assign fun s => { s with dialog := some (r.dialog.getD ⟨r.callId, tag, none⟩) }
  assign fun s => { s with serverTransaction := some transaction }
  assign fun s => { s with invite := some r }
  assign fun s => { s with peer := some r.sender }
  modify (·.capture r.body)
  modify (·.bindKey r.callId)
  assign fun s => { s with state := .incomingCall }
  notify (.ringing r.sender r.body)

/-- A receiver handles an event. -/
def asReceiver (fresh : SessionId) : SessionEvent → Procedure σ Bool
  | .request r =>
    match r.method with
    | .invite => do
      let incoming ← onSession (Session.idle fresh .dialog) (acceptInvite r)
      modify (·.spawn incoming)
      return true
    | .options => do
      sendResponse r 200
      return true
    | .cancel => do
      sendResponse r 481
      return true
    | .bye => do
      sendResponse r 481
      return true
    | .ack => return false
    | .register => return false
  | _ => return false

/-- Whatever a session is for, it handles an event. -/
def inRole (profile : Profile) (fresh : SessionId) (e : SessionEvent) : Procedure σ Bool := do
  match (← session).role with
  | .receiver => asReceiver fresh e
  | .dialog => inDialog profile e

end Procedure

/-- Handle one event, and say whether it was consumed. If a command fails, the session fails with
whatever it has become by then. -/
def Workspace.handle {σ : Type} [Transport σ] (profile : Profile) (fresh : SessionId)
    (e : SessionEvent) (w : Workspace σ) : Bool × Workspace σ :=
  match Procedure.inRole profile fresh e w with
  | .ok processed w => (processed, w)
  | .error cause w => (true, w.failTransport e cause)

end SipAgent
