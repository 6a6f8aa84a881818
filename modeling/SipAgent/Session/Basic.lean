import SipAgent.Error
import SipAgent.Session.Event
import SipAgent.Session.State

/-!
# Sessions

A session is one dialog's worth of state: where it stands, the key under which signals reach it, and
the handles and media descriptions of its current call or registration. An idle session has none of
these. What a session does with one event is an `Outcome`: the session afterwards, and what others
have to know.
-/

namespace SipAgent

/-- What a session is for. -/
inductive Role where
  /-- Owns at most one dialog at a time. -/
  | dialog
  /-- Turns invitations that no session owns into sessions. -/
  | receiver
  deriving DecidableEq, Repr

/-- A session. -/
structure Session where
  id : SessionId
  role : Role
  state : SessionState
  /-- The key under which signals reach the session. -/
  key : Option CallId
  peer : Option Peer
  dialog : Option Dialog
  clientTransaction : Option ClientTransaction
  serverTransaction : Option ServerTransaction
  /-- The invitation that is being answered. -/
  invite : Option Request
  peerDescription : Option Octets
  localDescription : Option Octets
  /-- The challenges answered for the current request. -/
  authRetries : Nat
  deriving DecidableEq, Repr

/-- What a session does with one event. -/
structure Outcome where
  /-- The session afterwards. -/
  session : Session
  /-- Whether the event was consumed. -/
  processed : Bool
  reports : List Report
  keyChanges : List KeyChange
  /-- The session that took an invitation in. -/
  spawned : Option Session
  deriving DecidableEq, Repr

namespace Session

/-- An idle session. -/
def idle (id : SessionId) (role : Role) : Session where
  id := id
  role := role
  state := .ready
  key := none
  peer := none
  dialog := none
  clientTransaction := none
  serverTransaction := none
  invite := none
  peerDescription := none
  localDescription := none
  authRetries := 0

/-- The session back in its idle state. -/
def cleared (s : Session) : Session :=
  idle s.id s.role

/-- The session found under another key. -/
def withKey (s : Session) (key : CallId) : Session :=
  { s with key := some key }

/-- The changes that let go of the session's key. -/
def unbound (s : Session) : List KeyChange :=
  match s.key with
  | some key => [.unbind s.id key]
  | none => []

/-- The changes that put the session under a key; none if it is there already. -/
def rebound (s : Session) (key : CallId) : List KeyChange :=
  if s.key = some key then [] else s.unbound ++ [.bind s.id key]

/-- The session with the description in a body, unless the body is empty. -/
def capturing (s : Session) (body : Octets) : Session :=
  if body = [] then s else { s with peerDescription := some body }

/-- Whether a transaction is the session's current one on the client side. -/
def isCurrentClient (s : Session) (id : TransactionId) : Bool :=
  match s.clientTransaction with
  | some t => t.id = id
  | none => false

/-- Whether a transaction is the session's current one on the server side. -/
def isCurrentServer (s : Session) (id : TransactionId) : Bool :=
  match s.serverTransaction with
  | some t => t.id = id
  | none => false

/-- Whether a dialog is the session's current one. -/
def isCurrentDialog (s : Session) (d : Dialog) : Bool :=
  match s.dialog with
  | some current => current.callId = d.callId && current.localTag = d.localTag
  | none => false

/-! ### Outcomes -/

/-- The event is consumed, and nobody has to know. -/
def consumed (s : Session) : Outcome :=
  ⟨s, true, [], [], none⟩

/-- The event is not consumed. -/
def refused (s : Session) : Outcome :=
  ⟨s, false, [], [], none⟩

/-- The event is consumed, and the listener is told. -/
def telling (s : Session) (notice : Notice) : Outcome :=
  ⟨s, true, [⟨s.id, notice⟩], [], none⟩

/-- The session goes back to its idle state and lets go of its key; nobody is told. -/
def reset (s : Session) : Outcome :=
  ⟨s.cleared, true, [], s.unbound, none⟩

/-- The session goes back to its idle state, lets go of its key, and the listener is told. -/
def finished (s : Session) (notice : Notice) : Outcome :=
  ⟨s.cleared, true, [⟨s.id, notice⟩], s.unbound, none⟩

/-- The notice of a failure, in the words of registration or of calls. -/
def failureNotice (registration : Bool) (code : ErrorCode) (message : String) : Notice :=
  if registration then .registrationFailed code message else .error code message

/-- The session fails. -/
def failed (s : Session) (code : ErrorCode) (message : String) : Outcome :=
  s.finished (failureNotice s.state.isRegistration code message)

/-- The session fails with the final response that it got. A busy peer is no failure while the
call is not up. -/
def failedWith (s : Session) (r : Response) : Outcome :=
  if !s.state.isInCall && r.status = 486 then s.finished .callBusy
  else s.failed (.ofStatus r.status) r.summary

/-- The call is up. -/
def established (s : Session) : Outcome :=
  let s := { s with state := .inCall, authRetries := 0 }
  s.telling (.callEstablished (s.peerDescription.getD []))

/-- The network refused a command that the event called for. -/
def transportFailed (s : Session) (e : SessionEvent) (cause : TransportError) : Outcome :=
  let code :=
    match cause with
    | .unreachable _ => ErrorCode.serverUnreachable
    | _ => ErrorCode.socketError
  s.finished (failureNotice (s.state.isRegistration || e.isRegistration) code cause.message)

end Session

end SipAgent
