import SipAgent.Session.Basic
import SipAgent.Transport.Command

/-!
# Sessions at work

A session handles an event in place: it overwrites one field after the other, adds to what others
have to know, and gives commands to the network in between. A `Workspace` is what it works on. The
steps of this module cannot fail; a `Procedure` can, and leaves the workspace as it is at that
moment.
-/

namespace SipAgent

/-- What others have to know, as far as it has been gathered. -/
structure Effects where
  reports : List Report
  keyChanges : List KeyChange
  spawned : List Session
  deriving DecidableEq

/-- Nothing has been gathered. -/
def Effects.none : Effects :=
  ⟨[], [], []⟩

/-- A session, the effects of its work, and the network. -/
structure Workspace (σ : Type) where
  session : Session
  effects : Effects
  network : σ

namespace Workspace

variable {σ : Type}

/-- Overwrite fields of the session. -/
def assign (f : Session → Session) (w : Workspace σ) : Workspace σ :=
  { w with session := f w.session }

/-- Tell the listener. -/
def notify (notice : Notice) (w : Workspace σ) : Workspace σ :=
  { w with effects.reports := w.effects.reports ++ [⟨w.session.id, notice⟩] }

def changeKey (change : KeyChange) (w : Workspace σ) : Workspace σ :=
  { w with effects.keyChanges := w.effects.keyChanges ++ [change] }

def spawn (s : Session) (w : Workspace σ) : Workspace σ :=
  { w with effects.spawned := w.effects.spawned ++ [s] }

/-- Let go of the key of the session, if it has one. -/
def releaseKey (w : Workspace σ) : Workspace σ :=
  match w.session.key with
  | some key =>
    (w.assign fun s => { s with key := none }).changeKey (.unbind w.session.id key)
  | none => w

/-- Put the session under a key, unless it is there already. -/
def bindKey (key : CallId) (w : Workspace σ) : Workspace σ :=
  if w.session.key = some key then w
  else
    (w.releaseKey.changeKey (.bind w.session.id key)).assign fun s => { s with key := some key }

/-- Clear every field of the current call or registration. -/
def reset (w : Workspace σ) : Workspace σ :=
  w.releaseKey.assign fun s =>
    { s with
      state := .ready, peer := none, dialog := none, clientTransaction := none,
      serverTransaction := none, invite := none, peerDescription := none,
      localDescription := none, authRetries := 0 }

/-- Keep the description in a body, unless the body is empty. -/
def capture (body : Octets) (w : Workspace σ) : Workspace σ :=
  if body = [] then w else w.assign fun s => { s with peerDescription := some body }

/-- The listener hears the description of the peer. -/
def announce (w : Workspace σ) : Workspace σ :=
  w.notify (.callEstablished (w.session.peerDescription.getD []))

/-- The call is up. -/
def establishCall (w : Workspace σ) : Workspace σ :=
  w.assign (fun s => { s with state := .inCall })
    |>.assign (fun s => { s with authRetries := 0 })
    |>.announce

/-- The call is over. -/
def endCall (w : Workspace σ) : Workspace σ :=
  w.reset.notify .callEnded

/-- The session fails. Whether a registration was under way is looked up before the reset. -/
def fail (code : ErrorCode) (message : String) (w : Workspace σ) : Workspace σ :=
  let registration := w.session.state.isRegistration
  w.reset.notify
    (if registration then .registrationFailed code message else .error code message)

/-- The session fails with the final response that it got. -/
def failWith (r : Response) (w : Workspace σ) : Workspace σ :=
  if !w.session.state.isInCall && r.status = 486 then w.reset.notify .callBusy
  else w.fail (.ofStatus r.status) r.summary

/-- A command has failed in the middle of a procedure. -/
def failTransport (e : SessionEvent) (cause : TransportError) (w : Workspace σ) : Workspace σ :=
  let registration := w.session.state.isRegistration || e.isRegistration
  let code :=
    match cause with
    | .unreachable _ => ErrorCode.serverUnreachable
    | _ => ErrorCode.socketError
  w.reset.notify
    (if registration then .registrationFailed code cause.message else .error code cause.message)

/-- Give up the dialog of the session, if it has one; it does not matter whether that works. -/
def giveUpDialog [Transport σ] (w : Workspace σ) : Workspace σ :=
  match w.session.dialog with
  | some dialog => { w with network := (Transport.perform (.terminateDialog dialog) w.network).2 }
  | none => w

/-- The peer refused a request in a way that ends the dialog too. -/
def terminate [Transport σ] (r : Response) (w : Workspace σ) : Workspace σ :=
  w.giveUpDialog.failWith r

/-- A current transaction has timed out. -/
def timeOut [Transport σ] (w : Workspace σ) : Workspace σ :=
  let w := w.giveUpDialog
  if w.session.state.isRegistration then w.reset.notify .registrationTimeout
  else if w.session.state = .ready then w
  else w.fail .timeOut "timed out"

end Workspace

/-! ### Procedures -/

/-- Steps on a workspace that a refused command cuts short. What was done before stays done. -/
abbrev Procedure (σ α : Type) : Type :=
  EStateM TransportError (Workspace σ) α

namespace Procedure

variable {σ α : Type} [Transport σ]

/-- Give a command to the network. -/
def command (c : Command) : Procedure σ c.Reply := fun w =>
  match Transport.perform c w.network with
  | (.ok reply, network) => .ok reply { w with network := network }
  | (.error cause, network) => .error cause { w with network := network }

/-- Draw a tag. -/
def freshTag : Procedure σ Tag := fun w =>
  let (tag, network) := Transport.freshTag w.network
  .ok tag { w with network := network }

/-- The session as it is now. -/
def session : Procedure σ Session := do
  return (← get).session

/-- Overwrite fields of the session. -/
def assign (f : Session → Session) : Procedure σ Unit :=
  modify (·.assign f)

/-- Tell the listener. -/
def notify (notice : Notice) : Procedure σ Unit :=
  modify (·.notify notice)

/-- Work on another session for a while; the own one comes back untouched. -/
def onSession (s : Session) (p : Procedure σ Unit) : Procedure σ Session := fun w =>
  match p { w with session := s } with
  | .ok () w' => .ok w'.session { w' with session := w.session }
  | .error cause w' => .error cause { w' with session := w.session }

end Procedure

end SipAgent
