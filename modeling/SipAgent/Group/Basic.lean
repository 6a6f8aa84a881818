import SipAgent.Registration.Backoff
import SipAgent.Registry
import SipAgent.Session.Step
import SipAgent.Settings.Basic
import SipAgent.Timer

/-!
# Groups

A group holds all sessions of one local identity over one network: the sessions with the listeners
they report to, the registry by which signals find them, the supervisor that keeps the identity
registered, and the timer that wakes the supervisor up. Every operation on a group takes effect at
once; the notices it causes are handed over afterwards, one at a time, so a listener that is told
something may use the group again.
-/

namespace SipAgent

/-! ### Listeners -/

/-- A listener of the application. -/
inductive Listener where
  /-- Nobody listens. -/
  | nobody
  | named (name : String)
  deriving DecidableEq, Repr

/-- Whom a session reports to. -/
inductive Addressee where
  | listener (l : Listener)
  /-- The supervisor of the registration. -/
  | supervisor
  deriving DecidableEq, Repr

/-- A session, and whom it reports to. -/
structure Cell where
  session : Session
  addressee : Addressee
  deriving DecidableEq

/-- A notice that has still to be handed over. -/
structure Delivery where
  addressee : Addressee
  session : SessionId
  notice : Notice
  deriving DecidableEq

/-! ### The supervisor -/

/-- What the timer wakes the supervisor up for. -/
inductive WakeupCall where
  /-- Refresh the registration, or try it again. -/
  | refresh
  /-- Send a keepalive, as the process with this number. -/
  | keepalive (process : Nat)
  deriving DecidableEq, Repr

/-- The state of the supervisor. -/
structure Supervisor where
  running : Bool
  registered : Bool
  /-- The moment at which the registration ends. -/
  expiresAt : Option Nat
  backoff : Backoff
  lastError : Option (ErrorCode × String)
  /-- The session that registers; it is kept once there is one. -/
  session : Option SessionId
  /-- The keepalive process that is running. -/
  keepalive : Option Nat
  /-- The listener that is told how the registration goes. -/
  listener : Listener
  deriving DecidableEq

/-! ### Groups -/

/-- All sessions of one local identity over one network. -/
structure Group (σ : Type) where
  profile : Profile
  settings : RegistrationSettings
  network : σ
  /-- The sessions; the number of a session is its position. -/
  cells : List Cell
  registry : Registry SessionId
  closed : Bool
  /-- The data connection is up. -/
  connected : Bool
  supervisor : Supervisor
  timer : Timer WakeupCall
  /-- The number of keepalive processes started so far. -/
  keepalives : Nat
  /-- The clock, in milliseconds. -/
  now : Nat

/-- What an operation leaves: the group, the notices to hand over, and a result. -/
structure Change (σ α : Type) where
  group : Group σ
  deliveries : List Delivery
  result : α

namespace Group

variable {σ : Type}

/-- A group without sessions. -/
def start (profile : Profile) (settings : RegistrationSettings) (network : σ) : Group σ where
  profile := profile
  settings := settings
  network := network
  cells := []
  registry := .empty
  closed := false
  connected := true
  supervisor :=
    { running := false
      registered := false
      expiresAt := none
      backoff := .ofBase settings.shortExpiry settings.maxBackoff
      lastError := none
      session := none
      keepalive := none
      listener := .nobody }
  timer := .empty
  keepalives := 0
  now := 0

/-- The session with a number. -/
def session? (g : Group σ) (id : SessionId) : Option Session :=
  g.cells[id]?.map (·.session)

/-- The state of a session; one that does not exist is idle. -/
def stateOf (g : Group σ) (id : SessionId) : SessionState :=
  match g.session? id with
  | some s => s.state
  | none => .ready

/-- Add an idle session. -/
def addSession (g : Group σ) (role : Role) (addressee : Addressee) : SessionId × Group σ :=
  let id := g.cells.length
  (id, { g with cells := g.cells ++ [⟨.idle id role, addressee⟩] })

/-- Let a session report to someone else from now on. -/
def setAddressee (g : Group σ) (id : SessionId) (addressee : Addressee) : Group σ :=
  match g.cells[id]? with
  | some cell => { g with cells := g.cells.set id { cell with addressee := addressee } }
  | none => g

/-! ### Running a session -/

/-- Change the registry as a session asks. -/
def applyKeyChange (r : Registry SessionId) : KeyChange → Registry SessionId
  | .bind session key => r.insert key session
  | .unbind session key => r.remove key session

/-- The cell of a session among the cells that an event concerned. -/
def concerned? (cells : List Cell) (id : SessionId) : Option Cell :=
  cells.find? fun cell => cell.session.id = id

/-- Change the registry for a session among the cells that an event concerned; a change for any
other session is dropped. -/
def applyConcerned (cells : List Cell) (r : Registry SessionId) (change : KeyChange) :
    Registry SessionId :=
  match concerned? cells change.session with
  | some _ => applyKeyChange r change
  | none => r

/-- The delivery of a report to whom its session reports to; a report of a session that is not among
the cells that an event concerned is dropped. -/
def delivery? (cells : List Cell) (report : Report) : Option Delivery :=
  (concerned? cells report.session).map fun cell =>
    ⟨cell.addressee, report.session, report.notice⟩

/-- Feed one event to a session, and carry out what it asks for. The result tells whether the
session consumed the event. A session that it spawns reports to whom it reports itself. -/
def dispatch [Transport σ] (g : Group σ) (id : SessionId) (e : SessionEvent) : Change σ Bool :=
  match g.cells[id]? with
  | none => ⟨g, [], false⟩
  | some cell =>
    let (outcome, network) := cell.session.process g.profile g.cells.length e g.network
    let fed : Cell := { cell with session := outcome.session }
    let spawned := outcome.spawned.toList.map fun s => (⟨s, cell.addressee⟩ : Cell)
    { group :=
        { g with
          network := network, cells := g.cells.set id fed ++ spawned,
          registry := outcome.keyChanges.foldl (applyConcerned (fed :: spawned)) g.registry }
      deliveries := outcome.reports.filterMap (delivery? (fed :: spawned))
      result := outcome.processed }

/-! ### Wake-ups -/

/-- Take back the wake-ups for a call. -/
def cancelWakeup (g : Group σ) (call : WakeupCall) : Group σ :=
  { g with timer := (g.timer.cancel call).1 }

/-- Set a wake-up for a call in some seconds; a stopped timer is left as it is. -/
def setWakeup (g : Group σ) (seconds : Nat) (call : WakeupCall) : Group σ :=
  match g.timer.set g.now (seconds * 1000) call with
  | some (timer, _) => { g with timer := timer }
  | none => g

end Group

end SipAgent
