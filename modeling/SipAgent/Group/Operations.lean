import SipAgent.Group.Supervisor

/-!
# Using a group

What an application does with a group: create sessions and give them commands, receive calls, pass
on the signals of the network, look sessions up, let time pass, and close the group.
-/

namespace SipAgent

namespace Group

variable {σ : Type}

/-! ### Sessions -/

/-- A new idle session. It gets a key once it has something to do. -/
def createSession (g : Group σ) (listener : Listener) : Except AgentError (SessionId × Group σ) :=
  if g.closed then .error .groupClosed
  else .ok (g.addSession .dialog (.listener listener))

/-- Why a session did not accept a command. -/
def refusal (g : Group σ) (id : SessionId) (e : SessionEvent) : AgentError :=
  .invalidStateTransition (e.name ++ " not allowed in " ++ (g.stateOf id).name)

/-- Give a session a command. -/
def command [Transport σ] (g : Group σ) (id : SessionId) (e : SessionEvent) :
    Change σ (Except AgentError Unit) :=
  if g.closed then ⟨g, [], .error .groupClosed⟩
  else
    let change := g.dispatch id e
    if change.result then ⟨change.group, change.deliveries, .ok ()⟩
    else ⟨change.group, change.deliveries, .error (change.group.refusal id e)⟩

/-- Let a session report to a listener from now on. -/
def setListener (g : Group σ) (id : SessionId) (listener : Listener) : Group σ :=
  g.setAddressee id (.listener listener)

/-- Let a receiver take in the calls that no session owns; each becomes a session that reports to
the listener. -/
def openToCalls (g : Group σ) (listener : Listener) : Except AgentError (Group σ) :=
  if g.closed then .error .groupClosed
  else
    let (id, g) := g.addSession .receiver (.listener listener)
    .ok { g with registry := g.registry.setReceiver id }

/-- Take in no more calls. -/
def closeToCalls (g : Group σ) : Group σ :=
  { g with registry := g.registry.clearReceiver }

/-- Pass a signal to the session that owns its key, else to the receiver. The result tells whether
a session consumed it. -/
def processSignal [Transport σ] (g : Group σ) (signal : Signal) : Change σ Bool :=
  if g.closed then ⟨g, [], false⟩
  else
    match g.registry.resolve signal.key with
    | none => ⟨g, [], false⟩
    | some id => g.dispatch id (.ofSignal signal)

/-! ### Looking up -/

/-- Whether a session owns a key. -/
def containsSession (g : Group σ) (key : CallId) : Bool :=
  g.registry.contains key

/-- The session that owns a key. -/
def sessionFor (g : Group σ) (key : CallId) : Option SessionId :=
  g.registry.get? key

/-- The number of keys that have an owner. -/
def sessionCount (g : Group σ) : Nat :=
  g.registry.size

/-- Whether a registration holds. -/
def isRegistered (g : Group σ) : Bool :=
  g.supervisor.registered

/-! ### Time -/

/-- The clock goes on. -/
def tick (g : Group σ) (milliseconds : Nat) : Group σ :=
  { g with now := g.now + milliseconds }

/-- The alarm of the timer rings; the result is the wake-up that has come due, if one has. -/
def ringAlarm (g : Group σ) : Option WakeupCall × Group σ :=
  let (woken, timer, _) := g.timer.ring g.now
  (woken.map (·.callback), { g with timer := timer })

/-- Stop the timer for good. -/
def stopTimer (g : Group σ) : Group σ :=
  { g with timer := g.timer.stop.1 }

/-! ### Closing -/

/-- Stop supervising and forget every session; from now on commands fail and signals are dropped. -/
def close [Transport σ] (g : Group σ) : Change σ Unit :=
  if g.closed then ⟨g, [], ()⟩
  else
    let change := g.stopRegistration
    ⟨{ change.group with closed := true, registry := .empty }, change.deliveries, ()⟩

end Group

end SipAgent
