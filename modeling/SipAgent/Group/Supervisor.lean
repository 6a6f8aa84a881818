import SipAgent.Group.Basic

/-!
# The supervisor of the registration

The supervisor keeps the local identity registered. It starts by clearing what an earlier run left
behind, then registers; it refreshes a registration before its end, tries a failed one again after a
growing delay, and sends keepalives while a registration holds behind an address translator. It
gives up when the credentials are wrong or the server cannot be reached, and waits while the data
connection is down.

One clock serves for two: the agent notes the end of a registration as a time of day, and its
wake-ups go by a clock that is never set. Here the time of day is never set either, so the seconds
that are left of a registration (`secondsUntil`) are counted on the clock of the wake-ups.
-/

namespace SipAgent

namespace Group

variable {σ : Type}

/-! ### Scheduling -/

/-- Let the next refresh be the only one, in some seconds. -/
def scheduleRefresh (g : Group σ) (seconds : Nat) : Group σ :=
  (g.cancelWakeup .refresh).setWakeup seconds .refresh

/-- Try the registration again after the next delay, if there is a point in it. -/
def scheduleRetry (g : Group σ) : Group σ :=
  if g.supervisor.running && g.connected then
    let backoff := g.supervisor.backoff
    let g := { g with supervisor := { g.supervisor with backoff := backoff.advance } }
    g.scheduleRefresh backoff.delay.toNat
  else g

/-- Stop the keepalive process. -/
def stopKeepalive (g : Group σ) : Group σ :=
  match g.supervisor.keepalive with
  | some process =>
    let g := { g with supervisor := { g.supervisor with keepalive := none } }
    g.cancelWakeup (.keepalive process)
  | none => g

/-- Start a keepalive process, unless one is running or none is needed. -/
def startKeepalive [Transport σ] (g : Group σ) : Group σ :=
  if g.supervisor.keepalive.isSome then g
  else if g.profile.sendKeepalive || (Transport.localAddress g.network).isTranslated then
    let process := g.keepalives
    let g :=
      { g with
        supervisor := { g.supervisor with keepalive := some process }, keepalives := process + 1 }
    g.setWakeup g.settings.keepalivePeriod (.keepalive process)
  else g

/-- Stop supervising, for the time being or for good. -/
def pause (g : Group σ) : Group σ :=
  let g :=
    { g with
      supervisor := { g.supervisor with running := false, registered := false, expiresAt := none } }
  (g.cancelWakeup .refresh).stopKeepalive

/-! ### Starting and stopping -/

/-- The session that registers, and the group that has it. -/
def registrationSession (g : Group σ) : SessionId × Group σ :=
  match g.supervisor.session with
  | some id => (id, g)
  | none =>
    let (id, g) := g.addSession .dialog .supervisor
    (id, { g with supervisor := { g.supervisor with session := some id } })

/-- Start supervising and report to a listener. A supervisor that is running only gets the new
listener. -/
def startRegistration [Transport σ] (g : Group σ) (listener : Listener) :
    Change σ (Except AgentError Unit) :=
  if g.closed then ⟨g, [], .error .groupClosed⟩
  else
    let g := { g with supervisor := { g.supervisor with listener := listener } }
    if g.supervisor.running then ⟨g, [], .ok ()⟩
    else
      let supervisor :=
        { g.supervisor with
          running := true, registered := false, expiresAt := none, lastError := none,
          backoff := g.supervisor.backoff.reset }
      let (id, g) := { g with supervisor := supervisor }.registrationSession
      let g := g.setAddressee id .supervisor
      if g.connected then
        let change := g.dispatch id .deregister
        if change.result then ⟨change.group, change.deliveries, .ok ()⟩
        else ⟨change.group.scheduleRetry, change.deliveries, .ok ()⟩
      else ⟨g, [], .ok ()⟩

/-- Stop supervising; a registration that holds is ended, and nobody is told. -/
def stopRegistration [Transport σ] (g : Group σ) : Change σ Unit :=
  if g.supervisor.running then
    let registered := g.supervisor.registered
    let g := g.pause
    let g := { g with supervisor := { g.supervisor with lastError := none } }
    match g.supervisor.session with
    | none => ⟨g, [], ()⟩
    | some id =>
      let g := g.setAddressee id (.listener .nobody)
      if registered && g.connected then
        let change := g.dispatch id .deregister
        ⟨change.group, change.deliveries, ()⟩
      else ⟨g, [], ()⟩
  else ⟨g, [], ()⟩

/-! ### The current status -/

/-- The seconds from now to a moment; none once it has passed. -/
def secondsUntil (g : Group σ) (moment : Nat) : Nat :=
  (moment - g.now) / 1000

/-- What a listener would have been told last about the registration. -/
def registrationStatus (g : Group σ) (id : SessionId) : Notice :=
  let supervisor := g.supervisor
  if !g.connected then .registrationFailed .dataConnectionLost "no data connection"
  else if !supervisor.running && supervisor.lastError.isNone then
    .registrationFailed .clientError "auto-registration not running"
  else if supervisor.registered then
    .registrationDone (min ((supervisor.expiresAt.map g.secondsUntil).getD 0) 0x7fffffff : Nat)
  else
    match supervisor.lastError with
    | some (.timeOut, _) => .registrationTimeout
    | some (code, message) => .registrationFailed code message
    | none =>
      if (g.stateOf id).isRegistration then .registering
      else .registrationFailed .inProgress "registration in progress"

/-- Report to another listener from now on, and tell it the current status. -/
def setRegistrationListener (g : Group σ) (listener : Listener) : Change σ Unit :=
  if g.closed then ⟨g, [], ()⟩
  else
    let g := { g with supervisor := { g.supervisor with listener := listener } }
    match g.supervisor.session with
    | none => ⟨g, [], ()⟩
    | some id => ⟨g, [⟨.listener listener, id, g.registrationStatus id⟩], ()⟩

/-! ### What the registration session reports -/

/-- Whether a report is about the session that is being supervised. -/
def supervises (g : Group σ) (id : SessionId) : Bool :=
  g.supervisor.running && g.supervisor.session = some id

/-- Tell the listener of the registration. -/
def tellListener (g : Group σ) (id : SessionId) (notice : Notice) : Delivery :=
  ⟨.listener g.supervisor.listener, id, notice⟩

/-- A registration is on its way. -/
def onRegistering (g : Group σ) (id : SessionId) : Change σ Unit :=
  let g := { g with supervisor := { g.supervisor with registered := false } }
  ⟨g, [g.tellListener id .registering], ()⟩

/-- A registration has been granted for some seconds, or ended. -/
def onRegistrationDone [Transport σ] (g : Group σ) (id : SessionId) (duration : Int) :
    Change σ Unit :=
  let told := g.tellListener id (.registrationDone duration)
  if 0 < duration then
    let supervisor :=
      { g.supervisor with
        registered := true, expiresAt := some (g.now + duration.toNat * 1000), lastError := none,
        backoff := g.supervisor.backoff.reset }
    let g := { g with supervisor := supervisor }
    let g := (g.scheduleRefresh (g.settings.refreshDelay duration.toNat)).startKeepalive
    ⟨g, [told], ()⟩
  else
    let g := { g with supervisor := { g.supervisor with registered := false, expiresAt := none } }
    if g.connected then
      let change := g.dispatch id (.register g.settings.expiry)
      ⟨change.group, told :: change.deliveries, ()⟩
    else ⟨g, [told], ()⟩

/-- The supervisor after a failure, with the failure noted. -/
def noteFailure (g : Group σ) (code : ErrorCode) (message : String) : Group σ :=
  { g with
    supervisor :=
      { g.supervisor with
        lastError := some (code, message), registered := false, expiresAt := none } }

/-- A registration has failed. -/
def onRegistrationFailed (g : Group σ) (id : SessionId) (code : ErrorCode) (message : String) :
    Change σ Unit :=
  let told := g.tellListener id (.registrationFailed code message)
  let g := g.noteFailure code message
  match code with
  | .invalidCredentials => ⟨g.pause, [told], ()⟩
  | .serverUnreachable => ⟨g.pause, [told], ()⟩
  | .dataConnectionLost => ⟨g, [told], ()⟩
  | _ => ⟨g.scheduleRetry, [told], ()⟩

/-- A registration has timed out. -/
def onRegistrationTimeout (g : Group σ) (id : SessionId) : Change σ Unit :=
  let told := g.tellListener id .registrationTimeout
  ⟨(g.noteFailure .timeOut "registration timed out").scheduleRetry, [told], ()⟩

/-- Hand one notice over. A notice to the supervisor changes the group and causes further notices,
which come before all that are still waiting; a notice to a listener changes nothing here. -/
def handOver [Transport σ] (g : Group σ) (d : Delivery) : Change σ Unit :=
  match d.addressee with
  | .listener _ => ⟨g, [], ()⟩
  | .supervisor =>
    if g.supervises d.session then
      match d.notice with
      | .registering => g.onRegistering d.session
      | .registrationDone duration => g.onRegistrationDone d.session duration
      | .registrationFailed code message => g.onRegistrationFailed d.session code message
      | .registrationTimeout => g.onRegistrationTimeout d.session
      | _ => ⟨g, [], ()⟩
    else ⟨g, [], ()⟩

/-! ### Waking up -/

/-- Refresh the registration, or try it again. -/
def refresh [Transport σ] (g : Group σ) : Change σ Unit :=
  if g.closed || !g.supervisor.running || !g.connected then ⟨g, [], ()⟩
  else
    match g.supervisor.session with
    | none => ⟨g, [], ()⟩
    | some id =>
      let g := { g with supervisor := { g.supervisor with lastError := none } }
      let change := g.dispatch id (.register g.settings.expiry)
      ⟨change.group, change.deliveries, ()⟩

/-- Send a keepalive and set the next one, if the process is the one that is running. Whether it
could be sent does not matter. -/
def keepAlive [Transport σ] (g : Group σ) (process : Nat) : Group σ :=
  if g.closed || g.supervisor.keepalive ≠ some process then g
  else
    let network := (Transport.perform (.keepalive g.profile) g.network).2
    { g with network := network }.setWakeup g.settings.keepalivePeriod (.keepalive process)

/-- The timer wakes the group up. -/
def wake [Transport σ] (g : Group σ) : WakeupCall → Change σ Unit
  | .refresh => g.refresh
  | .keepalive process => ⟨g.keepAlive process, [], ()⟩

/-! ### The data connection -/

/-- Tell sessions, one after the other, that the data connection is gone. -/
def disconnect [Transport σ] (g : Group σ) : List SessionId → Change σ Unit
  | [] => ⟨g, [], ()⟩
  | id :: more =>
    let change := g.dispatch id .connectionLost
    let rest := disconnect change.group more
    ⟨rest.group, change.deliveries ++ rest.deliveries, ()⟩

/-- The data connection is gone: every session with a key ends, and the supervisor waits. Its
listener is told of the loss even when no registration was under way. -/
def loseConnection [Transport σ] (g : Group σ) : Change σ Unit :=
  let owners := g.registry.owners
  let change := { g with connected := false }.disconnect owners
  let g := (change.group.cancelWakeup .refresh).stopKeepalive
  let g := { g with supervisor := { g.supervisor with registered := false, expiresAt := none } }
  match g.supervisor.session with
  | none => ⟨g, change.deliveries, ()⟩
  | some id =>
    if g.supervisor.running && !owners.contains id then
      let message := "data connection lost"
      let failure := Notice.registrationFailed .dataConnectionLost message
      let told : Delivery := ⟨.listener g.supervisor.listener, id, failure⟩
      let supervisor := { g.supervisor with lastError := some (.dataConnectionLost, message) }
      ⟨{ g with supervisor := supervisor }, change.deliveries ++ [told], ()⟩
    else ⟨g, change.deliveries, ()⟩

/-- The data connection is back: a supervisor that is running registers at once. -/
def regainConnection [Transport σ] (g : Group σ) : Change σ Unit :=
  let g := { g with connected := true }
  if g.supervisor.running then
    let supervisor :=
      { g.supervisor with backoff := g.supervisor.backoff.reset, lastError := none }
    let g := { g with supervisor := supervisor }
    match g.supervisor.session with
    | none => ⟨g, [], ()⟩
    | some id =>
      let change := g.dispatch id (.register g.settings.expiry)
      ⟨change.group, change.deliveries, ()⟩
  else ⟨g, [], ()⟩

/-- The data connection is up or down from now on. -/
def setConnected [Transport σ] (g : Group σ) (up : Bool) : Change σ Unit :=
  if g.closed || g.connected = up then ⟨g, [], ()⟩
  else if up then g.regainConnection
  else g.loseConnection

end Group

end SipAgent
