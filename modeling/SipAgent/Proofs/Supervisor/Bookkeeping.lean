import SipAgent.Proofs.Group.Dispatch
import SipAgent.Proofs.Timer.Queue

/-!
# What the supervisor keeps books of

The supervisor works with its own state, the state of the data connection, and the timer. Feeding
events to sessions leaves all of this alone, and so do most other operations; what the few that
schedule or take back wake-ups do is told here by equations.
-/

namespace SipAgent

/-- What the supervisor works with. -/
structure Books where
  supervisor : Supervisor
  connected : Bool
  closed : Bool
  timer : Timer WakeupCall
  keepalives : Nat

namespace Group

variable {σ : Type} (g : Group σ)

/-- The books of a group. -/
def books : Books :=
  ⟨g.supervisor, g.connected, g.closed, g.timer, g.keepalives⟩

/-! ### Who leaves the books alone -/

@[simp] lemma books_setAddressee (id : SessionId) (addressee : Addressee) :
    (g.setAddressee id addressee).books = g.books := by
  unfold setAddressee
  split <;> rfl

@[simp] lemma books_dispatch [Transport σ] (id : SessionId) (e : SessionEvent) :
    (g.dispatch id e).group.books = g.books := by
  unfold dispatch
  split <;> rfl

@[simp] lemma books_disconnect [Transport σ] (ids : List SessionId) :
    (g.disconnect ids).group.books = g.books := by
  induction ids generalizing g with
  | nil => rfl
  | cons id more ih => exact (ih _).trans (books_dispatch g id _)

lemma books_createSession {l : Listener} {made : SessionId × Group σ}
    (h : g.createSession l = .ok made) : made.2.books = g.books := by
  unfold createSession at h
  split at h
  · cases h
  · cases h
    rfl

lemma books_openToCalls {l : Listener} {g' : Group σ} (h : g.openToCalls l = .ok g') :
    g'.books = g.books := by
  unfold openToCalls at h
  split at h
  · cases h
  · cases h
    rfl

@[simp] lemma books_command [Transport σ] (id : SessionId) (e : SessionEvent) :
    (g.command id e).group.books = g.books := by
  unfold command
  split
  · rfl
  · dsimp only
    split <;> exact books_dispatch g id e

@[simp] lemma books_processSignal [Transport σ] (s : Signal) :
    (g.processSignal s).group.books = g.books := by
  unfold processSignal
  split
  · rfl
  · split
    · rfl
    · exact books_dispatch g _ _

lemma supervisor_setAddressee (id : SessionId) (addressee : Addressee) :
    (g.setAddressee id addressee).supervisor = g.supervisor :=
  congrArg Books.supervisor (books_setAddressee g id addressee)

lemma supervisor_dispatch [Transport σ] (id : SessionId) (e : SessionEvent) :
    (g.dispatch id e).group.supervisor = g.supervisor :=
  congrArg Books.supervisor (books_dispatch g id e)

lemma connected_dispatch [Transport σ] (id : SessionId) (e : SessionEvent) :
    (g.dispatch id e).group.connected = g.connected :=
  congrArg Books.connected (books_dispatch g id e)

/-- The supervisor engages a session if it has none yet. -/
lemma books_registrationSession :
    g.registrationSession.2.books =
      { g.books with
        supervisor := { g.supervisor with session := some g.registrationSession.1 } } := by
  unfold registrationSession
  split
  · next id hid =>
    simp only [books, ← hid]
  · rfl

/-! ### Wake-ups -/

lemma setWakeup_eq (seconds : Nat) (call : WakeupCall) :
    ∃ timer, g.setWakeup seconds call = { g with timer := timer } ∧
      timer.stopped = g.timer.stopped ∧ ∀ other, timer.queued other =
        g.timer.queued other + if call = other ∧ g.timer.stopped = false then 1 else 0 := by
  unfold setWakeup
  cases hset : g.timer.set g.now (seconds * 1000) call with
  | none =>
    cases hstopped : g.timer.stopped with
    | true => exact ⟨g.timer, rfl, hstopped, fun other => by simp⟩
    | false =>
      obtain ⟨timer, order, hset', -⟩ :=
        Timer.exists_set hstopped g.now (seconds * 1000) call
      rw [hset] at hset'
      cases hset'
  | some set =>
    have hruns : g.timer.stopped = false := by
      by_contra h
      rw [Timer.set_eq_none (by simpa using h)] at hset
      cases hset
    obtain ⟨hstopped, -⟩ := Timer.queued_set hset call
    refine ⟨set.1, rfl, hstopped.trans hruns.symm, fun other => ?_⟩
    rw [(Timer.queued_set hset other).2]
    simp [hruns]

/-- Whatever was queued, there is one refresh afterwards. -/
lemma scheduleRefresh_eq (seconds : Nat) :
    ∃ timer, g.scheduleRefresh seconds = { g with timer := timer } ∧
      timer.stopped = g.timer.stopped ∧
      timer.queued .refresh = (if g.timer.stopped then 0 else 1) ∧
      ∀ process, timer.queued (.keepalive process) = g.timer.queued (.keepalive process) := by
  obtain ⟨timer, heq, hstopped, hqueued⟩ :=
    (g.cancelWakeup .refresh).setWakeup_eq seconds .refresh
  refine ⟨timer, heq, hstopped.trans (Timer.cancel_stopped _ _), ?_, fun process => ?_⟩
  · rw [hqueued]
    simp only [cancelWakeup, Timer.queued_cancel, Timer.cancel_stopped]
    cases g.timer.stopped <;> rfl
  · rw [hqueued]
    simp only [cancelWakeup, Timer.queued_cancel]
    simp

/-- The next retry comes later. -/
def advanced : Group σ :=
  { g with supervisor := { g.supervisor with backoff := g.supervisor.backoff.advance } }

/-- A retry is scheduled only if it can be made as things stand. -/
lemma scheduleRetry_eq :
    (g.supervisor.running = true ∧ g.connected = true ∧
        g.scheduleRetry = g.advanced.scheduleRefresh g.supervisor.backoff.delay.toNat) ∨
      (g.supervisor.running = true → g.connected = false) ∧ g.scheduleRetry = g := by
  unfold scheduleRetry
  split
  · next hcond =>
    rw [Bool.and_eq_true] at hcond
    exact .inl ⟨hcond.1, hcond.2, rfl⟩
  · next hcond =>
    refine .inr ⟨fun hrunning => ?_, rfl⟩
    simpa [hrunning] using hcond

/-! ### The keepalive process -/

/-- The wake-ups of the keepalive process go with it. -/
lemma stopKeepalive_eq :
    ∃ timer, g.stopKeepalive =
        { g with timer := timer, supervisor := { g.supervisor with keepalive := none } } ∧
      timer.stopped = g.timer.stopped ∧ timer.queued .refresh = g.timer.queued .refresh ∧
      ∀ process, timer.queued (.keepalive process) =
        if g.supervisor.keepalive = some process then 0
        else g.timer.queued (.keepalive process) := by
  unfold stopKeepalive
  split
  · next process hprocess =>
    refine ⟨_, rfl, Timer.cancel_stopped _ _, ?_, fun other => ?_⟩
    · exact Timer.queued_cancel (WakeupCall.keepalive process) g.timer .refresh
    · rw [Timer.queued_cancel (WakeupCall.keepalive process) g.timer, hprocess]
      by_cases h : other = process
      · simp [h]
      · simp [h, Ne.symm h]
  · next hnone =>
    refine ⟨g.timer, ?_, rfl, rfl, fun other => by simp [hnone]⟩
    rw [← hnone]

/-- Only the process that is running has keepalives queued. -/
def OnlyCurrent : Prop :=
  ∀ process, 0 < g.timer.queued (.keepalive process) → g.supervisor.keepalive = some process

/-- Nothing is left once the refresh and the process that is running have been taken back. -/
lemma silence_eq :
    ∃ timer, (g.cancelWakeup .refresh).stopKeepalive =
        { g with timer := timer, supervisor := { g.supervisor with keepalive := none } } ∧
      timer.stopped = g.timer.stopped ∧ (g.OnlyCurrent → ∀ call, timer.queued call = 0) := by
  obtain ⟨timer, heq, hstopped, hrefresh, hkeepalive⟩ := (g.cancelWakeup .refresh).stopKeepalive_eq
  refine ⟨timer, heq, hstopped.trans (Timer.cancel_stopped _ _), fun hcurrent call => ?_⟩
  cases call with
  | refresh =>
    rw [hrefresh]
    simp [cancelWakeup, Timer.queued_cancel]
  | keepalive process =>
    rw [hkeepalive]
    split
    · rfl
    · next hne =>
      by_contra hqueued
      simp only [cancelWakeup, Timer.queued_cancel, reduceCtorEq, if_false] at hqueued
      exact hne (hcurrent process (Nat.pos_of_ne_zero hqueued))

lemma pause_eq :
    ∃ timer, g.pause =
        { g with
          timer := timer
          supervisor :=
            { g.supervisor with
              running := false, registered := false, expiresAt := none, keepalive := none } } ∧
      timer.stopped = g.timer.stopped ∧ (g.OnlyCurrent → ∀ call, timer.queued call = 0) :=
  silence_eq
    { g with
      supervisor := { g.supervisor with running := false, registered := false, expiresAt := none } }

lemma pause_running : g.pause.supervisor.running = false := by
  obtain ⟨timer, heq, -⟩ := g.pause_eq
  rw [heq]

/-- A new process gets a number that no process has had. -/
lemma startKeepalive_eq [Transport σ] :
    g.startKeepalive = g ∨
      g.supervisor.keepalive = none ∧ ∃ timer,
        g.startKeepalive =
          { g with
            timer := timer
            supervisor := { g.supervisor with keepalive := some g.keepalives }
            keepalives := g.keepalives + 1 } ∧
        timer.stopped = g.timer.stopped ∧ ∀ other, timer.queued other =
          g.timer.queued other +
            if .keepalive g.keepalives = other ∧ g.timer.stopped = false then 1 else 0 := by
  unfold startKeepalive
  split
  · exact .inl rfl
  · next hnone =>
    rw [Option.not_isSome_iff_eq_none] at hnone
    split
    · obtain ⟨timer, heq, hstopped, hqueued⟩ := setWakeup_eq
        { g with
          supervisor := { g.supervisor with keepalive := some g.keepalives }
          keepalives := g.keepalives + 1 }
        g.settings.keepalivePeriod (.keepalive g.keepalives)
      exact .inr ⟨hnone, timer, heq, hstopped, hqueued⟩
    · exact .inl rfl

/-- Only the process that is running sends keepalives, and sets the next one. -/
lemma keepAlive_eq [Transport σ] (process : Nat) :
    (g.closed = true ∨ g.supervisor.keepalive ≠ some process) ∧ g.keepAlive process = g ∨
      g.supervisor.keepalive = some process ∧ ∃ timer network,
        g.keepAlive process = { g with timer := timer, network := network } ∧
        timer.stopped = g.timer.stopped ∧ ∀ other, timer.queued other =
          g.timer.queued other +
            if .keepalive process = other ∧ g.timer.stopped = false then 1 else 0 := by
  unfold keepAlive
  split
  · next hidle =>
    refine .inl ⟨?_, rfl⟩
    simpa using hidle
  · next hruns =>
    simp only [Bool.or_eq_true, decide_eq_true_eq, not_or, Bool.not_eq_true, not_not] at hruns
    obtain ⟨timer, heq, hstopped, hqueued⟩ := setWakeup_eq
      { g with network := (Transport.perform (.keepalive g.profile) g.network).2 }
      g.settings.keepalivePeriod (.keepalive process)
    exact .inr ⟨hruns.2, timer, _, heq, hstopped, hqueued⟩

/-! ### Asking -/

/-- The last failure is forgotten. -/
def cleared : Group σ :=
  { g with supervisor := { g.supervisor with lastError := none } }

/-- The data connection is back, and what went wrong before is forgotten. -/
def resumed : Group σ :=
  { g with
    connected := true
    supervisor :=
      { g.supervisor with backoff := g.supervisor.backoff.reset, lastError := none } }

/-- A supervisor that can register forgets the last failure, and asks again. -/
lemma refresh_eq [Transport σ] :
    (g.closed = true ∨ g.supervisor.running = false ∨ g.connected = false ∨
        g.supervisor.session = none) ∧ g.refresh = ⟨g, [], ()⟩ ∨
      g.supervisor.running = true ∧ g.connected = true ∧ ∃ id, g.supervisor.session = some id ∧
        let change := g.cleared.dispatch id (.register g.settings.expiry)
        g.refresh = ⟨change.group, change.deliveries, ()⟩ := by
  unfold refresh
  split
  · next hcannot =>
    simp only [Bool.or_eq_true, Bool.not_eq_true'] at hcannot
    exact .inl ⟨by tauto, rfl⟩
  · next hcan =>
    simp only [Bool.or_eq_true, Bool.not_eq_true', not_or, Bool.not_eq_false] at hcan
    split
    · next hnone => exact .inl ⟨.inr (.inr (.inr hnone)), rfl⟩
    · next id hid => exact .inr ⟨hcan.1.2, hcan.2, id, hid, rfl⟩

/-- A supervisor that is running asks as soon as the data connection is back. -/
lemma regainConnection_eq [Transport σ] {id : SessionId} (hrunning : g.supervisor.running = true)
    (hid : g.supervisor.session = some id) :
    let change := g.resumed.dispatch id (.register g.settings.expiry)
    g.regainConnection = ⟨change.group, change.deliveries, ()⟩ := by
  unfold regainConnection
  dsimp only
  rw [if_pos hrunning]
  split
  · next hnone =>
    rw [hid] at hnone
    cases hnone
  · next id' hid' =>
    obtain rfl : id = id' := Option.some.inj (hid.symm.trans hid')
    rfl

lemma regainConnection_of_not_running [Transport σ] (hstopped : g.supervisor.running = false) :
    g.regainConnection = ⟨{ g with connected := true }, [], ()⟩ := by
  unfold regainConnection
  dsimp only
  rw [if_neg (by simp [hstopped])]

/-! ### Grants and ends -/

/-- A registration holds for some seconds from now on. -/
def accepted (duration : Int) : Group σ :=
  { g with
    supervisor :=
      { g.supervisor with
        registered := true, expiresAt := some (g.now + duration.toNat * 1000), lastError := none,
        backoff := g.supervisor.backoff.reset } }

/-- No registration holds any more. -/
def ended : Group σ :=
  { g with supervisor := { g.supervisor with registered := false, expiresAt := none } }

lemma onRegistrationDone_of_pos [Transport σ] (id : SessionId) {duration : Int}
    (hpos : 0 < duration) :
    g.onRegistrationDone id duration =
      ⟨((g.accepted duration).scheduleRefresh
          (g.settings.refreshDelay duration.toNat)).startKeepalive,
        [g.tellListener id (.registrationDone duration)], ()⟩ := by
  unfold onRegistrationDone
  dsimp only
  rw [if_pos hpos]
  rfl

/-- A supervisor whose registration has ended asks for the next one. -/
lemma onRegistrationDone_of_not_pos [Transport σ] (id : SessionId) {duration : Int}
    (hnot : ¬ 0 < duration) :
    g.onRegistrationDone id duration =
      let told := g.tellListener id (.registrationDone duration)
      let change := g.ended.dispatch id (.register g.settings.expiry)
      if g.connected then ⟨change.group, told :: change.deliveries, ()⟩
      else ⟨g.ended, [told], ()⟩ := by
  unfold onRegistrationDone
  dsimp only
  rw [if_neg hnot]
  rfl

/-! ### Starting and giving up -/

/-- The supervisor starts afresh. -/
def started (l : Listener) : Group σ :=
  { g with
    supervisor :=
      { g.supervisor with
        listener := l, running := true, registered := false, expiresAt := none, lastError := none,
        backoff := g.supervisor.backoff.reset } }

/-- The session of a supervisor that starts, and the group in which it reports to the supervisor. -/
def engaging (l : Listener) : SessionId × Group σ :=
  let (id, g) := (g.started l).registrationSession
  (id, g.setAddressee id .supervisor)

lemma books_engaging (l : Listener) :
    (g.engaging l).2.books =
      { (g.started l).books with
        supervisor := { (g.started l).supervisor with session := some (g.engaging l).1 } } :=
  (books_setAddressee _ _ _).trans (g.started l).books_registrationSession

lemma startRegistration_of_closed [Transport σ] (l : Listener) (hclosed : g.closed = true) :
    g.startRegistration l = ⟨g, [], .error .groupClosed⟩ := by
  unfold startRegistration
  rw [if_pos hclosed]

lemma startRegistration_of_running [Transport σ] (l : Listener) (hopen : g.closed = false)
    (hrunning : g.supervisor.running = true) :
    g.startRegistration l =
      ⟨{ g with supervisor := { g.supervisor with listener := l } }, [], .ok ()⟩ := by
  unfold startRegistration
  rw [if_neg (by simp [hopen])]
  dsimp only
  rw [if_pos hrunning]

/-- Once it has its session, a supervisor that starts clears what an earlier run left behind. -/
lemma startRegistration_eq [Transport σ] (l : Listener) (hopen : g.closed = false)
    (hidle : g.supervisor.running = false) :
    g.startRegistration l =
      let (id, g₁) := g.engaging l
      if g₁.connected then
        let change := g₁.dispatch id .deregister
        if change.result then ⟨change.group, change.deliveries, .ok ()⟩
        else ⟨change.group.scheduleRetry, change.deliveries, .ok ()⟩
      else ⟨g₁, [], .ok ()⟩ := by
  unfold startRegistration
  rw [if_neg (by simp [hopen])]
  dsimp only
  rw [if_neg (by simp [hidle])]
  rfl

/-- The data connection is gone, and every session with a key is told. -/
def cutOff [Transport σ] : Change σ Unit :=
  { g with connected := false }.disconnect g.registry.owners

lemma books_cutOff [Transport σ] : g.cutOff.group.books = { g.books with connected := false } :=
  books_disconnect _ _

lemma supervisor_cutOff [Transport σ] : g.cutOff.group.supervisor = g.supervisor :=
  congrArg Books.supervisor g.books_cutOff

/-- What the listener of the registration is told by the supervisor itself when the data connection
is lost: a supervisor that is running speaks for its session if this has no key. -/
def bulletin : List Delivery :=
  match g.supervisor.session with
  | some id =>
    if g.supervisor.running && !g.registry.owners.contains id then
      [g.tellListener id (.registrationFailed .dataConnectionLost "data connection lost")]
    else []
  | none => []

lemma mem_bulletin {d : Delivery} (h : d ∈ g.bulletin) :
    g.supervisor.running = true ∧ ∃ l, d.addressee = .listener l := by
  unfold bulletin at h
  split at h
  · split at h
    · next hruns =>
      rw [Bool.and_eq_true] at hruns
      rw [List.mem_singleton.mp h]
      exact ⟨hruns.1, _, rfl⟩
    · cases h
  · cases h

/-- What is left when the data connection is lost, once every session with a key has been told. -/
lemma loseConnection_eq [Transport σ] :
    ∃ timer error,
      timer.stopped = g.timer.stopped ∧ (g.OnlyCurrent → ∀ call, timer.queued call = 0) ∧
      g.loseConnection =
        ⟨{ g.cutOff.group with
            timer := timer
            supervisor :=
              { g.supervisor with
                registered := false, expiresAt := none, keepalive := none, lastError := error } },
          g.cutOff.deliveries ++ g.bulletin, ()⟩ := by
  obtain ⟨timer, hsilenced, hstopped, hqueued⟩ := g.cutOff.group.silence_eq
  have htimer : g.cutOff.group.timer = g.timer := congrArg Books.timer g.books_cutOff
  unfold OnlyCurrent at hqueued
  rw [htimer] at hstopped
  rw [htimer, supervisor_cutOff] at hqueued
  rw [supervisor_cutOff] at hsilenced
  have hcut : { g with connected := false }.disconnect g.registry.owners = g.cutOff := rfl
  have hbulletin := bulletin.eq_def g
  unfold loseConnection
  dsimp only
  rw [hcut, hsilenced]
  split
  · next hnone =>
    have hnone : g.supervisor.session = none := hnone
    rw [hnone] at hbulletin
    exact ⟨timer, _, hstopped, hqueued, by rw [hbulletin, List.append_nil]⟩
  · next id hid =>
    have hid : g.supervisor.session = some id := hid
    rw [hid] at hbulletin
    dsimp only at hbulletin
    split at hbulletin
    · next hruns =>
      rw [if_pos hruns, hbulletin]
      exact ⟨timer, _, hstopped, hqueued, rfl⟩
    · next hnot =>
      rw [if_neg hnot, hbulletin, List.append_nil]
      exact ⟨timer, _, hstopped, hqueued, rfl⟩

/-- The supervisor gives up, without a failure to remember. -/
def retired : Group σ :=
  { g.pause with supervisor := { g.pause.supervisor with lastError := none } }

lemma retired_running : g.retired.supervisor.running = false :=
  g.pause_running

lemma retired_registered : g.retired.supervisor.registered = false := by
  obtain ⟨timer, heq, -⟩ := g.pause_eq
  rw [retired, heq]

/-- The supervisor gives up, and its session reports to nobody. -/
def dismissed (id : SessionId) : Group σ :=
  g.retired.setAddressee id (.listener .nobody)

lemma session_retired : g.retired.supervisor.session = g.supervisor.session := by
  obtain ⟨timer, heq, -⟩ := g.pause_eq
  rw [retired, heq]

lemma supervisor_dismissed (id : SessionId) : (g.dismissed id).supervisor = g.retired.supervisor :=
  supervisor_setAddressee g.retired id _

lemma session_dismissed (id : SessionId) :
    (g.dismissed id).supervisor.session = g.supervisor.session := by
  rw [supervisor_dismissed, session_retired]

lemma connected_dismissed (id : SessionId) : (g.dismissed id).connected = g.connected := by
  obtain ⟨timer, heq, -⟩ := g.pause_eq
  refine (congrArg Books.connected (books_setAddressee g.retired id _)).trans ?_
  rw [retired, heq]
  rfl

/-- A registration is ended on the way out only while the data connection is up. -/
lemma stopRegistration_eq [Transport σ] :
    g.supervisor.running = false ∧ g.stopRegistration = ⟨g, [], ()⟩ ∨
      g.stopRegistration = ⟨g.retired, [], ()⟩ ∨
      ∃ id, g.supervisor.session = some id ∧
        (g.stopRegistration = ⟨g.dismissed id, [], ()⟩ ∨
          g.connected = true ∧
            let change := (g.dismissed id).dispatch id .deregister
            g.stopRegistration = ⟨change.group, change.deliveries, ()⟩) := by
  obtain ⟨timer, hpause, -⟩ := g.pause_eq
  unfold stopRegistration
  split
  · dsimp only
    split
    · exact .inr (.inl rfl)
    next id hid =>
    rw [hpause] at hid
    refine .inr (.inr ⟨id, hid, ?_⟩)
    split
    · next hcond =>
      rw [Bool.and_eq_true] at hcond
      exact .inr ⟨(g.connected_dismissed id).symm.trans hcond.2, rfl⟩
    · exact .inl rfl
  · next hstopped => exact .inl ⟨by simpa using hstopped, rfl⟩

lemma stopRegistration_running [Transport σ] :
    g.stopRegistration.group.supervisor.running = false := by
  have hretired := g.retired_running
  rcases g.stopRegistration_eq with ⟨hidle, heq⟩ | heq | ⟨id, -, heq | ⟨-, heq⟩⟩
  · rw [heq]
    exact hidle
  · rw [heq]
    exact hretired
  · rw [heq]
    exact (congrArg Supervisor.running (g.supervisor_dismissed id)).trans hretired
  · rw [heq, supervisor_dispatch, supervisor_dismissed]
    exact hretired

lemma stopRegistration_of_not_running [Transport σ] (hstopped : g.supervisor.running = false) :
    g.stopRegistration = ⟨g, [], ()⟩ := by
  unfold stopRegistration
  rw [if_neg (by simp [hstopped])]

/-- A supervisor that is not running takes no notice of anything. -/
lemma handOver_of_not_running [Transport σ] (hstopped : g.supervisor.running = false)
    (d : Delivery) : g.handOver d = ⟨g, [], ()⟩ := by
  obtain ⟨addressee, id, notice⟩ := d
  have hnot : g.supervises id = false :=
    calc g.supervises id
      _ = (g.supervisor.running && decide (g.supervisor.session = some id)) := rfl
      _ = false := by rw [hstopped, Bool.false_and]
  cases addressee with
  | listener l => rfl
  | supervisor => exact if_neg (Bool.eq_false_iff.mp hnot)

/-- A session that has been told to report to nobody tells nobody else. -/
lemma deliveries_dispatch_dismissed [Transport σ] (id : SessionId) (e : SessionEvent) :
    ∀ d ∈ ((g.dismissed id).dispatch id e).deliveries, d.addressee = .listener .nobody := by
  intro d hd
  cases hcell : (g.dismissed id).cells[id]? with
  | none =>
    rw [dispatch_of_none (by rw [session?, hcell]; rfl)] at hd
    cases hd
  | some cell =>
    have haddressee : cell.addressee = .listener .nobody := by
      unfold dismissed Group.setAddressee at hcell
      split at hcell
      · next h =>
        rw [List.getElem?_set_self (List.getElem?_eq_some_iff.mp h).1] at hcell
        cases hcell
        rfl
      · next h => cases h.symm.trans hcell
    rw [dispatch_deliveries hcell] at hd
    obtain ⟨report, -, rfl⟩ := List.mem_map.mp hd
    exact haddressee

/-- Nobody is told that the supervisor is stopped. -/
lemma deliveries_stopRegistration [Transport σ] :
    ∀ d ∈ g.stopRegistration.deliveries, d.addressee = .listener .nobody := by
  rcases g.stopRegistration_eq with ⟨-, heq⟩ | heq | ⟨id, -, heq | ⟨-, heq⟩⟩
  · simp [heq]
  · simp [heq]
  · simp [heq]
  · rw [heq]
    exact g.deliveries_dispatch_dismissed id _

/-! ### Paperwork -/

/-- Nothing changes but the books, and the supervisor does not start to run. -/
structure Paperwork (g' : Group σ) : Prop where
  cells : g'.cells = g.cells
  registry : g'.registry = g.registry
  connected : g'.connected = g.connected
  session : g'.supervisor.session = g.supervisor.session
  running : g'.supervisor.running = true → g.supervisor.running = true
  stopped : g'.timer.stopped = g.timer.stopped

namespace Paperwork

variable {g g' g'' : Group σ}

lemma refl (g : Group σ) : Paperwork g g :=
  ⟨rfl, rfl, rfl, rfl, id, rfl⟩

lemma trans (h : Paperwork g g') (h' : Paperwork g' g'') : Paperwork g g'' where
  cells := h'.cells.trans h.cells
  registry := h'.registry.trans h.registry
  connected := h'.connected.trans h.connected
  session := h'.session.trans h.session
  running hs := h.running (h'.running hs)
  stopped := h'.stopped.trans h.stopped

lemma revise {s : Supervisor} (hsession : s.session = g.supervisor.session)
    (hrunning : s.running = true → g.supervisor.running = true) :
    Paperwork g { g with supervisor := s } :=
  ⟨rfl, rfl, rfl, hsession, hrunning, rfl⟩

lemma scheduleRefresh (g : Group σ) (seconds : Nat) : Paperwork g (g.scheduleRefresh seconds) := by
  obtain ⟨timer, heq, hstopped, -⟩ := g.scheduleRefresh_eq seconds
  rw [heq]
  exact ⟨rfl, rfl, rfl, rfl, id, hstopped⟩

lemma scheduleRetry (g : Group σ) : Paperwork g g.scheduleRetry := by
  have hadvanced : Paperwork g g.advanced := revise rfl id
  rcases g.scheduleRetry_eq with ⟨-, -, heq⟩ | ⟨-, heq⟩
  · rw [heq]
    exact hadvanced.trans (scheduleRefresh _ _)
  · rw [heq]
    exact .refl g

lemma startKeepalive [Transport σ] (g : Group σ) : Paperwork g g.startKeepalive := by
  rcases g.startKeepalive_eq with heq | ⟨-, timer, heq, hstopped, -⟩
  · rw [heq]
    exact .refl g
  · rw [heq]
    exact ⟨rfl, rfl, rfl, rfl, id, hstopped⟩

lemma pause (g : Group σ) : Paperwork g g.pause := by
  obtain ⟨timer, heq, hstopped, -⟩ := g.pause_eq
  rw [heq]
  exact ⟨rfl, rfl, rfl, rfl, nofun, hstopped⟩

lemma retired (g : Group σ) : Paperwork g g.retired :=
  (pause g).trans (revise rfl id)

lemma cleared (g : Group σ) : Paperwork g g.cleared :=
  revise rfl id

lemma ended (g : Group σ) : Paperwork g g.ended :=
  revise rfl id

lemma accepted (g : Group σ) (duration : Int) : Paperwork g (g.accepted duration) :=
  revise rfl id

lemma noteFailure (g : Group σ) (code : ErrorCode) (message : String) :
    Paperwork g (g.noteFailure code message) :=
  revise rfl id

lemma onRegistrationFailed (g : Group σ) (id : SessionId) (code : ErrorCode) (message : String) :
    Paperwork g (g.onRegistrationFailed id code message).group := by
  have hnoted := noteFailure g code message
  unfold Group.onRegistrationFailed
  dsimp only
  split
  · exact hnoted.trans (pause _)
  · exact hnoted.trans (pause _)
  · exact hnoted
  · exact hnoted.trans (scheduleRetry _)

lemma keepAlive [Transport σ] (g : Group σ) (process : Nat) :
    Paperwork g (g.keepAlive process) := by
  rcases g.keepAlive_eq process with ⟨-, heq⟩ | ⟨-, timer, network, heq, hstopped, -⟩
  · rw [heq]
    exact .refl g
  · rw [heq]
    exact ⟨rfl, rfl, rfl, rfl, id, hstopped⟩

end Paperwork

end Group

end SipAgent
