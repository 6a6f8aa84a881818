import SipAgent.Proofs.Registration.Backoff
import SipAgent.Proofs.Supervisor.Granting
import SipAgent.Proofs.Supervisor.InOrder

/-!
# When the supervisor asks again

Whatever was queued before, a failed registration leaves one refresh, due after the base delay that
has been doubled for every retry before, up to the cap; and a registration that is granted leaves
one refresh, due when its lifetime is about to end. `Group.retries` counts the retries of a history,
and the backoff of a supervisor that is running is always as many steps ahead (`Group.Retried`).
-/

namespace SipAgent

/-- A registration that went this way is tried again after a delay. -/
def Notice.isRetried : Notice → Bool
  | .registrationTimeout => true
  | .registrationFailed code _ =>
    code ≠ .invalidCredentials && code ≠ .serverUnreachable && code ≠ .dataConnectionLost
  | _ => false

/-! ### The moments at which wake-ups are due -/

namespace Timer

variable {κ : Type} [DecidableEq κ] {t : Timer κ} {callback other : κ}

/-- The moments at which the wake-ups for a callback are due. -/
def dues (t : Timer κ) (callback : κ) : List Nat :=
  (t.queue.filter fun w => w.callback = callback).map (·.due)

lemma dues_enqueue_of_ne {w : WakeUp κ} (hw : w.callback ≠ callback) (queue : List (WakeUp κ)) :
    (enqueue w queue).filter (fun x => x.callback = callback) =
      queue.filter fun x => x.callback = callback := by
  induction queue with
  | nil => simp [enqueue, hw]
  | cons x rest ih =>
    unfold enqueue
    split
    · simp [hw]
    · rw [List.filter_cons, List.filter_cons, ih]

lemma dues_enqueue_self {w : WakeUp κ} {queue : List (WakeUp κ)}
    (h : queue.filter (fun x => x.callback = w.callback) = []) :
    (enqueue w queue).filter (fun x => x.callback = w.callback) = [w] := by
  induction queue with
  | nil => simp [enqueue]
  | cons x rest ih =>
    rw [List.filter_eq_nil_iff, List.forall_mem_cons] at h
    have hx : x.callback ≠ w.callback := by simpa using h.1
    have hrest : rest.filter (fun x => x.callback = w.callback) = [] :=
      List.filter_eq_nil_iff.mpr h.2
    unfold enqueue
    split
    · simp [hx, hrest]
    · simp [hx, ih hrest]

lemma dues_cancel_self (callback : κ) (t : Timer κ) :
    (t.cancel callback).1.dues callback = [] := by
  simp [dues, cancel_queue]

lemma exists_set_self (h : t.stopped = false) (hnone : t.dues callback = []) (now delay : Nat) :
    ∃ t' order, t.set now delay callback = some (t', order) ∧
      t'.dues callback = [now + delay] := by
  obtain ⟨t', order, hset, -, hqueue⟩ := exists_set h now delay callback
  refine ⟨t', order, hset, ?_⟩
  rw [dues, List.map_eq_nil_iff] at hnone
  rw [dues, hqueue, dues_enqueue_self (w := ⟨now + delay, t.nextSeq, callback⟩) hnone]
  rfl

lemma dues_set_of_ne {now delay : Nat} {order : Option AlarmOrder} {t' : Timer κ}
    (h : t.set now delay callback = some (t', order)) (hne : callback ≠ other) :
    t'.dues other = t.dues other := by
  cases hstopped : t.stopped with
  | true =>
    rw [set_eq_none hstopped] at h
    cases h
  | false =>
    obtain ⟨t'', order', hset, -, hqueue⟩ := exists_set hstopped now delay callback
    rw [h] at hset
    cases hset
    rw [dues, dues, hqueue, dues_enqueue_of_ne hne]

/-- A wake-up that leaves the queue is given out. -/
lemma mem_dues_ring {due : Nat} (h : due ∈ t.dues callback) (now : Nat) :
    due ∈ (t.ring now).2.1.dues callback ∨ (t.ring now).1.map (·.callback) = some callback := by
  unfold ring
  split
  · exact .inl h
  · cases hqueue : t.queue with
    | nil => simp [dues, hqueue] at h
    | cons w rest =>
      simp only [popDue]
      split
      · by_cases hw : w.callback = callback
        · exact .inr (congrArg some hw)
        · refine .inl ?_
          simpa [dues, hqueue, hw] using h
      · refine .inl ?_
        simpa [dues, hqueue] using h

end Timer

namespace Group

variable {σ : Type} {g g' : Group σ} {n : ℕ} {id : SessionId}

/-- Whatever was queued, there is one refresh afterwards, and it is due in so many seconds. -/
lemma dues_scheduleRefresh (hticks : g.timer.stopped = false) (seconds : Nat) :
    (g.scheduleRefresh seconds).timer.dues .refresh = [g.now + seconds * 1000] := by
  have hstopped : (g.timer.cancel .refresh).1.stopped = false :=
    (Timer.cancel_stopped _ _).trans hticks
  obtain ⟨timer, order, hset, hdues⟩ := Timer.exists_set_self hstopped
    (Timer.dues_cancel_self .refresh g.timer) g.now (seconds * 1000)
  unfold scheduleRefresh setWakeup cancelWakeup
  dsimp only
  rw [hset]
  exact hdues

lemma dues_setWakeup_keepalive (g : Group σ) (seconds process : ℕ) :
    (g.setWakeup seconds (.keepalive process)).timer.dues .refresh = g.timer.dues .refresh := by
  unfold setWakeup
  split
  · next timer order hset => exact Timer.dues_set_of_ne hset nofun
  · rfl

lemma dues_startKeepalive [Transport σ] (g : Group σ) :
    g.startKeepalive.timer.dues .refresh = g.timer.dues .refresh := by
  unfold startKeepalive
  split
  · rfl
  · split
    · exact dues_setWakeup_keepalive _ _ _
    · rfl

lemma dues_keepAlive [Transport σ] (g : Group σ) (process : ℕ) :
    (g.keepAlive process).timer.dues .refresh = g.timer.dues .refresh := by
  unfold keepAlive
  split
  · rfl
  · exact dues_setWakeup_keepalive _ _ _

/-! ### Counting retries -/

/-- The session that registers is not idle. -/
def occupied (g : Group σ) : Bool :=
  match g.supervisor.session with
  | some id => g.stateOf id ≠ .ready
  | none => false

/-- The number of retries that have been scheduled since the supervisor was started, a registration
was granted, or the data connection came back. A supervisor that starts and finds its session
occupied schedules one at once. -/
def retries [Transport σ] (g : Group σ) : Occurrence σ → ℕ → ℕ
  | .act (.startRegistration _), n =>
    if g.closed || g.supervisor.running then n
    else if g.connected && g.occupied then 1
    else 0
  | .act (.setConnected up), n => if g.closed || g.connected || !up then n else 0
  | .handOver d, n =>
    if g.takesNotice d then
      match d.notice with
      | .registrationDone duration => if 0 < duration then 0 else n
      | notice => if notice.isRetried && g.connected then n + 1 else n
    else n
  | _, n => n

/-- The backoff of a supervisor that is running is as many steps ahead as there were retries. -/
structure Retried (g : Group σ) (n : ℕ) : Prop where
  base : g.supervisor.backoff.base = g.settings.shortExpiry
  cap : g.supervisor.backoff.cap = g.settings.maxBackoff
  series : g.supervisor.running = true →
    g.supervisor.backoff = .later g.settings.shortExpiry g.settings.maxBackoff n

lemma retried_start (profile : Profile) (settings : RegistrationSettings) (network : σ) :
    Retried (start profile settings network) 0 :=
  ⟨rfl, rfl, nofun⟩

namespace Retried

/-- The supervisor may do what it likes, as long as it does not touch the backoff. -/
lemma revise (h : Retried g n) (hsettings : g'.settings = g.settings)
    (hbackoff : g'.supervisor.backoff = g.supervisor.backoff)
    (hrunning : g'.supervisor.running = true → g.supervisor.running = true) : Retried g' n where
  base := by rw [hbackoff, hsettings, h.base]
  cap := by rw [hbackoff, hsettings, h.cap]
  series hs := by rw [hbackoff, hsettings, h.series (hrunning hs)]

/-- A series starts over. -/
lemma afresh (h : Retried g n) (hsettings : g'.settings = g.settings)
    (hbackoff : g'.supervisor.backoff = g.supervisor.backoff.reset) : Retried g' 0 := by
  have heq : g'.supervisor.backoff = .later g'.settings.shortExpiry g'.settings.maxBackoff 0 := by
    rw [hbackoff, hsettings, Backoff.reset_eq, h.base, h.cap, Backoff.later_zero]
  exact ⟨by rw [heq]; rfl, by rw [heq]; rfl, fun _ => heq⟩

lemma scheduleRefresh (h : Retried g n) (seconds : Nat) :
    Retried (g.scheduleRefresh seconds) n := by
  obtain ⟨timer, heq, -⟩ := g.scheduleRefresh_eq seconds
  rw [heq]
  exact h.revise rfl rfl id

/-- A retry that can be made counts. -/
lemma scheduleRetry (h : Retried g n) :
    Retried g.scheduleRetry
      (if g.supervisor.running && g.connected then n + 1 else n) := by
  rcases g.scheduleRetry_eq with ⟨hrunning, hup, heq⟩ | ⟨hcannot, heq⟩
  · rw [if_pos (by simp [hrunning, hup]), heq]
    have hadvanced : Retried g.advanced (n + 1) := by
      refine ⟨?_, ?_, fun _ => ?_⟩
      · exact (Backoff.advance_base _).trans h.base
      · exact (Backoff.advance_cap _).trans h.cap
      · exact (congrArg Backoff.advance (h.series hrunning)).trans (Backoff.advance_later _ _ n)
    exact hadvanced.scheduleRefresh _
  · rw [heq, if_neg]
    · exact h
    · rw [Bool.and_eq_true, not_and, Bool.not_eq_true]
      exact hcannot

lemma startKeepalive [Transport σ] (h : Retried g n) : Retried g.startKeepalive n := by
  rcases g.startKeepalive_eq with heq | ⟨-, timer, heq, -⟩
  · rw [heq]
    exact h
  · rw [heq]
    exact h.revise rfl rfl id

lemma pause (h : Retried g n) : Retried g.pause n := by
  obtain ⟨timer, heq, -⟩ := g.pause_eq
  rw [heq]
  exact h.revise rfl rfl nofun

variable [Transport σ]

lemma dispatch (h : Retried g n) (id : SessionId) (e : SessionEvent) :
    Retried (g.dispatch id e).group n := by
  refine h.revise (dispatch_settings g id e) ?_ ?_ <;> rw [supervisor_dispatch]
  exact fun hs => hs

end Retried

/-- A session that is there remains as it is, and a new one is idle. -/
lemma Keeps.stateOf_eq (h : Keeps g g') (i : SessionId) : g'.stateOf i = g.stateOf i := by
  unfold stateOf
  cases hs : g.session? i with
  | some s => rw [h.sessions i s hs]
  | none =>
    cases hs' : g'.session? i with
    | none => rfl
    | some s =>
      rcases h.created i s hs' with hs' | ⟨role, rfl⟩
      · cases hs.symm.trans hs'
      · rfl

/-- A supervisor that starts finds its session as it was. -/
lemma occupied_eq (g : Group σ) (l : Listener) :
    g.occupied = decide ((g.engaging l).2.stateOf (g.engaging l).1 ≠ .ready) := by
  rw [(keeps_engaging g l).stateOf_eq]
  unfold occupied engaging registrationSession
  cases hid : g.supervisor.session with
  | some id => simp only [started, hid]
  | none =>
    have hready : g.stateOf g.cells.length = .ready := by
      unfold stateOf
      rw [session?_length]
    simp only [started, hid, addSession, hready]
    rfl

variable [Transport σ]

/-- Only an idle session takes an order to deregister. -/
lemma Attended.result_deregister (hattended : Attended g) (hid : g.supervisor.session = some id) :
    (g.dispatch id .deregister).result = decide (g.stateOf id = .ready) := by
  obtain ⟨s, a, hcell, hs, -⟩ := hattended.cell id hid
  rw [stateOf_of_cell hcell, dispatch_eq hcell]
  dsimp only [outcomeOf]
  rcases hs.state with hready | hbusy
  · have haccepts : s.Accepts .deregister := ⟨hs.role, by rw [hready]; decide⟩
    have hequipped : s.Equipped :=
      ⟨fun hcall => (by rw [hready] at hcall; cases hcall),
        fun hcoming => (by rw [hready] at hcoming; cases hcoming)⟩
    rw [Session.processed_of_accepts (fun _ => hequipped) rfl haccepts, decide_eq_true hready]
  · have hnot : s.state ≠ .ready := by
      intro hready
      rw [hready] at hbusy
      cases hbusy
    rw [Session.process_of_busy _ _ hs.role hbusy rfl, decide_eq_false hnot]
    rfl

/-- The application and the network leave the supervisor as it is. -/
lemma Outward.supervisor {ds : List Delivery} (h : Outward g g' ds) :
    g'.supervisor = g.supervisor := by
  cases h with
  | aside hbooks => exact congrArg Books.supervisor hbooks
  | hears => exact supervisor_dispatch _ _ _

namespace Retried

lemma startRegistration (hattended : Attended g) (h : Retried g n) (l : Listener) :
    Retried (g.startRegistration l).group (g.retries (.act (.startRegistration l)) n) := by
  cases hopen : g.closed with
  | true =>
    rw [startRegistration_of_closed g l hopen]
    simpa only [retries, hopen, Bool.true_or, if_true] using h
  | false =>
  cases hidle : g.supervisor.running with
  | true =>
    have hcount : g.retries (.act (.startRegistration l)) n = n := by simp [retries, hidle]
    rw [startRegistration_of_running g l hopen hidle, hcount]
    exact h.revise rfl rfl id
  | false =>
  have hcount : g.retries (.act (.startRegistration l)) n =
      if g.connected && g.occupied then 1 else 0 := by
    simp [retries, hopen, hidle]
  have hbooks := g.books_engaging l
  have hsession : (g.engaging l).2.supervisor.session = some (g.engaging l).1 :=
    congrArg (·.supervisor.session) hbooks
  have hconnected : (g.engaging l).2.connected = g.connected := congrArg Books.connected hbooks
  have hengaging : Retried (g.engaging l).2 0 :=
    h.afresh (Instant.engaging g l).settings (congrArg (·.supervisor.backoff) hbooks)
  have hasked := hengaging.dispatch (g.engaging l).1 .deregister
  have hresult := (hattended.engaging l).result_deregister hsession
  rw [startRegistration_eq g l hopen hidle, hcount, occupied_eq g l]
  dsimp only
  rw [hresult, hconnected]
  by_cases hup : g.connected = true
  · by_cases hready : (g.engaging l).2.stateOf (g.engaging l).1 = .ready
    · simpa [hup, hready] using hasked
    · have hrunning : (g.engaging l).2.supervisor.running = true :=
        congrArg (·.supervisor.running) hbooks
      have hretry := hasked.scheduleRetry
      rw [connected_dispatch, supervisor_dispatch, hrunning, hconnected, hup] at hretry
      simpa [hup, hready] using hretry
  · simpa [hup] using hengaging

lemma stopRegistration (h : Retried g n) : Retried g.stopRegistration.group n := by
  have hretired : Retried g.retired n := h.pause.revise rfl rfl id
  have hdismissed : ∀ id, Retried (g.dismissed id) n := by
    intro id
    refine hretired.revise (Instant.setAddressee _ _ _).settings ?_ ?_ <;>
      rw [supervisor_dismissed]
    exact fun hs => hs
  rcases g.stopRegistration_eq with ⟨-, heq⟩ | heq | ⟨id, -, heq | ⟨-, heq⟩⟩
  · rw [heq]
    exact h
  · rw [heq]
    exact hretired
  · rw [heq]
    exact hdismissed id
  · rw [heq]
    exact (hdismissed id).dispatch id _

lemma loseConnection (h : Retried g n) : Retried g.loseConnection.group n := by
  obtain ⟨timer, error, -, -, heq⟩ := g.loseConnection_eq
  have hdown : Instant g { g with connected := false } := ⟨rfl, rfl⟩
  have hcut : Instant g g.cutOff.group := hdown.trans (.disconnect _ g.registry.owners)
  rw [heq]
  exact h.revise hcut.settings rfl id

lemma regainConnection (hattended : Attended g) (h : Retried g n) :
    Retried g.regainConnection.group 0 := by
  cases hrunning : g.supervisor.running with
  | false =>
    rw [regainConnection_of_not_running g hrunning]
    refine ⟨h.base, h.cap, fun hs => ?_⟩
    cases hs.symm.trans hrunning
  | true =>
    obtain ⟨id, hid⟩ := hattended.session hrunning
    have hresumed : Retried g.resumed 0 := h.afresh rfl rfl
    rw [regainConnection_eq g hrunning hid]
    exact hresumed.dispatch id _

omit [Transport σ] in
/-- A failure that is noted leads to a retry, unless it is one of those after which there is no
point in it. -/
lemma onRegistrationFailed (h : Retried g n) (id : SessionId) (code : ErrorCode)
    (message : String) (hrunning : g.supervisor.running = true) :
    Retried (g.onRegistrationFailed id code message).group
      (if (Notice.registrationFailed code message).isRetried && g.connected then n + 1 else n) := by
  have hnoted : Retried (g.noteFailure code message) n := h.revise rfl rfl fun hs => hs
  have hretry := hnoted.scheduleRetry
  have hsame : ((g.noteFailure code message).supervisor.running &&
      (g.noteFailure code message).connected) = g.connected := by
    rw [show (g.noteFailure code message).supervisor.running = true from hrunning]
    exact Bool.true_and _
  rw [hsame] at hretry
  cases code with
  | invalidCredentials | serverUnreachable => exact hnoted.pause
  | dataConnectionLost => exact hnoted
  | _ => exact hretry

lemma handOver (h : Retried g n) (d : Delivery) :
    Retried (g.handOver d).group (g.retries (.handOver d) n) := by
  have hended : Retried g.ended n := h.revise rfl rfl fun hs => hs
  unfold retries
  rw [handOver_eq]
  dsimp only
  split
  · next htakes =>
    simp only [takesNotice, supervises, Bool.and_eq_true, decide_eq_true_eq] at htakes
    have hrunning := htakes.1.2.1
    generalize d.notice = notice
    cases notice with
    | registering =>
      exact h.revise rfl rfl fun hs => hs
    | registrationDone duration =>
      by_cases hpos : 0 < duration
      · have haccepted : Retried (g.accepted duration) 0 := h.afresh rfl rfl
        simp only [asksAgain, noting, hpos, decide_true, Bool.not_true, Bool.false_and,
          Bool.false_eq_true, if_false, if_true]
        rw [onRegistrationDone_of_pos g d.session hpos]
        exact (haccepted.scheduleRefresh _).startKeepalive
      · simp only [asksAgain, noting, hpos, decide_false, Bool.not_false, Bool.true_and, if_false]
        split
        · exact hended.dispatch d.session _
        · exact hended
    | registrationFailed code message =>
      exact h.onRegistrationFailed d.session code message hrunning
    | registrationTimeout =>
      have hnoted : Retried (g.noteFailure .timeOut "registration timed out") n :=
        h.revise rfl rfl fun hs => hs
      have hretry := hnoted.scheduleRetry
      rw [show (g.noteFailure .timeOut "registration timed out").supervisor.running = true from
        hrunning, Bool.true_and] at hretry
      exact hretry
    | _ => exact h
  · exact h

lemma wake (h : Retried g n) (call : WakeupCall) : Retried (g.wake call).group n := by
  cases call with
  | refresh =>
    simp only [Group.wake]
    rcases g.refresh_eq with ⟨-, heq⟩ | ⟨-, -, id, -, heq⟩
    · rw [heq]
      exact h
    · have hcleared : Retried g.cleared n := h.revise rfl rfl fun hs => hs
      rw [heq]
      exact hcleared.dispatch id _
  | keepalive process =>
    simp only [Group.wake]
    rcases g.keepAlive_eq process with ⟨-, heq⟩ | ⟨-, timer, network, heq, -⟩
    · rw [heq]
      exact h
    · rw [heq]
      exact h.revise rfl rfl fun hs => hs

lemma act (hg : Sound g) (hattended : Attended g) (h : Retried g n) {a : Action}
    (ha : (Occurrence.act a).Undisturbed g) :
    Retried (g.act a).group (g.retries (.act a) n) := by
  cases hown : a.isSupervision with
  | false =>
    have hsettings : (g.act a).group.settings = g.settings := by
      by_cases htick : ∃ milliseconds, a = .tick milliseconds
      · obtain ⟨milliseconds, rfl⟩ := htick
        rfl
      · exact (Instant.act g (not_exists.mp htick)).settings
    have hsupervisor : (g.act a).group.supervisor = g.supervisor :=
      (outward_act hg hattended ha hown).supervisor
    have hcount : g.retries (.act a) n = n := by
      cases a <;> first | rfl | cases hown
    rw [hcount]
    exact h.revise hsettings (congrArg _ hsupervisor) fun hs => hsupervisor ▸ hs
  | true =>
    cases a with
    | startRegistration l => exact h.startRegistration hattended l
    | stopRegistration => exact h.stopRegistration
    | setRegistrationListener l =>
      simp only [Group.act, answering, setRegistrationListener]
      split
      · exact h
      · split <;> exact h.revise rfl rfl fun hs => hs
    | setConnected up =>
      simp only [Group.act, answering, setConnected, retries]
      cases hopen : g.closed with
      | true => simpa [hopen] using h
      | false =>
        cases hup : g.connected <;> cases up
        · simpa [hopen, hup] using h
        · simpa [hopen, hup] using h.regainConnection hattended
        · simpa [hopen, hup] using h.loseConnection
        · simpa [hopen, hup] using h
    | stopTimer => exact h.revise rfl rfl fun hs => hs
    | close =>
      simp only [Group.act, answering, close]
      split
      · exact h
      · exact h.stopRegistration.revise rfl rfl fun hs => hs
    | _ => cases hown

end Retried

/-! ### What is scheduled -/

omit [Transport σ] in
/-- A retry that can be made leaves one refresh. -/
lemma dues_scheduleRetry (h : Retried g n) (hrunning : g.supervisor.running = true)
    (hup : g.connected = true) (hticks : g.timer.stopped = false) :
    g.scheduleRetry.timer.dues .refresh =
      [g.now + min (g.settings.shortExpiry.toNat * 2 ^ n) g.settings.maxBackoff.toNat * 1000] := by
  rcases g.scheduleRetry_eq with ⟨-, -, heq⟩ | ⟨hcannot, -⟩
  · rw [heq, dues_scheduleRefresh (g := g.advanced) hticks, h.series hrunning,
      Backoff.delay_later]
    rfl
  · rw [hcannot hrunning] at hup
    cases hup

/-- Whatever goes wrong and can be tried again is tried again after the next delay. -/
lemma dues_of_isRetried (h : Retried g n) (hrunning : g.supervisor.running = true)
    (hid : g.supervisor.session = some id) (hup : g.connected = true)
    (hticks : g.timer.stopped = false) {notice : Notice} (hretried : notice.isRetried = true) :
    (g.handOver ⟨.supervisor, id, notice⟩).group.timer.dues .refresh =
      [g.now + min (g.settings.shortExpiry.toNat * 2 ^ n) g.settings.maxBackoff.toNat * 1000] := by
  have hsupervises : g.supervises id = true := by simp [supervises, hrunning, hid]
  have hnoted : ∀ code message, Retried (g.noteFailure code message) n :=
    fun code message => h.revise rfl rfl fun hs => hs
  simp only [handOver, hsupervises, if_true]
  cases notice with
  | registrationTimeout => exact dues_scheduleRetry (hnoted _ _) hrunning hup hticks
  | registrationFailed code message =>
    have hdues := dues_scheduleRetry (hnoted code message) hrunning hup hticks
    cases code with
    | invalidCredentials | serverUnreachable | dataConnectionLost => cases hretried
    | _ => exact hdues
  | _ => cases hretried

/-- A grant leaves one refresh. -/
lemma dues_of_granted (hrunning : g.supervisor.running = true)
    (hid : g.supervisor.session = some id) (hticks : g.timer.stopped = false) {seconds : ℕ}
    (hpos : 0 < seconds) :
    (g.handOver ⟨.supervisor, id, .registrationDone seconds⟩).group.timer.dues .refresh =
      [g.now + max (seconds - g.settings.minExpiry.toNat) g.settings.minExpiry.toNat * 1000] := by
  have hsupervises : g.supervises id = true := by simp [supervises, hrunning, hid]
  simp only [handOver, hsupervises, if_true]
  rw [onRegistrationDone_of_pos g id (Int.natCast_pos.mpr hpos), dues_startKeepalive,
    dues_scheduleRefresh (g := g.accepted seconds) hticks]
  rfl

/-- One more retry is counted. -/
lemma retries_of_isRetried (hrunning : g.supervisor.running = true)
    (hid : g.supervisor.session = some id) (hup : g.connected = true) {notice : Notice}
    (hretried : notice.isRetried = true) :
    g.retries (.handOver ⟨.supervisor, id, notice⟩) n = n + 1 := by
  have hregistration : notice.isRegistration = true := by
    cases notice <;> first | rfl | cases hretried
  have htakes := takesNotice_of_running hrunning hid hregistration
  unfold retries
  dsimp only
  rw [if_pos htakes]
  cases notice with
  | registrationTimeout | registrationFailed => simp [hretried, hup]
  | _ => cases hretried

end Group

namespace Scene

variable {σ : Type} [Transport σ] {c c' : Scene σ} {o : Occurrence σ} {n : ℕ} {id : SessionId}

lemma Step.retried (h : c.Step o c') (ho : o.Undisturbed c.group) (hg : c.group.Sound)
    (hattended : c.group.Attended) (hc : c.group.Retried n) :
    c'.group.Retried (c.group.retries o n) := by
  cases h with
  | act a => exact hc.act hg hattended ho
  | handOver => exact hc.handOver _
  | wake => exact hc.wake _
  | ring | drift => exact hc.revise rfl rfl fun hs => hs

/-- The scenes of a history, each with the number of retries so far. -/
def Retrying (c : Scene σ) (n : ℕ) : Prop :=
  c.Account (Takes Occurrence.Undisturbed) Group.retries 0 n

lemma Retrying.reachable (h : c.Retrying n) :
    c.Reachable (Interleaves Occurrence.Undisturbed) :=
  Account.reachable h fun _ _ _ hstep => hstep.interleaves

lemma Retrying.retried (h : c.Retrying n) : c.group.Retried n := by
  induction h with
  | start => exact Group.retried_start _ _ _
  | step h hstep ih =>
    obtain ⟨hsound, hattended⟩ := Retrying.reachable h |>.attended
    exact hstep.2.retried hstep.1 hsound hattended ih

/-- While a supervisor is running and the data connection is up, whatever was queued before: an
outcome that can be tried again leaves exactly one refresh, after the base delay doubled for every
retry since the supervisor was started, a registration was granted, or the data connection came
back, up to the cap; and a grant leaves exactly one, when its lifetime is about to end. A successful
answer to a registration that is under way grants at least one second. -/
theorem refresh_scheduled_exactly (h : c.Retrying n) (hrunning : c.group.supervisor.running = true)
    (hup : c.group.connected = true) (hticks : c.group.timer.stopped = false)
    (hid : c.group.supervisor.session = some id) :
    (∀ notice : Notice, notice.isRetried = true →
      let told : Delivery := ⟨.supervisor, id, notice⟩
      let base := c.group.settings.shortExpiry.toNat
      c.group.retries (.handOver told) n = n + 1 ∧
        (c.group.handOver told).group.timer.dues .refresh =
          [c.group.now + min (base * 2 ^ n) c.group.settings.maxBackoff.toNat * 1000]) ∧
    (∀ seconds : ℕ, 0 < seconds →
      let told : Delivery := ⟨.supervisor, id, .registrationDone seconds⟩
      let least := c.group.settings.minExpiry.toNat
      (c.group.handOver told).group.timer.dues .refresh =
        [c.group.now + max (seconds - least) least * 1000]) ∧
    ∀ r : Response, r.method = .register → Session.isSuccess r.status = true →
      c.group.registry.resolve r.callId = some id → c.group.stateOf id = .registering →
      let seconds := min r.negotiatedExpiry.toNat (2 ^ 31 - 1)
      let told : Delivery := ⟨.supervisor, id, .registrationDone seconds⟩
      let answered := c.group.act (.signal (.response r))
      let least := c.group.settings.minExpiry.toNat
      1 ≤ seconds ∧ answered.result = .consumed true ∧ answered.deliveries = [told] ∧
        (answered.group.handOver told).group.timer.dues .refresh =
          [c.group.now + max (seconds - least) least * 1000] := by
  refine ⟨fun notice hretried => ⟨?_, ?_⟩, fun seconds hpos => ?_, ?_⟩
  · exact Group.retries_of_isRetried hrunning hid hup hretried
  · exact Group.dues_of_isRetried h.retried hrunning hid hup hticks hretried
  · exact Group.dues_of_granted hrunning hid hticks hpos
  intro r hmethod hsuccess hresolve hstate
  obtain ⟨hsound, hattended⟩ := h.reachable.attended
  have hopen : c.group.closed = false := by
    by_contra hclosed
    have hbooks := (h.reachable.mono fun _ _ hstep => hstep.mono fun _ _ ho => ho.1).inOrder
    rw [hbooks.closed (by simpa using hclosed)] at hrunning
    cases hrunning
  have hgrants : c.group.grants r = true :=
    Group.grants_iff.mpr ⟨hopen, hmethod, hsuccess, hrunning, id, hid, hresolve, hstate⟩
  obtain ⟨i, hi, hgroup, hdeliveries, hresult, -⟩ :=
    Group.act_of_grants hsound hattended hgrants
  obtain rfl : i = id := Option.some.inj (hi.symm.trans hid)
  have hbooks := c.group.books_dispatch i (.response r)
  have hsetup := Group.SameSetup.dispatch c.group i (.response r)
  refine ⟨r.lifetime_pos, hresult, hdeliveries, ?_⟩
  have hdues := Group.dues_of_granted (g := (c.group.dispatch i (.response r)).group)
    ((congrArg (·.supervisor.running) hbooks).trans hrunning)
    ((congrArg (·.supervisor.session) hbooks).trans hid)
    ((congrArg (·.timer.stopped) hbooks).trans hticks) r.lifetime_pos
  rw [hsetup.now, hsetup.settings] at hdues
  rw [hgroup]
  exact hdues

/-- A registrar that was busy has been asked once more, and has yet to answer. -/
def askingOnceMore : Option (Scene (Journal Recorder) × ℕ) :=
  play (fun _ o => o.isOrdinary) Group.retries
    (Move.registering .nobody ++ [.answer (.answering · 503 "Busy"), .deliver, .deliver,
      .always (.tick 10000), .ring, .wake, .deliver, .deliver])
    ofAlice 0

/-- A timeout would double the delay; a grant of an hour is refreshed a minute before its end. -/
theorem refresh_scheduled_exactly_of_busy :
    let p := askingOnceMore.get (by decide +kernel)
    let request := p.1.group.network.network.lastTransaction.get (by decide +kernel)
    let answer : Response := .answering request 200 "OK"
    p.1.Retrying p.2 ∧ p.2 = 1 ∧ p.1.group.now = 10000 ∧
      (p.1.group.handOver ⟨.supervisor, 0, .registrationTimeout⟩).group.timer.dues .refresh =
        [10000 + 20000] ∧
      ((p.1.group.act (.signal (.response answer))).group.handOver
        ⟨.supervisor, 0, .registrationDone 3600⟩).group.timer.dues .refresh =
          [10000 + 3540000] := by
  intro p request answer
  have hretrying : p.1.Retrying p.2 := by
    refine account_of_play (fun c o c' ho hstep => ?_) (.start _ _ _) (Option.some_get _).symm
    exact ⟨(Occurrence.supervised_of_isOrdinary ho).undisturbed, hstep.takes.2⟩
  have hone : p.2 = 1 := by decide +kernel
  have hnow : p.1.group.now = 10000 := by decide +kernel
  have hsettings : p.1.group.settings = .default := by decide +kernel
  have hnegotiated : min answer.negotiatedExpiry.toNat (2 ^ 31 - 1) = 3600 := by decide +kernel
  have hfirst : p.1.group.supervisor.session = some 0 := by decide +kernel
  obtain ⟨hretry, -, hgrant⟩ := refresh_scheduled_exactly hretrying (by decide +kernel)
    (by decide +kernel) (by decide +kernel) hfirst
  obtain ⟨-, htimeout⟩ := hretry .registrationTimeout rfl
  obtain ⟨-, -, -, hgranted⟩ := hgrant answer (by decide +kernel) (by decide +kernel)
    (by decide +kernel) (by decide +kernel)
  rw [hsettings, hone, hnow] at htimeout
  rw [hsettings, hnegotiated, hnow] at hgranted
  exact ⟨hretrying, hone, hnow, htimeout, hgranted⟩

end Scene

end SipAgent
