import SipAgent.Proofs.Group.Scene
import SipAgent.Proofs.Supervisor.Bookkeeping

/-!
# Books in order

The flags of the supervisor, the queue of the timer and the number of the keepalive process are kept
by different operations, and between two of them several threads may do whatever they like. All the
same they never contradict each other: `Group.InOrder` survives every step. The one thing that can
go wrong is a grant that comes too late, after the data connection has been lost; `timely` says that
this has not happened.
-/

namespace SipAgent

namespace Group

variable {σ : Type} {timely : Prop} {wakeups wakeups' : List WakeupCall} {g g' : Group σ}

/-- The books of a group are in order, when these are the wake-ups that the timer has given out and
that have not taken effect. -/
structure InOrder (timely : Prop) (wakeups : List WakeupCall) (g : Group σ) : Prop where
  registered : g.supervisor.registered = true → g.supervisor.running = true
  granted : g.supervisor.registered = true →
    g.supervisor.expiresAt.isSome = true ∧ g.supervisor.lastError = none
  closed : g.closed = true → g.supervisor.running = false
  idle : g.supervisor.running = false →
    g.supervisor.keepalive = none ∧ g.timer.queued .refresh = 0
  /-- There is at most one refresh. -/
  refresh : g.timer.queued .refresh ≤ 1
  /-- Only the process that is running has wake-ups queued. -/
  current : g.OnlyCurrent
  numbered : ∀ process, g.supervisor.keepalive = some process ∨ .keepalive process ∈ wakeups →
    process < g.keepalives
  /-- The process that is running has one wake-up, queued or given out. -/
  ticking : g.timer.stopped = false → ∀ process, g.supervisor.keepalive = some process →
    g.timer.queued (.keepalive process) + wakeups.count (.keepalive process) = 1
  offline : timely → g.connected = false → g.supervisor.registered = false ∧
    g.supervisor.keepalive = none ∧ g.timer.queued .refresh = 0

lemma inOrder_start (profile : Profile) (settings : RegistrationSettings) (network : σ) :
    InOrder timely [] (start profile settings network) where
  registered := nofun
  granted := nofun
  closed := nofun
  idle _ := ⟨rfl, rfl⟩
  refresh := Nat.zero_le 1
  current _ := nofun
  numbered _ := nofun
  ticking _ _ := nofun
  offline _ := nofun

namespace InOrder

/-! ### Changes that keep the books in order -/

lemma congr (h : InOrder timely wakeups g) (hbooks : g'.books = g.books) :
    InOrder timely wakeups g' := by
  simp only [books, Books.mk.injEq] at hbooks
  obtain ⟨hsupervisor, hconnected, hclosed, htimer, hkeepalives⟩ := hbooks
  constructor <;>
    simp only [OnlyCurrent, hsupervisor, hconnected, hclosed, htimer, hkeepalives]
  · exact h.registered
  · exact h.granted
  · exact h.closed
  · exact h.idle
  · exact h.refresh
  · exact h.current
  · exact h.numbered
  · exact h.ticking
  · exact h.offline

/-- The supervisor may note what it likes, as long as it does not take itself for registered. -/
lemma revise (h : InOrder timely wakeups g) {s : Supervisor}
    (hrunning : s.running = g.supervisor.running)
    (hkeepalive : s.keepalive = g.supervisor.keepalive)
    (hregistered : s.registered = true → g.supervisor.registered = true ∧
      s.expiresAt = g.supervisor.expiresAt ∧
      (s.lastError = g.supervisor.lastError ∨ s.lastError = none)) :
    InOrder timely wakeups { g with supervisor := s } where
  registered hs := hrunning.trans (h.registered (hregistered hs).1)
  granted hs := by
    obtain ⟨hg, hexpires, herror⟩ := hregistered hs
    obtain ⟨hsome, hnone⟩ := h.granted hg
    refine ⟨by rw [hexpires]; exact hsome, ?_⟩
    rcases herror with herror | herror
    · exact herror.trans hnone
    · exact herror
  closed hc := hrunning.trans (h.closed hc)
  idle hs := by
    rw [hkeepalive]
    exact h.idle (hrunning.symm.trans hs)
  refresh := h.refresh
  current process hp := hkeepalive.trans (h.current process hp)
  numbered process hp := h.numbered process (hp.imp_left hkeepalive.symm.trans)
  ticking hruns process hp := h.ticking hruns process (hkeepalive.symm.trans hp)
  offline ht hdown := by
    obtain ⟨hnot, hnone, hzero⟩ := h.offline ht hdown
    refine ⟨?_, hkeepalive.trans hnone, hzero⟩
    rw [Bool.eq_false_iff]
    intro hs
    rw [(hregistered hs).1] at hnot
    cases hnot

/-- Wake-ups that are no keepalives count for nothing. -/
lemma of_wakeups (h : InOrder timely wakeups g)
    (hcount : ∀ process, wakeups'.count (.keepalive process) =
      wakeups.count (.keepalive process)) : InOrder timely wakeups' g where
  registered := h.registered
  granted := h.granted
  closed := h.closed
  idle := h.idle
  refresh := h.refresh
  current := h.current
  numbered process hp := by
    refine h.numbered process (hp.imp_right fun hmem => ?_)
    rw [← List.count_pos_iff, hcount, List.count_pos_iff] at hmem
    exact hmem
  ticking hruns process hp := by
    rw [hcount]
    exact h.ticking hruns process hp
  offline := h.offline

/-- A supervisor that neither schedules anything nor takes itself for registered has nothing to
contradict. -/
lemma of_silent (hregistered : g.supervisor.registered = false)
    (hkeepalive : g.supervisor.keepalive = none) (hqueued : ∀ call, g.timer.queued call = 0)
    (hclosed : g.closed = true → g.supervisor.running = false)
    (hnumbered : ∀ process, .keepalive process ∈ wakeups → process < g.keepalives) :
    InOrder timely wakeups g where
  registered hs := by rw [hregistered] at hs; cases hs
  granted hs := by rw [hregistered] at hs; cases hs
  closed := hclosed
  idle _ := ⟨hkeepalive, hqueued _⟩
  refresh := by rw [hqueued]; exact Nat.zero_le 1
  current process hp := by rw [hqueued] at hp; cases hp
  numbered process hp := by
    rcases hp with hp | hp
    · rw [hkeepalive] at hp; cases hp
    · exact hnumbered process hp
  ticking _ process hp := by rw [hkeepalive] at hp; cases hp
  offline _ _ := ⟨hregistered, hkeepalive, hqueued _⟩

/-- Without refresh and keepalive process nothing is queued. -/
lemma queued_eq_zero (h : InOrder timely wakeups g) (hkeepalive : g.supervisor.keepalive = none)
    (hrefresh : g.timer.queued .refresh = 0) (call : WakeupCall) : g.timer.queued call = 0 := by
  cases call with
  | refresh => exact hrefresh
  | keepalive process =>
    by_contra hne
    have hcurrent := h.current process (Nat.pos_of_ne_zero hne)
    rw [hkeepalive] at hcurrent
    cases hcurrent

/-- A supervisor that is running takes itself for registered. -/
lemma grant (h : InOrder timely wakeups g) (hrunning : g.supervisor.running = true)
    (hconnected : timely → g.connected = true) {s : Supervisor} (hs : s.running = true)
    (hexpires : s.expiresAt.isSome = true) (herror : s.lastError = none)
    (hkeepalive : s.keepalive = g.supervisor.keepalive) :
    InOrder timely wakeups { g with supervisor := s } where
  registered _ := hs
  granted _ := ⟨hexpires, herror⟩
  closed hclosed := by
    rw [h.closed hclosed] at hrunning
    cases hrunning
  idle hidle := by
    rw [hs] at hidle
    cases hidle
  refresh := h.refresh
  current process hp := hkeepalive.trans (h.current process hp)
  numbered process hp := h.numbered process (hp.imp_left hkeepalive.symm.trans)
  ticking hruns process hp := h.ticking hruns process (hkeepalive.symm.trans hp)
  offline ht hdown := by
    rw [hconnected ht] at hdown
    cases hdown

/-! ### Scheduling -/

lemma scheduleRefresh (h : InOrder timely wakeups g) (hrunning : g.supervisor.running = true)
    (hconnected : timely → g.connected = true) (seconds : Nat) :
    InOrder timely wakeups (g.scheduleRefresh seconds) := by
  obtain ⟨timer, heq, hstopped, hrefresh, hkeepalive⟩ := g.scheduleRefresh_eq seconds
  rw [heq]
  exact
    { registered := h.registered
      granted := h.granted
      closed := h.closed
      idle := fun hidle => by rw [hrunning] at hidle; cases hidle
      refresh := by
        change timer.queued .refresh ≤ 1
        rw [hrefresh]
        split <;> simp
      current := fun process hp => h.current process (hkeepalive process ▸ hp)
      numbered := h.numbered
      ticking := fun hruns process hp => by
        change timer.queued _ + _ = 1
        rw [hkeepalive]
        exact h.ticking (hstopped.symm.trans hruns) process hp
      offline := fun ht hdown => by rw [hconnected ht] at hdown; cases hdown }

lemma scheduleRetry (h : InOrder timely wakeups g) : InOrder timely wakeups g.scheduleRetry := by
  have hadvanced : InOrder timely wakeups g.advanced :=
    h.revise rfl rfl fun hs => ⟨hs, rfl, .inl rfl⟩
  rcases g.scheduleRetry_eq with ⟨hrunning, hconnected, heq⟩ | ⟨-, heq⟩
  · rw [heq]
    exact hadvanced.scheduleRefresh hrunning (fun _ => hconnected) _
  · rw [heq]
    exact h

lemma startKeepalive [Transport σ] (h : InOrder timely wakeups g)
    (hrunning : g.supervisor.running = true) (hconnected : timely → g.connected = true) :
    InOrder timely wakeups g.startKeepalive := by
  rcases g.startKeepalive_eq with heq | ⟨hnone, timer, heq, hstopped, hqueued⟩
  · rw [heq]
    exact h
  rw [heq]
  have hzero : ∀ process, g.timer.queued (.keepalive process) = 0 := by
    intro process
    by_contra hne
    have hcurrent := h.current process (Nat.pos_of_ne_zero hne)
    rw [hnone] at hcurrent
    cases hcurrent
  -- no wake-up was given out for a process that did not exist
  have hfresh : wakeups.count (.keepalive g.keepalives) = 0 := by
    rw [List.count_eq_zero]
    intro hmem
    exact Nat.lt_irrefl _ (h.numbered _ (.inr hmem))
  exact
    { registered := h.registered
      granted := h.granted
      closed := h.closed
      idle := fun hidle => by rw [hrunning] at hidle; cases hidle
      refresh := by
        change timer.queued .refresh ≤ 1
        rw [hqueued]
        exact h.refresh
      current := fun process hp => by
        change 0 < timer.queued _ at hp
        rw [hqueued, hzero] at hp
        by_cases hsame : g.keepalives = process
        · exact congrArg some hsame
        · simp [hsame] at hp
      numbered := fun process hp => by
        change process < g.keepalives + 1
        rcases hp with hp | hp
        · cases hp
          exact Nat.lt_succ_self _
        · exact Nat.lt_succ_of_lt (h.numbered process (.inr hp))
      ticking := fun hruns process hp => by
        cases hp
        change timer.queued _ + _ = 1
        rw [hqueued, hzero, hfresh, if_pos ⟨rfl, hstopped.symm.trans hruns⟩]
      offline := fun ht hdown => by rw [hconnected ht] at hdown; cases hdown }

/-- Giving up takes everything back. -/
lemma pause (h : InOrder timely wakeups g) : InOrder timely wakeups g.pause := by
  obtain ⟨timer, heq, -, hqueued⟩ := g.pause_eq
  rw [heq]
  exact of_silent rfl rfl (hqueued h.current) (fun _ => rfl)
    fun process hp => h.numbered process (.inr hp)

/-! ### Operations -/

lemma setRegistrationListener (h : InOrder timely wakeups g) (l : Listener) :
    InOrder timely wakeups (g.setRegistrationListener l).group := by
  have hlistener : InOrder timely wakeups
      { g with supervisor := { g.supervisor with listener := l } } :=
    h.revise rfl rfl fun hs => ⟨hs, rfl, .inl rfl⟩
  unfold Group.setRegistrationListener
  split
  · exact h
  · dsimp only
    split <;> exact hlistener

lemma noteFailure (h : InOrder timely wakeups g) (code : ErrorCode) (message : String) :
    InOrder timely wakeups (g.noteFailure code message) :=
  h.revise rfl rfl nofun

lemma onRegistrationFailed (h : InOrder timely wakeups g) (id : SessionId) (code : ErrorCode)
    (message : String) : InOrder timely wakeups (g.onRegistrationFailed id code message).group := by
  have hnoted := h.noteFailure code message
  unfold Group.onRegistrationFailed
  dsimp only
  split
  · exact hnoted.pause
  · exact hnoted.pause
  · exact hnoted
  · exact hnoted.scheduleRetry

/-- A wake-up that the timer gives out is no longer queued. -/
lemma ringAlarm (h : InOrder timely wakeups g) :
    InOrder timely (wakeups ++ g.ringAlarm.1.toList) g.ringAlarm.2 := by
  have hqueued : ∀ call, g.timer.queued call =
      g.ringAlarm.2.timer.queued call + g.ringAlarm.1.toList.count call :=
    fun call => g.timer.queued_ring g.now call
  have hless : ∀ call, g.ringAlarm.2.timer.queued call ≤ g.timer.queued call := by
    intro call
    rw [hqueued]
    exact Nat.le_add_right _ _
  have hzero : g.timer.queued .refresh = 0 → g.ringAlarm.2.timer.queued .refresh = 0 :=
    fun hz => Nat.le_zero.mp (hz ▸ hless _)
  exact
    { registered := h.registered
      granted := h.granted
      closed := h.closed
      idle := fun hidle => ⟨(h.idle hidle).1, hzero (h.idle hidle).2⟩
      refresh := Nat.le_trans (hless _) h.refresh
      current := fun process hp => h.current process (Nat.lt_of_lt_of_le hp (hless _))
      numbered := fun process hp => by
        refine h.numbered process ?_
        rcases hp with hp | hp
        · exact .inl hp
        rcases List.mem_append.mp hp with hp | hp
        · exact .inr hp
        -- what is given out now was queued, so it is of the process that is running
        · refine .inl (h.current process ?_)
          rw [hqueued]
          exact Nat.add_pos_right _ (List.count_pos_iff.mpr hp)
      ticking := fun hruns process hp => by
        have hstopped : g.timer.stopped = false :=
          (g.timer.ring_stopped g.now).symm.trans hruns
        have hone := h.ticking hstopped process hp
        rw [hqueued] at hone
        rw [List.count_append]
        omega
      offline := fun ht hdown =>
        ⟨(h.offline ht hdown).1, (h.offline ht hdown).2.1, hzero (h.offline ht hdown).2.2⟩ }

lemma stopTimer (h : InOrder timely wakeups g) : InOrder timely wakeups g.stopTimer := by
  have hless : ∀ call, g.stopTimer.timer.queued call ≤ g.timer.queued call := by
    intro call
    change g.timer.stop.1.queued call ≤ _
    rw [Timer.queued_stop]
    split
    · exact Nat.le_refl _
    · exact Nat.zero_le _
  have hzero : g.timer.queued .refresh = 0 → g.stopTimer.timer.queued .refresh = 0 :=
    fun hz => Nat.le_zero.mp (hz ▸ hless _)
  exact
    { h with
      idle := fun hidle => ⟨(h.idle hidle).1, hzero (h.idle hidle).2⟩
      refresh := Nat.le_trans (hless _) h.refresh
      current := fun process hp => h.current process (Nat.lt_of_lt_of_le hp (hless _))
      ticking := fun hruns => by
        rw [show g.stopTimer.timer.stopped = true from g.timer.stop_stopped] at hruns
        cases hruns
      offline := fun ht hdown =>
        ⟨(h.offline ht hdown).1, (h.offline ht hdown).2.1, hzero (h.offline ht hdown).2.2⟩ }

variable [Transport σ]

lemma startRegistration (h : InOrder timely wakeups g) (l : Listener) :
    InOrder timely wakeups (g.startRegistration l).group := by
  cases hopen : g.closed with
  | true =>
    rw [startRegistration_of_closed g l hopen]
    exact h
  | false =>
  cases hidle : g.supervisor.running with
  | true =>
    rw [startRegistration_of_running g l hopen hidle]
    exact h.revise rfl rfl fun hs => ⟨hs, rfl, .inl rfl⟩
  | false =>
  obtain ⟨hkeepalive, hrefresh⟩ := h.idle hidle
  -- nothing was scheduled while the supervisor was not running
  have hstarted : InOrder timely wakeups
      { g with
        supervisor := { (g.started l).supervisor with session := some (g.engaging l).1 } } := by
    refine of_silent rfl hkeepalive (h.queued_eq_zero hkeepalive hrefresh) (fun hclosed => ?_)
      fun process hp => h.numbered process (.inr hp)
    rw [hopen] at hclosed
    cases hclosed
  have hengaged : InOrder timely wakeups (g.engaging l).2 := hstarted.congr (g.books_engaging l)
  rw [startRegistration_eq g l hopen hidle]
  dsimp only
  split
  · have hasked := hengaged.congr (books_dispatch _ (g.engaging l).1 .deregister)
    split
    · exact hasked
    · exact hasked.scheduleRetry
  · exact hengaged

lemma stopRegistration (h : InOrder timely wakeups g) :
    InOrder timely wakeups g.stopRegistration.group := by
  have hretired : InOrder timely wakeups g.retired :=
    h.pause.revise rfl rfl fun hs => ⟨hs, rfl, .inr rfl⟩
  have hdismissed : ∀ id, InOrder timely wakeups (g.dismissed id) :=
    fun id => hretired.congr (books_setAddressee _ id (.listener .nobody))
  rcases g.stopRegistration_eq with ⟨-, heq⟩ | heq | ⟨id, -, heq | ⟨-, heq⟩⟩
  · rw [heq]
    exact h
  · rw [heq]
    exact hretired
  · rw [heq]
    exact hdismissed id
  · rw [heq]
    exact (hdismissed id).congr (books_dispatch _ _ _)

lemma close (h : InOrder timely wakeups g) : InOrder timely wakeups g.close.group := by
  unfold Group.close
  split
  · exact h
  · have hstopped := h.stopRegistration
    exact { hstopped with closed := fun _ => g.stopRegistration_running }

lemma onRegistrationDone (h : InOrder timely wakeups g) (hrunning : g.supervisor.running = true)
    (id : SessionId) (duration : Int) (hconnected : timely → 0 < duration → g.connected = true) :
    InOrder timely wakeups (g.onRegistrationDone id duration).group := by
  by_cases hgranted : 0 < duration
  · have hup := fun ht => hconnected ht hgranted
    have haccepted : InOrder timely wakeups (g.accepted duration) :=
      h.grant hrunning hup hrunning rfl rfl rfl
    have hscheduled := haccepted.scheduleRefresh hrunning hup
      (g.settings.refreshDelay duration.toNat)
    obtain ⟨timer, heq, -⟩ :=
      (g.accepted duration).scheduleRefresh_eq (g.settings.refreshDelay duration.toNat)
    rw [onRegistrationDone_of_pos g id hgranted]
    rw [heq] at hscheduled ⊢
    exact hscheduled.startKeepalive hrunning hup
  · have hended : InOrder timely wakeups g.ended := h.revise rfl rfl nofun
    rw [onRegistrationDone_of_not_pos g id hgranted]
    dsimp only
    split
    · exact hended.congr (books_dispatch _ _ _)
    · exact hended

/-- The only notice that can bring the books into disorder is a grant that comes too late. -/
lemma handOver (h : InOrder timely wakeups g) (d : Delivery)
    (hd : timely → ¬ (Occurrence.handOver d : Occurrence σ).Belated g) :
    InOrder timely wakeups (g.handOver d).group := by
  rcases d with ⟨addressee, id, notice⟩
  unfold Group.handOver
  cases addressee with
  | listener l => exact h
  | supervisor =>
    dsimp only
    split
    · next hsupervises =>
      have hrunning : g.supervisor.running = true := by
        simp only [supervises, Bool.and_eq_true] at hsupervises
        exact hsupervises.1
      split
      · exact h.revise rfl rfl nofun
      · next duration =>
        refine h.onRegistrationDone hrunning id duration fun ht hpos => ?_
        by_contra hdown
        exact hd ht ⟨hpos, hsupervises, by simpa using hdown⟩
      · exact h.onRegistrationFailed id _ _
      · exact (h.noteFailure _ _).scheduleRetry
      · exact h
    · exact h

lemma refresh_wakeup (h : InOrder timely wakeups g) : InOrder timely wakeups g.refresh.group := by
  have hcleared : InOrder timely wakeups g.cleared :=
    h.revise rfl rfl fun hs => ⟨hs, rfl, .inr rfl⟩
  rcases g.refresh_eq with ⟨-, heq⟩ | ⟨-, -, id, -, heq⟩
  · rw [heq]
    exact h
  · rw [heq]
    exact hcleared.congr (books_dispatch _ _ _)

/-- A keepalive that takes effect is replaced by the next one. -/
lemma keepAlive {before after : List WakeupCall} {process : Nat}
    (h : InOrder timely (before ++ .keepalive process :: after) g) :
    InOrder timely (before ++ after) (g.keepAlive process) := by
  have hcount : ∀ other,
      (before ++ WakeupCall.keepalive process :: after).count (.keepalive other) =
        (before ++ after).count (.keepalive other) + if process = other then 1 else 0 := by
    intro other
    simp only [List.count_append, List.count_cons, beq_iff_eq, WakeupCall.keepalive.injEq]
    omega
  have hnumbered : ∀ other, g.supervisor.keepalive = some other ∨
      .keepalive other ∈ before ++ after → other < g.keepalives := by
    intro other hother
    refine h.numbered other (hother.imp_right fun hmem => ?_)
    simp only [List.mem_append, List.mem_cons] at hmem ⊢
    tauto
  rcases g.keepAlive_eq process with
    ⟨hidle, heq⟩ | ⟨hcurrent, timer, network, heq, hstopped, hqueued⟩
  · rw [heq]
    -- the process has been stopped, so its wake-up is not the one that counts
    refine { h with numbered := hnumbered, ticking := fun hruns other hother => ?_ }
    have hne : process ≠ other := by
      rintro rfl
      rcases hidle with hclosed | hstopped
      · rw [(h.idle (h.closed hclosed)).1] at hother
        cases hother
      · exact hstopped hother
    have hone := h.ticking hruns other hother
    rw [hcount, if_neg hne] at hone
    exact hone
  · rw [heq]
    exact
      { registered := h.registered
        granted := h.granted
        closed := h.closed
        idle := fun hidle => by
          rw [(h.idle hidle).1] at hcurrent
          cases hcurrent
        refresh := by
          change timer.queued .refresh ≤ 1
          rw [hqueued]
          exact h.refresh
        current := fun other hother => by
          change 0 < timer.queued _ at hother
          rw [hqueued] at hother
          by_cases hsame : process = other
          · rw [← hsame]
            exact hcurrent
          · exact h.current other (by simpa [hsame] using hother)
        numbered := hnumbered
        ticking := fun hruns other hother => by
          change timer.queued _ + _ = 1
          have hone := h.ticking (hstopped.symm.trans hruns) other hother
          obtain rfl : process = other := Option.some.inj (hcurrent.symm.trans hother)
          rw [hcount, if_pos rfl] at hone
          rw [hqueued, if_pos ⟨rfl, hstopped.symm.trans hruns⟩]
          change g.timer.queued _ + 1 + _ = 1
          omega
        offline := fun ht hdown => by
          rw [(h.offline ht hdown).2.1] at hcurrent
          cases hcurrent }

lemma wake {before after : List WakeupCall} {call : WakeupCall}
    (h : InOrder timely (before ++ call :: after) g) :
    InOrder timely (before ++ after) (g.wake call).group := by
  cases call with
  | refresh =>
    refine refresh_wakeup (h.of_wakeups fun process => ?_)
    simp [List.count_append]
  | keepalive process => exact h.keepAlive

lemma regainConnection (h : InOrder timely wakeups g) :
    InOrder timely wakeups g.regainConnection.group := by
  have hup : InOrder timely wakeups { g with connected := true } :=
    { h with offline := nofun }
  unfold Group.regainConnection
  dsimp only
  split
  · have hresumed : InOrder timely wakeups g.resumed :=
      hup.revise rfl rfl fun hs => ⟨hs, rfl, .inr rfl⟩
    split
    · exact hresumed
    · exact hresumed.congr (books_dispatch _ _ _)
  · exact hup

/-- Losing the data connection takes everything back but the wish to register again. -/
lemma loseConnection (h : InOrder timely wakeups g) :
    InOrder timely wakeups g.loseConnection.group := by
  have hbooks := g.books_cutOff
  obtain ⟨timer, error, -, hqueued, heq⟩ := g.loseConnection_eq
  rw [heq]
  refine of_silent rfl rfl (hqueued h.current) (fun hclosed => ?_) fun process hp => ?_
  · exact h.closed ((congrArg Books.closed hbooks).symm.trans hclosed)
  · exact Nat.lt_of_lt_of_eq (h.numbered process (.inr hp)) (congrArg Books.keepalives hbooks).symm

lemma setConnected (h : InOrder timely wakeups g) (up : Bool) :
    InOrder timely wakeups (g.setConnected up).group := by
  unfold Group.setConnected
  split_ifs
  · exact h
  · exact h.regainConnection
  · exact h.loseConnection

/-! ### Every history -/

lemma act (h : InOrder timely wakeups g) {a : Action} (ha : a ≠ .ring) :
    InOrder timely wakeups (g.act a).group := by
  cases a with
  | createSession l =>
    simp only [Group.act]
    split
    · next hmade => exact h.congr (g.books_createSession hmade)
    · exact h
  | command id e => exact h.congr (g.books_command id e)
  | setListener id l => exact h.congr (g.books_setAddressee id _)
  | openToCalls l =>
    simp only [Group.act]
    split
    · next hmade => exact h.congr (g.books_openToCalls hmade)
    · exact h
  | closeToCalls => exact h.congr rfl
  | signal s => exact h.congr (g.books_processSignal s)
  | startRegistration l => exact h.startRegistration l
  | stopRegistration => exact h.stopRegistration
  | setRegistrationListener l => exact h.setRegistrationListener l
  | setConnected up => exact h.setConnected up
  | tick milliseconds => exact h.congr rfl
  | ring => exact absurd rfl ha
  | stopTimer => exact h.stopTimer
  | close => exact h.close

end InOrder

end Group

namespace Scene

variable {σ : Type} [Transport σ] {timely : Prop} {c c' : Scene σ} {o : Occurrence σ}

/-- The books are in order. -/
def InOrder (timely : Prop) (c : Scene σ) : Prop :=
  c.group.InOrder timely c.wakeups

/-- No step brings the books into disorder, unless a grant comes too late. -/
lemma InOrder.step (h : c.InOrder timely) (hstep : c.Step o c') (ho : o.Possible)
    (htimely : timely → ¬ o.Belated c.group) : c'.InOrder timely := by
  cases hstep with
  | act a => exact Group.InOrder.act h ho.1
  | handOver => exact Group.InOrder.handOver h _ htimely
  | ring => exact Group.InOrder.ringAlarm h
  | wake hwakeups =>
    have hc : c.group.InOrder timely c.wakeups := h
    rw [hwakeups] at hc
    exact hc.wake
  | drift network => exact Group.InOrder.congr h rfl

lemma Reachable.inOrder (h : c.Reachable (Interleaves fun _ => Occurrence.Possible)) :
    c.InOrder False := by
  refine h.invariant (fun _ _ _ => Group.inOrder_start _ _ _) ?_
  rintro c c' - ⟨o, ho, hstep⟩ hc
  exact hc.step hstep ho nofun

lemma Reachable.inOrder_of_timely (h : c.Reachable (Interleaves Occurrence.Timely)) :
    c.InOrder True := by
  refine h.invariant (fun _ _ _ => Group.inOrder_start _ _ _) ?_
  rintro c c' - ⟨o, ⟨ho, htimely⟩, hstep⟩ hc
  exact hc.step hstep ho fun _ => htimely

end Scene

end SipAgent
