import SipAgent.Proofs.Group.Account
import SipAgent.Proofs.Group.Debts
import SipAgent.Proofs.Supervisor.Engaged
import SipAgent.Proofs.Supervisor.InOrder
import SipAgent.Proofs.Timer.Record

/-!
# What becomes of the keepalive process

A process is started by a grant, and ended when the supervisor stops or gives up or the data
connection is lost. Whatever else is done with a group leaves it alone (`Group.InStep`): no
keepalive is sent, and none is queued. `Group.Fate` tells which of these three an operation comes
to, apart from the wake-ups of the process itself.
-/

namespace SipAgent

/-- The command keeps the way to the server open. -/
def Command.isKeepalive : Command → Bool
  | .keepalive _ => true
  | _ => false

/-- The milliseconds between two keepalives. -/
def RegistrationSettings.pace (s : RegistrationSettings) : ℕ :=
  s.keepalivePeriod * 1000

/-! ### What the network is asked -/

namespace Session

variable {σ : Type} [Transport σ]

/-- No session asks for a keepalive. -/
lemma not_isKeepalive_of_mem_calls (profile : Profile) (fresh : SessionId) (s : Session)
    (e : SessionEvent) (net : σ) :
    ∀ call ∈ (s.script profile fresh e).calls net, call.command.isKeepalive = false := by
  have hasks : ∀ c, Asks profile (s.attaching e) e c → c.isKeepalive = false := by
    intro c hc
    cases hc <;> rfl
  have hgivesUp : ∀ c, (s.attaching e).GivesUp c → c.isKeepalive = false := by
    rintro c ⟨d, -, rfl⟩
    rfl
  exact ((gives_script profile fresh s e).mono hasks hgivesUp).calls (Promise.nothing_keptBy σ) net

end Session

namespace Group

section

variable {σ : Type} {g g₁ g' : Group (Journal σ)} {id : SessionId} {e : SessionEvent}
  {wakeups : List WakeupCall}

/-- The network is not asked for a keepalive, and the timer is not stopped. -/
structure Unpinged (g g' : Group (Journal σ)) : Prop where
  stopped : g'.timer.stopped = g.timer.stopped
  calls : ∃ calls, g'.network.calls = g.network.calls ++ calls ∧
    ∀ call ∈ calls, call.command.isKeepalive = false

/-- The keepalive process goes on, and no keepalive is queued. -/
structure InStep (g g' : Group (Journal σ)) : Prop extends Unpinged g g' where
  keepalive : g'.supervisor.keepalive = g.supervisor.keepalive
  queued : ∀ w ∈ g'.timer.queue, ∀ process, w.callback = .keepalive process → w ∈ g.timer.queue

namespace Unpinged

lemma of_network (hnetwork : g'.network = g.network)
    (hstopped : g'.timer.stopped = g.timer.stopped) : Unpinged g g' where
  stopped := hstopped
  calls := ⟨[], by rw [hnetwork, List.append_nil], by simp⟩

lemma trans (h : Unpinged g g₁) (h' : Unpinged g₁ g') : Unpinged g g' where
  stopped := h'.stopped.trans h.stopped
  calls := by
    obtain ⟨calls, hcalls, hnone⟩ := h.calls
    obtain ⟨calls', hcalls', hnone'⟩ := h'.calls
    refine ⟨calls ++ calls', by rw [hcalls', hcalls, List.append_assoc], fun call hcall => ?_⟩
    exact (List.mem_append.mp hcall).elim (hnone call) (hnone' call)

variable [Transport σ]

lemma dispatch (g : Group (Journal σ)) (id : SessionId) (e : SessionEvent) :
    Unpinged g (g.dispatch id e).group where
  stopped := congrArg (·.timer.stopped) (g.books_dispatch id e)
  calls := by
    cases hs : g.session? id with
    | none => exact ⟨[], by rw [dispatch_of_none hs, List.append_nil], by simp⟩
    | some s => exact ⟨_, calls_dispatch hs e, s.not_isKeepalive_of_mem_calls _ _ e _⟩

lemma disconnect (g : Group (Journal σ)) (ids : List SessionId) :
    Unpinged g (g.disconnect ids).group := by
  induction ids generalizing g with
  | nil => exact .of_network rfl rfl
  | cons id more ih => exact (dispatch g id .connectionLost).trans (ih _)

end Unpinged

namespace InStep

lemma refl (g : Group (Journal σ)) : InStep g g :=
  ⟨.of_network rfl rfl, rfl, fun _ hw _ _ => hw⟩

lemma trans (h : InStep g g₁) (h' : InStep g₁ g') : InStep g g' where
  toUnpinged := h.toUnpinged.trans h'.toUnpinged
  keepalive := h'.keepalive.trans h.keepalive
  queued w hw process hcallback := h.queued w (h'.queued w hw process hcallback) process hcallback

/-- Whatever leaves the books alone. -/
lemma of_books (h : Unpinged g g') (hbooks : g'.books = g.books) : InStep g g' where
  toUnpinged := h
  keepalive := congrArg (·.supervisor.keepalive) hbooks
  queued _ hw _ _ := congrArg (·.timer.queue) hbooks ▸ hw

lemma of_network (hnetwork : g'.network = g.network) (hbooks : g'.books = g.books) :
    InStep g g' :=
  of_books (.of_network hnetwork (congrArg (·.timer.stopped) hbooks)) hbooks

/-- The supervisor may note what it likes. -/
lemma revise (g : Group (Journal σ)) {s : Supervisor}
    (hkeepalive : s.keepalive = g.supervisor.keepalive) : InStep g { g with supervisor := s } :=
  ⟨.of_network rfl rfl, hkeepalive, fun _ hw _ _ => hw⟩

end InStep

/-! ### Wake-ups -/

lemma mem_setWakeup {seconds : ℕ} {call : WakeupCall} {w : WakeUp WakeupCall}
    (hw : w ∈ (g.setWakeup seconds call).timer.queue) :
    w ∈ g.timer.queue ∨ w.callback = call ∧ w.due = g.now + seconds * 1000 := by
  unfold setWakeup at hw
  cases hstopped : g.timer.stopped with
  | true =>
    rw [Timer.set_eq_none hstopped] at hw
    exact .inl hw
  | false =>
    obtain ⟨timer, order, hset, -, hqueue⟩ :=
      Timer.exists_set hstopped g.now (seconds * 1000) call
    rw [hset] at hw
    dsimp only at hw
    rw [hqueue, Timer.mem_enqueue] at hw
    rcases hw with rfl | hw
    · exact .inr ⟨rfl, rfl⟩
    · exact .inl hw

lemma mem_cancelWakeup {call : WakeupCall} {w : WakeUp WakeupCall}
    (hw : w ∈ (g.cancelWakeup call).timer.queue) : w ∈ g.timer.queue := by
  simp only [cancelWakeup, Timer.cancel_queue] at hw
  exact List.mem_of_mem_filter hw

namespace InStep

lemma scheduleRefresh (g : Group (Journal σ)) (seconds : ℕ) :
    InStep g (g.scheduleRefresh seconds) where
  toUnpinged := .of_network (Files.scheduleRefresh g seconds).network
    (Paperwork.scheduleRefresh g seconds).stopped
  keepalive := by
    obtain ⟨timer, heq, -⟩ := g.scheduleRefresh_eq seconds
    rw [heq]
  queued w hw process hcallback := by
    rcases mem_setWakeup hw with hw | ⟨hrefresh, -⟩
    · exact mem_cancelWakeup hw
    · cases hcallback.symm.trans hrefresh

lemma scheduleRetry (g : Group (Journal σ)) : InStep g g.scheduleRetry := by
  rcases g.scheduleRetry_eq with ⟨-, -, heq⟩ | ⟨-, heq⟩
  · have hadvanced : InStep g g.advanced := .revise g rfl
    rw [heq]
    exact hadvanced.trans (.scheduleRefresh _ _)
  · rw [heq]
    exact .refl g

lemma engaging (g : Group (Journal σ)) (l : Listener) : InStep g (g.engaging l).2 := by
  have hbooks := g.books_engaging l
  have hstarted : Rests g (g.started l) := .of_eq rfl rfl rfl rfl rfl
  exact
    ⟨.of_network (rests_engage hstarted).network (congrArg (·.timer.stopped) hbooks),
      congrArg (·.supervisor.keepalive) hbooks,
      fun _ hw _ _ => congrArg (·.timer.queue) hbooks ▸ hw⟩

variable [Transport σ]

lemma dispatch (g : Group (Journal σ)) (id : SessionId) (e : SessionEvent) :
    InStep g (g.dispatch id e).group :=
  .of_books (.dispatch g id e) (g.books_dispatch id e)

/-! ### What leaves the process alone -/

lemma startRegistration (g : Group (Journal σ)) (l : Listener) :
    InStep g (g.startRegistration l).group := by
  cases hopen : g.closed with
  | true =>
    rw [startRegistration_of_closed g l hopen]
    exact .refl g
  | false =>
  cases hidle : g.supervisor.running with
  | true =>
    rw [startRegistration_of_running g l hopen hidle]
    exact .revise g rfl
  | false =>
  have hasked := (engaging g l).trans (dispatch _ (g.engaging l).1 .deregister)
  rw [startRegistration_eq g l hopen hidle]
  dsimp only
  split
  · split
    · exact hasked
    · exact hasked.trans (.scheduleRetry _)
  · exact engaging g l

lemma regainConnection (g : Group (Journal σ)) : InStep g g.regainConnection.group := by
  have hup : InStep g { g with connected := true } :=
    ⟨.of_network rfl rfl, rfl, fun _ hw _ _ => hw⟩
  have hresumed : InStep g g.resumed := hup.trans (.revise _ rfl)
  unfold Group.regainConnection
  dsimp only
  split
  · split
    · exact hresumed
    · exact hresumed.trans (.dispatch g.resumed _ _)
  · exact hup

lemma refresh (g : Group (Journal σ)) : InStep g g.refresh.group := by
  rcases g.refresh_eq with ⟨-, heq⟩ | ⟨-, -, id, -, heq⟩
  · rw [heq]
    exact .refl g
  · have hcleared : InStep g g.cleared := .revise g rfl
    rw [heq]
    exact hcleared.trans (.dispatch _ _ _)

end InStep

/-! ### What starts a process -/

/-- A process is started. -/
structure Starts (g g' : Group (Journal σ)) : Prop extends Unpinged g g' where
  idle : g.supervisor.keepalive = none
  keepalive : g'.supervisor.keepalive = some g.keepalives
  queued : ∀ w ∈ g'.timer.queue, w.callback = .keepalive g.keepalives →
    w ∈ g.timer.queue ∨ w.due = g.now + g.settings.pace

lemma InStep.starts (h : InStep g g₁) (hinstant : g.Instant g₁)
    (hnumber : g₁.keepalives = g.keepalives) (h' : Starts g₁ g') : Starts g g' where
  toUnpinged := h.toUnpinged.trans h'.toUnpinged
  idle := h.keepalive.symm.trans h'.idle
  keepalive := h'.keepalive.trans (congrArg some hnumber)
  queued w hw hcallback := by
    rcases h'.queued w hw (by rw [hnumber]; exact hcallback) with hqueued | hdue
    · exact .inl (h.queued w hqueued _ hcallback)
    · exact .inr (by rw [hdue, hinstant.now, hinstant.settings])

variable [Transport σ]

/-! ### What ends the process -/

lemma unpinged_stopRegistration (g : Group (Journal σ)) :
    Unpinged g g.stopRegistration.group := by
  have hretired : g.retired.timer.stopped = g.timer.stopped :=
    (Paperwork.retired g).stopped
  have hdismissed : ∀ id, Unpinged g (g.dismissed id) := fun id =>
    .of_network (rests_dismissed g id).network
      ((congrArg (·.timer.stopped) (books_setAddressee g.retired id _)).trans hretired)
  rcases g.stopRegistration_eq with ⟨-, heq⟩ | heq | ⟨id, -, heq | ⟨-, heq⟩⟩
  · rw [heq]
    exact .of_network rfl rfl
  · rw [heq]
    exact .of_network (rests_retired g).network hretired
  · rw [heq]
    exact hdismissed id
  · rw [heq]
    exact (hdismissed id).trans (.dispatch _ _ _)

lemma unpinged_loseConnection (g : Group (Journal σ)) :
    Unpinged g g.loseConnection.group ∧ g.loseConnection.group.supervisor.keepalive = none := by
  have hdown : Unpinged g { g with connected := false } := .of_network rfl rfl
  have hcut : Unpinged g g.cutOff.group := hdown.trans (.disconnect _ g.registry.owners)
  obtain ⟨timer, error, hstopped, -, heq⟩ := g.loseConnection_eq
  rw [heq]
  exact ⟨⟨hstopped, hcut.calls⟩, rfl⟩

/-! ### Since when the process should be running -/

/-- Registrations that are granted are kept alive: the profile says so, or the network is bound to
an address behind a translator. -/
def keepsAlive (g : Group (Journal σ)) : Bool :=
  g.profile.sendKeepalive || (Transport.localAddress g.network).isTranslated

/-- A grant starts the process unless it is running, and a failure for which the supervisor gives up
ends it. -/
def sinceTold (g : Group (Journal σ)) : Notice → Option ℕ → Option ℕ
  | .registrationDone duration, since =>
    if 0 < duration ∧ g.keepsAlive = true then since.or (some g.now) else since
  | .registrationFailed .invalidCredentials _, _ => none
  | .registrationFailed .serverUnreachable _, _ => none
  | _, since => since

/-- The moment at which the process that should be running after an occurrence was started. -/
def since (g : Group (Journal σ)) : Occurrence (Journal σ) → Option ℕ → Option ℕ
  | .act .stopRegistration, _ | .act .close, _ => none
  | .act (.setConnected up), since => if !g.closed && g.connected && !up then none else since
  | .handOver d, since => if g.takesNotice d then g.sinceTold d.notice since else since
  | _, since => since

variable {s : Option ℕ}

/-! ### What becomes of the process -/

/-- What becomes of the process, apart from its wake-ups. -/
inductive Fate (g g' : Group (Journal σ)) : Option ℕ → Option ℕ → Prop where
  | goesOn {s : Option ℕ} (h : InStep g g') : Fate g g' s s
  | ends {s : Option ℕ} (h : Unpinged g g') (hnone : g'.supervisor.keepalive = none) :
      Fate g g' s none
  | starts (h : Starts g g') : Fate g g' none (some g.now)

omit [Transport σ] in
lemma Fate.stopped {s s' : Option ℕ} (h : Fate g g' s s') :
    g'.timer.stopped = g.timer.stopped := by
  cases h with
  | goesOn h => exact h.stopped
  | ends h => exact h.stopped
  | starts h => exact h.stopped

/-- A process that is running is not started again, and one that is not needed is not started. -/
lemma startKeepalive_of_not_needed
    (h : g.supervisor.keepalive.isSome = true ∨ g.keepsAlive = false) : g.startKeepalive = g := by
  unfold startKeepalive
  split
  · rfl
  · next hidle =>
    have hnot := h.resolve_left hidle
    unfold keepsAlive at hnot
    rw [hnot]
    rfl

lemma starts_startKeepalive (hidle : g.supervisor.keepalive = none)
    (hneeded : g.keepsAlive = true) : Starts g g.startKeepalive := by
  let numbered : Group (Journal σ) :=
    { g with
      supervisor := { g.supervisor with keepalive := some g.keepalives }
      keepalives := g.keepalives + 1 }
  have hstarted : g.startKeepalive =
      numbered.setWakeup g.settings.keepalivePeriod (.keepalive g.keepalives) := by
    unfold keepsAlive at hneeded
    simp only [startKeepalive, hidle, hneeded, Option.isSome_none, Bool.false_eq_true, if_false,
      if_true]
    rfl
  refine ⟨.of_network (Files.startKeepalive g).network (Paperwork.startKeepalive g).stopped, hidle,
    ?_, fun w hw _ => ?_⟩
  · obtain ⟨timer, heq, -⟩ :=
      numbered.setWakeup_eq g.settings.keepalivePeriod (.keepalive g.keepalives)
    rw [hstarted, heq]
  · rw [hstarted] at hw
    exact (mem_setWakeup hw).imp_right And.right

/-- A process is started if it is needed and none is running. -/
lemma fate_startKeepalive (h : InStep g g₁) (hinstant : g.Instant g₁)
    (hnumber : g₁.keepalives = g.keepalives) (hneeds : g₁.keepsAlive = g.keepsAlive)
    (hs : s = none ↔ g.supervisor.keepalive = none) :
    Fate g g₁.startKeepalive s (if g.keepsAlive = true then s.or (some g.now) else s) := by
  have hsame : s = none ↔ g₁.supervisor.keepalive = none := by rw [hs, h.keepalive]
  cases s with
  | some t =>
    have hrunning : g₁.supervisor.keepalive.isSome = true := by
      rw [Option.isSome_iff_ne_none]
      exact hsame.not.mp nofun
    rw [startKeepalive_of_not_needed (.inl hrunning)]
    simp only [Option.some_or, ite_self]
    exact .goesOn h
  | none =>
    cases hneeded : g.keepsAlive with
    | false =>
      rw [startKeepalive_of_not_needed (.inr (hneeds.trans hneeded))]
      exact .goesOn h
    | true =>
      have hstarts := starts_startKeepalive (hsame.mp rfl) (hneeds.trans hneeded)
      exact .starts (h.starts hinstant hnumber hstarts)

/-- What the supervisor is told starts the process, ends it, or leaves it alone. -/
lemma fate_noting (g : Group (Journal σ)) (id : SessionId) (n : Notice)
    (hs : s = none ↔ g.supervisor.keepalive = none) :
    Fate g (g.noting id n) s (g.sinceTold n s) := by
  have hpaused : ∀ code message, Fate g (g.noteFailure code message).pause s none := by
    intro code message
    have hnoted := Files.noteFailure g code message
    obtain ⟨timer, heq, hstopped, -⟩ := (g.noteFailure code message).pause_eq
    refine .ends (.of_network (hnoted.trans (.pause _)).network ?_) ?_
    · rw [heq]
      exact hstopped
    · rw [heq]
  have hretried : ∀ code message, Fate g (g.noteFailure code message).scheduleRetry s s := by
    intro code message
    have hnoted : InStep g (g.noteFailure code message) := .revise g rfl
    exact .goesOn (hnoted.trans (.scheduleRetry _))
  cases n with
  | registering => exact .goesOn (.revise g rfl)
  | registrationDone duration =>
    by_cases hpos : 0 < duration
    · have haccepted : InStep g (g.accepted duration) := .revise g rfl
      have hscheduled :=
        haccepted.trans (.scheduleRefresh _ (g.settings.refreshDelay duration.toNat))
      obtain ⟨timer, hrefresh, -⟩ :=
        (g.accepted duration).scheduleRefresh_eq (g.settings.refreshDelay duration.toNat)
      simp only [noting, sinceTold, hpos, if_true, true_and]
      rw [onRegistrationDone_of_pos g id hpos]
      rw [hrefresh] at hscheduled ⊢
      exact fate_startKeepalive hscheduled ⟨rfl, rfl⟩ rfl rfl hs
    · simp only [noting, sinceTold, hpos, false_and, if_false]
      exact .goesOn (.revise g rfl)
  | registrationFailed code message =>
    cases code with
    | invalidCredentials | serverUnreachable => exact hpaused _ _
    | dataConnectionLost => exact .goesOn (.revise g rfl)
    | _ => exact hretried _ _
  | registrationTimeout => exact hretried _ _
  | _ => exact .goesOn (.refl g)

lemma fate_handOver (g : Group (Journal σ)) (d : Delivery)
    (hs : s = none ↔ g.supervisor.keepalive = none) :
    Fate g (g.handOver d).group s (g.since (.handOver d) s) := by
  rw [handOver_eq]
  cases htakes : g.takesNotice d with
  | false =>
    simp only [since, htakes, Bool.false_eq_true, if_false]
    exact .goesOn (.refl g)
  | true =>
    simp only [since, htakes, if_true]
    split
    · next hasks =>
      have hended : InStep g g.ended := .revise g rfl
      have hsame : g.sinceTold d.notice s = s := by
        unfold asksAgain at hasks
        split at hasks
        · next duration hdone =>
          have hnot : ¬ 0 < duration := by
            rw [Bool.and_eq_true] at hasks
            simpa using hasks.1
          simp [hdone, sinceTold, hnot]
        · cases hasks
      rw [hsame]
      exact .goesOn (hended.trans (.dispatch _ _ _))
    · exact fate_noting g _ _ hs

lemma fate_setConnected (g : Group (Journal σ)) (up : Bool) :
    Fate g (g.setConnected up).group s (g.since (.act (.setConnected up)) s) := by
  unfold Group.setConnected
  split
  · next hcannot =>
    have hsame : g.since (.act (.setConnected up)) s = s := by
      cases hclosed : g.closed <;> cases hconnected : g.connected <;> cases up <;>
        simp_all [since]
    rw [hsame]
    exact .goesOn (.refl g)
  · next hcan =>
    rw [Bool.or_eq_true, decide_eq_true_eq, not_or, Bool.not_eq_true] at hcan
    cases up with
    | true =>
      simp only [since, Bool.not_true, Bool.and_false, Bool.false_eq_true, if_false, if_true]
      exact .goesOn (.regainConnection g)
    | false =>
      have hup : g.connected = true := by simpa using hcan.2
      obtain ⟨hunpinged, hnone⟩ := unpinged_loseConnection g
      simp only [since, hcan.1, hup, Bool.not_false, Bool.and_self, Bool.false_eq_true, if_false,
        if_true]
      exact .ends hunpinged hnone

/-- Actions end the process or leave it alone. -/
lemma fate_act (hbooks : g.InOrder False wakeups) {a : Action} (hring : a ≠ .ring)
    (hstop : a ≠ .stopTimer) : Fate g (g.act a).group s (g.since (.act a) s) := by
  have hafter : (g.act a).group.InOrder False wakeups := hbooks.act hring
  cases a with
  | createSession l =>
    by_cases hclosed : g.closed = true
    · simp only [Group.act, createSession, if_pos hclosed]
      exact .goesOn (.refl g)
    · simp only [Group.act, createSession, if_neg hclosed]
      exact .goesOn (.of_network rfl rfl)
  | command id e =>
    simp only [Group.act, answering, command]
    split
    · exact .goesOn (.refl g)
    · split <;> exact .goesOn (.dispatch g id e)
  | setListener id l =>
    exact .goesOn (.of_network (rests_setAddressee g id _).network (g.books_setAddressee id _))
  | openToCalls l =>
    by_cases hclosed : g.closed = true
    · simp only [Group.act, openToCalls, if_pos hclosed]
      exact .goesOn (.refl g)
    · simp only [Group.act, openToCalls, if_neg hclosed]
      exact .goesOn (.of_network rfl rfl)
  | signal m =>
    simp only [Group.act, answering, processSignal]
    split
    · exact .goesOn (.refl g)
    · split
      · exact .goesOn (.refl g)
      · exact .goesOn (.dispatch g _ _)
  | startRegistration l => exact .goesOn (.startRegistration g l)
  -- a supervisor that is not running has no process
  | stopRegistration =>
    exact .ends (unpinged_stopRegistration g) (hafter.idle g.stopRegistration_running).1
  | setRegistrationListener l =>
    have hheard : InStep g { g with supervisor := { g.supervisor with listener := l } } :=
      .revise g rfl
    simp only [Group.act, answering, setRegistrationListener]
    split
    · exact .goesOn (.refl g)
    · split <;> exact .goesOn hheard
  | setConnected up => exact fate_setConnected g up
  | ring => exact absurd rfl hring
  | stopTimer => exact absurd rfl hstop
  | close =>
    have hstopped : (g.act .close).group.supervisor.running = false := by
      simp only [Group.act, answering, close]
      split
      · next hclosed => exact hbooks.closed hclosed
      · exact g.stopRegistration_running
    refine .ends ?_ (hafter.idle hstopped).1
    simp only [Group.act, answering, close]
    split
    · exact .of_network rfl rfl
    · exact ⟨(unpinged_stopRegistration g).stopped, (unpinged_stopRegistration g).calls⟩
  | closeToCalls | tick => exact .goesOn (.of_network rfl rfl)

end

end Group

end SipAgent
