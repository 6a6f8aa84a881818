import SipAgent.Proofs.Group.Keeps

/-!
# What an operation does to sessions, keys and network

As far as sessions, their keys and the network are concerned, an operation on a group comes down to
very little, which `Group.Course` lists: it feeds one event to one session, or it disconnects some of
them, or it sends a keepalive, or it closes the group, and everything else that it does keeps the
sessions and their keys and asks nothing of the network.
-/

namespace SipAgent

/-- Sessions get no events but commands from the user, and signals only as far as permitted. -/
def Action.Allowed (permits : Signal → Prop) : Action → Prop
  | .command _ e => e.isCommand
  | .signal s => permits s
  | _ => True

namespace Group

variable {σ : Type} {g g₁ g₂ g' : Group σ}

variable {permits permits' : Signal → Prop} {cuts cuts' : Prop} {id : SessionId} {e : SessionEvent}

/-! ### Courses -/

/-- The events that are fed to sessions: any command to any session, and permitted signals to
whoever they are for. -/
inductive Feeds (permits : Signal → Prop) (g : Group σ) : SessionId → SessionEvent → Prop where
  | command (id : SessionId) {e : SessionEvent} (he : e.isCommand) : Feeds permits g id e
  | signal {id : SessionId} {s : Signal} (hs : permits s) (h : g.registry.resolve s.key = some id) :
      Feeds permits g id (.ofSignal s)

/-- A signal only gets to the session that it is for. -/
lemma Feeds.of_signal {s : Signal} (h : Feeds permits g id (.ofSignal s)) :
    permits s ∧ g.registry.resolve s.key = some id := by
  generalize he : SessionEvent.ofSignal s = e at h
  cases h with
  | command hcommand =>
    subst he
    cases s <;> cases hcommand
  | @signal s' hs' hresolve =>
    obtain rfl : s = s' := by cases s <;> cases s' <;> cases he <;> rfl
    exact ⟨hs', hresolve⟩

lemma Feeds.mono (h : Feeds permits g id e) (hpermits : ∀ s, permits s → permits' s) :
    Feeds permits' g id e := by
  cases h with
  | command he => exact .command id he
  | signal hs h => exact .signal (hpermits _ hs) h

variable [Transport σ]

/-- What one operation does to the sessions of a group, to their keys and to the network. Sessions
are disconnected only where that may happen. -/
inductive Course (permits : Signal → Prop) (cuts : Prop) (g : Group σ) : Group σ → Prop where
  | rests {g' : Group σ} (h : Rests g g') : Course permits cuts g g'
  /-- A keepalive is sent; it does not matter whether that works. -/
  | pings {g' : Group σ}
      (after : Rests { g with network := (Transport.perform (.keepalive g.profile) g.network).2 } g') :
      Course permits cuts g g'
  | feeds {g₁ g' : Group σ} {id : SessionId} {e : SessionEvent} (before : Rests g g₁)
      (h : Feeds permits g₁ id e) (after : Rests (g₁.dispatch id e).group g') :
      Course permits cuts g g'
  | disconnects {g₁ g' : Group σ} (hcuts : cuts) (before : Rests g g₁) (ids : List SessionId)
      (after : Rests (g₁.disconnect ids).group g') : Course permits cuts g g'
  | closes {g₁ : Group σ} (h : Course permits cuts g g₁) :
      Course permits cuts g { g₁ with closed := true, registry := .empty }

namespace Course

lemma refl (g : Group σ) : Course permits cuts g g :=
  .rests (.refl g)

lemma before (h : Rests g g₁) (h' : Course permits cuts g₁ g') : Course permits cuts g g' := by
  induction h' with
  | rests h' => exact .rests (h.trans h')
  | pings after =>
    have hkeeps : Keeps { g with network := (Transport.perform (.keepalive g.profile) g.network).2 }
        { g₁ with network := (Transport.perform (.keepalive g₁.profile) g₁.network).2 } :=
      ⟨h.profile, h.closed, h.bindings, h.receiver, h.sessions, h.created⟩
    refine .pings (.trans ⟨hkeeps, ?_⟩ after)
    change (Transport.perform (.keepalive g₁.profile) g₁.network).2 = _
    rw [h.profile, h.network]
  | feeds before feeds after => exact .feeds (h.trans before) feeds after
  | disconnects hcuts before ids after => exact .disconnects hcuts (h.trans before) ids after
  | closes _ ih => exact .closes ih

lemma dispatch (h : Feeds permits g id e) : Course permits cuts g (g.dispatch id e).group :=
  .feeds (.refl g) h (.refl _)

lemma mono (h : Course permits cuts g g') (hpermits : ∀ s, permits s → permits' s)
    (hcuts : cuts → cuts') : Course permits' cuts' g g' := by
  induction h with
  | rests h => exact .rests h
  | pings after => exact .pings after
  | feeds before h after => exact .feeds before (h.mono hpermits) after
  | disconnects hcut before ids after => exact .disconnects (hcuts hcut) before ids after
  | closes _ ih => exact .closes ih

end Course

/-! ### What each operation does -/

section Operations

variable (permits : Signal → Prop) (cuts : Prop) (g : Group σ)

lemma course_createSession {l : Listener} {made : SessionId × Group σ}
    (h : g.createSession l = .ok made) : Course permits cuts g made.2 := by
  unfold createSession at h
  split at h
  · cases h
  · cases h
    exact .rests (rests_addSession g _ _)

lemma course_openToCalls {l : Listener} {g' : Group σ} (h : g.openToCalls l = .ok g') :
    Course permits cuts g g' := by
  unfold openToCalls at h
  split at h
  · cases h
  · cases h
    have hadd := rests_addSession g .receiver (.listener l)
    refine .rests ⟨⟨rfl, rfl, rfl, ?_, hadd.sessions, hadd.created⟩, rfl⟩
    rintro i ⟨⟩
    refine .inr ((session?_addSession g .receiver (.listener l) _).trans ?_)
    exact if_pos rfl

lemma course_closeToCalls : Course permits cuts g g.closeToCalls :=
  .rests ⟨⟨rfl, rfl, rfl, nofun, fun _ _ h => h, fun _ _ => .inl⟩, rfl⟩

lemma course_command (id : SessionId) {e : SessionEvent} (he : e.isCommand) :
    Course permits cuts g (g.command id e).group := by
  unfold command
  split
  · exact .refl g
  · dsimp only
    split <;> exact .dispatch (.command id he)

lemma course_processSignal {s : Signal} (hs : permits s) :
    Course permits cuts g (g.processSignal s).group := by
  unfold processSignal
  split
  · exact .refl g
  · split
    · exact .refl g
    · next h => exact .dispatch (.signal hs h)

lemma course_startRegistration (l : Listener) :
    Course permits cuts g (g.startRegistration l).group := by
  unfold startRegistration
  split
  · exact .refl g
  dsimp only
  split
  · exact .rests (.of_eq rfl rfl rfl rfl rfl)
  split
  · split
    · refine .feeds (rests_engage ?_) (.command _ rfl) (.refl _)
      exact .of_eq rfl rfl rfl rfl rfl
    · refine .feeds (rests_engage ?_) (.command _ rfl) (rests_scheduleRetry _)
      exact .of_eq rfl rfl rfl rfl rfl
  · refine .rests (rests_engage ?_)
    exact .of_eq rfl rfl rfl rfl rfl

lemma course_stopRegistration : Course permits cuts g g.stopRegistration.group := by
  unfold stopRegistration
  split
  · dsimp only
    have hpause : Rests g
        { g.pause with supervisor := { g.pause.supervisor with lastError := none } } :=
      (rests_pause g).trans (.of_eq rfl rfl rfl rfl rfl)
    split
    · exact .rests hpause
    · split
      · exact .feeds (hpause.trans (rests_setAddressee _ _ _)) (.command _ rfl) (.refl _)
      · exact .rests (hpause.trans (rests_setAddressee _ _ _))
  · exact .refl g

lemma course_setRegistrationListener (l : Listener) :
    Course permits cuts g (g.setRegistrationListener l).group := by
  unfold setRegistrationListener
  split
  · exact .refl g
  · dsimp only
    split <;> exact .rests (.of_eq rfl rfl rfl rfl rfl)

lemma course_onRegistrationDone (id : SessionId) (duration : Int) :
    Course permits cuts g (g.onRegistrationDone id duration).group := by
  unfold onRegistrationDone
  dsimp only
  split
  · refine .rests (.trans ?_ (rests_startKeepalive _))
    refine .trans ?_ (rests_scheduleRefresh _ _)
    exact .of_eq rfl rfl rfl rfl rfl
  · split
    · refine .feeds ?_ (.command _ rfl) (.refl _)
      exact .of_eq rfl rfl rfl rfl rfl
    · exact .rests (.of_eq rfl rfl rfl rfl rfl)

lemma course_onRegistrationFailed (id : SessionId) (code : ErrorCode) (message : String) :
    Course permits cuts g (g.onRegistrationFailed id code message).group := by
  have hnote : Rests g (g.noteFailure code message) := .of_eq rfl rfl rfl rfl rfl
  unfold onRegistrationFailed
  dsimp only
  split
  · exact .rests (hnote.trans (rests_pause _))
  · exact .rests (hnote.trans (rests_pause _))
  · exact .rests hnote
  · exact .rests (hnote.trans (rests_scheduleRetry _))

lemma course_handOver (d : Delivery) : Course permits cuts g (g.handOver d).group := by
  unfold handOver
  split
  · exact .refl g
  · split
    · split
      · exact .rests (.of_eq rfl rfl rfl rfl rfl)
      · exact course_onRegistrationDone permits cuts g _ _
      · exact course_onRegistrationFailed permits cuts g _ _ _
      · refine .rests (.trans ?_ (rests_scheduleRetry _))
        exact .of_eq rfl rfl rfl rfl rfl
      · exact .refl g
    · exact .refl g

lemma course_wake (call : WakeupCall) : Course permits cuts g (g.wake call).group := by
  unfold wake
  split
  · unfold refresh
    split
    · exact .refl g
    · split
      · exact .refl g
      · refine .feeds ?_ (.command _ rfl) (.refl _)
        exact .of_eq rfl rfl rfl rfl rfl
  · rcases rests_keepAlive g _ with h | h
    · exact .rests h
    · exact .pings h

lemma course_regainConnection : Course permits cuts g g.regainConnection.group := by
  unfold regainConnection
  dsimp only
  split
  · split
    · exact .rests (.of_eq rfl rfl rfl rfl rfl)
    · refine .feeds ?_ (.command _ rfl) (.refl _)
      exact .of_eq rfl rfl rfl rfl rfl
  · exact .rests (.of_eq rfl rfl rfl rfl rfl)

lemma course_loseConnection : Course permits True g g.loseConnection.group := by
  have hafter : ∀ (g : Group σ) (supervisor : Supervisor), Rests g
      { (g.cancelWakeup .refresh).stopKeepalive with supervisor := supervisor } := by
    intro g supervisor
    exact ((rests_cancelWakeup g _).trans (rests_stopKeepalive _)).trans (.of_eq rfl rfl rfl rfl rfl)
  have hdown : Rests g { g with connected := false } := .of_eq rfl rfl rfl rfl rfl
  unfold loseConnection
  dsimp only
  split
  · exact .disconnects trivial hdown _ (hafter _ _)
  · split
    · exact .disconnects trivial hdown _ (hafter _ _)
    · exact .disconnects trivial hdown _ (hafter _ _)

/-- Sessions are disconnected only when the data connection goes down. -/
lemma course_setConnected (up : Bool) :
    Course permits (up = false) g (g.setConnected up).group := by
  unfold setConnected
  split_ifs with hnothing hup
  · exact .refl g
  · exact course_regainConnection permits _ g
  · exact (course_loseConnection permits g).mono (fun _ => id) fun _ => by simpa using hup

lemma course_ring : Course permits cuts g g.ring.group := by
  have hring : Rests g g.ringAlarm.2 := .of_eq rfl rfl rfl rfl rfl
  unfold ring
  split
  · next call g' h =>
    rw [h] at hring
    exact (course_wake permits cuts g' call).before hring
  · next g' h =>
    rw [h] at hring
    exact .rests hring

lemma course_close : Course permits cuts g g.close.group := by
  unfold close
  split
  · exact .refl g
  · exact .closes (course_stopRegistration permits cuts g)

end Operations

/-- What an action does to sessions, keys and network: it feeds no signal but the one that it hands
over, and disconnects nobody unless the data connection goes down. -/
theorem course_act (g : Group σ) {a : Action} (ha : a.Allowed fun _ => True) :
    Course (a = .signal ·) (a = .setConnected false) g (g.act a).group := by
  cases a with
  | createSession l =>
    simp only [act]
    split
    · next h => exact course_createSession _ _ g h
    · exact .refl g
  | command id e => exact course_command _ _ g id ha
  | setListener id l => exact .rests (rests_setAddressee g id _)
  | openToCalls l =>
    simp only [act]
    split
    · next h => exact course_openToCalls _ _ g h
    · exact .refl g
  | closeToCalls => exact course_closeToCalls _ _ g
  | signal s => exact course_processSignal _ _ g rfl
  | startRegistration l => exact course_startRegistration _ _ g l
  | stopRegistration => exact course_stopRegistration _ _ g
  | setRegistrationListener l => exact course_setRegistrationListener _ _ g l
  | setConnected up =>
    refine (course_setConnected _ g up).mono (fun _ => id) ?_
    rintro rfl
    rfl
  | tick milliseconds => exact .rests (.of_eq rfl rfl rfl rfl rfl)
  | ring => exact course_ring _ _ g
  | stopTimer => exact .rests (.of_eq rfl rfl rfl rfl rfl)
  | close => exact course_close _ _ g

end Group

end SipAgent
