import SipAgent.Proofs.Group.Scene
import SipAgent.Proofs.Supervisor.Bookkeeping

/-!
# Who turns the connection and the timer off

The data connection is lost and regained, and the timer stopped, when somebody says so, and never on
the way: whatever else happens to a group is `Steady`.
-/

namespace SipAgent

namespace Group

variable {σ : Type} {g g₁ g' : Group σ}

/-- The data connection is up or down as before, and so is the timer. -/
structure Steady (g g' : Group σ) : Prop where
  connected : g'.connected = g.connected
  stopped : g'.timer.stopped = g.timer.stopped

namespace Steady

lemma refl (g : Group σ) : Steady g g :=
  ⟨rfl, rfl⟩

lemma trans (h : Steady g g₁) (h' : Steady g₁ g') : Steady g g' :=
  ⟨h'.connected.trans h.connected, h'.stopped.trans h.stopped⟩

lemma of_books (h : g'.books = g.books) : Steady g g' :=
  ⟨congrArg Books.connected h, congrArg (·.timer.stopped) h⟩

end Steady

lemma Paperwork.steady (h : Paperwork g g') : Steady g g' :=
  ⟨h.connected, h.stopped⟩

variable [Transport σ] (g : Group σ)

lemma steady_dispatch (id : SessionId) (e : SessionEvent) : Steady g (g.dispatch id e).group :=
  .of_books (books_dispatch g id e)

lemma steady_startRegistration (l : Listener) : Steady g (g.startRegistration l).group := by
  cases hopen : g.closed with
  | true =>
    rw [startRegistration_of_closed g l hopen]
    exact .refl g
  | false =>
  cases hidle : g.supervisor.running with
  | true =>
    rw [startRegistration_of_running g l hopen hidle]
    exact ⟨rfl, rfl⟩
  | false =>
  have hengaging : Steady g (g.engaging l).2 :=
    ⟨congrArg Books.connected (g.books_engaging l),
      congrArg (·.timer.stopped) (g.books_engaging l)⟩
  have hasked := hengaging.trans (steady_dispatch _ (g.engaging l).1 .deregister)
  rw [startRegistration_eq g l hopen hidle]
  dsimp only
  split
  · split
    · exact hasked
    · exact hasked.trans (Paperwork.scheduleRetry _).steady
  · exact hengaging

lemma steady_stopRegistration : Steady g g.stopRegistration.group := by
  have hretired := (Paperwork.retired g).steady
  have hdismissed : ∀ id, Steady g (g.dismissed id) := fun id =>
    hretired.trans (.of_books (books_setAddressee g.retired id _))
  rcases g.stopRegistration_eq with ⟨-, heq⟩ | heq | ⟨id, -, heq | ⟨-, heq⟩⟩
  · rw [heq]
    exact .refl g
  · rw [heq]
    exact hretired
  · rw [heq]
    exact hdismissed id
  · rw [heq]
    exact (hdismissed id).trans (steady_dispatch _ _ _)

lemma steady_onRegistrationDone (id : SessionId) (duration : Int) :
    Steady g (g.onRegistrationDone id duration).group := by
  by_cases hpos : 0 < duration
  · rw [onRegistrationDone_of_pos g id hpos]
    exact (((Paperwork.accepted g _).trans (.scheduleRefresh _ _)).trans (.startKeepalive _)).steady
  · have hended := (Paperwork.ended g).steady
    rw [onRegistrationDone_of_not_pos g id hpos]
    dsimp only
    split
    · exact hended.trans (steady_dispatch _ _ _)
    · exact hended

lemma steady_handOver (d : Delivery) : Steady g (g.handOver d).group := by
  unfold handOver
  split
  · exact .refl g
  split
  · split
    · exact ⟨rfl, rfl⟩
    · exact g.steady_onRegistrationDone _ _
    · exact (Paperwork.onRegistrationFailed g _ _ _).steady
    · exact ((Paperwork.noteFailure g _ _).trans (.scheduleRetry _)).steady
    · exact .refl g
  · exact .refl g

lemma steady_wake (call : WakeupCall) : Steady g (g.wake call).group := by
  cases call with
  | refresh =>
    simp only [wake]
    rcases g.refresh_eq with ⟨-, heq⟩ | ⟨-, -, id, -, heq⟩
    · rw [heq]
      exact .refl g
    · rw [heq]
      exact (Paperwork.cleared g).steady.trans (steady_dispatch _ _ _)
  | keepalive process => exact (Paperwork.keepAlive g process).steady

omit [Transport σ] in
lemma steady_ringAlarm : Steady g g.ringAlarm.2 :=
  ⟨rfl, Timer.ring_stopped _ _⟩

lemma steady_ring : Steady g g.ring.group := by
  have hrung := g.steady_ringAlarm
  unfold ring
  split
  · next call g' h =>
    rw [h] at hrung
    exact hrung.trans (steady_wake _ _)
  · next g' h =>
    rw [h] at hrung
    exact hrung

/-- Only two actions are about the data connection or the timer. -/
lemma steady_act {a : Action} (hconnection : ∀ up, a ≠ .setConnected up) (htimer : a ≠ .stopTimer) :
    Steady g (g.act a).group := by
  cases a with
  | createSession l =>
    simp only [act]
    split
    · next id g' hmade => exact .of_books (g.books_createSession hmade)
    · exact .refl g
  | command id e => exact .of_books (g.books_command id e)
  | setListener id l => exact .of_books (g.books_setAddressee id _)
  | openToCalls l =>
    simp only [act]
    split
    · next g' hopen => exact .of_books (g.books_openToCalls hopen)
    · exact .refl g
  | closeToCalls => exact ⟨rfl, rfl⟩
  | signal s => exact .of_books (g.books_processSignal s)
  | startRegistration l => exact g.steady_startRegistration l
  | stopRegistration => exact g.steady_stopRegistration
  | setRegistrationListener l =>
    simp only [act, answering, setRegistrationListener]
    split
    · exact .refl g
    · split <;> exact ⟨rfl, rfl⟩
  | setConnected up => exact absurd rfl (hconnection up)
  | tick milliseconds => exact ⟨rfl, rfl⟩
  | ring => exact g.steady_ring
  | stopTimer => exact absurd rfl htimer
  | close =>
    have hstopped := g.steady_stopRegistration
    simp only [act, answering, close]
    split
    · exact .refl g
    · exact ⟨hstopped.connected, hstopped.stopped⟩

lemma stopped_setConnected (up : Bool) :
    (g.setConnected up).group.timer.stopped = g.timer.stopped := by
  unfold setConnected
  split_ifs
  · rfl
  · unfold regainConnection
    dsimp only
    split
    · split
      · rfl
      · exact (steady_dispatch _ _ _).stopped
    · rfl
  · obtain ⟨timer, error, hstopped, -, heq⟩ := g.loseConnection_eq
    rw [heq]
    exact hstopped

/-- Losing the data connection once more does nothing. -/
lemma setConnected_of_offline (h : g.connected = false) : g.setConnected false = ⟨g, [], ()⟩ := by
  unfold setConnected
  rw [if_pos (by simp [h])]

end Group

namespace Scene

variable {σ : Type} [Transport σ] {c c' : Scene σ} {o : Occurrence σ}

lemma Step.steady (h : c.Step o c') (hconnection : ∀ up, o ≠ .act (.setConnected up))
    (htimer : o ≠ .act .stopTimer) : c.group.Steady c'.group := by
  cases h with
  | act a =>
    refine c.group.steady_act ?_ ?_
    · rintro up rfl
      exact hconnection up rfl
    · rintro rfl
      exact htimer rfl
  | handOver => exact c.group.steady_handOver _
  | ring => exact c.group.steady_ringAlarm
  | wake => exact c.group.steady_wake _
  | drift network => exact ⟨rfl, rfl⟩

/-- Only the application stops the timer. -/
lemma Step.stopped (h : c.Step o c') (ho : o ≠ .act .stopTimer) :
    c'.group.timer.stopped = c.group.timer.stopped := by
  by_cases hconnection : ∃ up, o = .act (.setConnected up)
  · obtain ⟨up, rfl⟩ := hconnection
    cases h
    exact c.group.stopped_setConnected up
  · exact (h.steady (not_exists.mp hconnection) ho).stopped

/-- A data connection that is lost is lost until it is back. -/
lemma Step.offline (h : c.Step o c') (ho : o ≠ .act (.setConnected true))
    (hc : c.group.connected = false) : c'.group.connected = false := by
  by_cases hconnection : ∃ up, o = .act (.setConnected up)
  · obtain ⟨up, rfl⟩ := hconnection
    cases h
    cases up with
    | true => exact absurd rfl ho
    | false =>
      change (c.group.setConnected false).group.connected = false
      rw [c.group.setConnected_of_offline hc]
      exact hc
  · by_cases htimer : o = .act .stopTimer
    · subst htimer
      cases h
      exact hc
    · exact (h.steady (not_exists.mp hconnection) htimer).connected.trans hc

end Scene

end SipAgent
