import SipAgent.Proofs.Supervisor.InOrder

/-!
# Closed for good

Closing a group takes its registry and whatever the supervisor has scheduled, and leaves a flag at
which every operation stops. `Group.Dead` is what is left, and no step gets out of it or does
anything in it: not even one that was under way when the group was closed, be it a notice that
waits, a wake-up that the timer has given out, or an event for a session that somebody still holds.
-/

namespace SipAgent

namespace Group

variable {σ : Type} {g g' : Group σ}

/-- A closed group: nobody is registered, nobody has a key, and nothing is scheduled. -/
structure Dead (g : Group σ) : Prop where
  closed : g.closed = true
  registry : g.registry = .empty
  running : g.supervisor.running = false
  unregistered : g.isRegistered = false
  queue : g.timer.queue = []

variable [Transport σ]

/-- Commands and all that would create something are refused, and signals are dropped. -/
structure Declines (g : Group σ) : Prop where
  command : ∀ id e, g.act (.command id e) = ⟨g, [], .refused .groupClosed⟩
  createSession : ∀ l, g.act (.createSession l) = ⟨g, [], .refused .groupClosed⟩
  openToCalls : ∀ l, g.act (.openToCalls l) = ⟨g, [], .refused .groupClosed⟩
  startRegistration : ∀ l, g.act (.startRegistration l) = ⟨g, [], .refused .groupClosed⟩
  signal : ∀ m, g.act (.signal m) = ⟨g, [], .consumed false⟩

lemma declines_of_closed (h : g.closed = true) : g.Declines where
  command id e := by simp only [act, Group.command, h, if_true]; rfl
  createSession l := by simp only [act, Group.createSession, h, if_true]
  openToCalls l := by simp only [act, Group.openToCalls, h, if_true]
  startRegistration l := by simp only [act, Group.startRegistration, h, if_true]; rfl
  signal m := by simp only [act, Group.processSignal, h, if_true]; rfl

/-! ### Nothing happens in a dead group -/

/-- The group is dead afterwards, and the network has not been asked for anything. -/
structure Stays (g g' : Group σ) : Prop where
  dead : g'.Dead
  network : g'.network = g.network

namespace Dead

omit [Transport σ] in
lemma stays (h : Dead g) : Stays g g :=
  ⟨h, rfl⟩

omit [Transport σ] in
/-- There is nothing in the timer that could ring. -/
lemma ringAlarm (h : Dead g) : g.ringAlarm.1 = none ∧ Stays g g.ringAlarm.2 := by
  have hqueued : ∀ call, g.ringAlarm.2.timer.queued call + g.ringAlarm.1.toList.count call = 0 :=
    fun call => (g.timer.queued_ring g.now call).symm.trans (Timer.queue_eq_nil_iff.mp h.queue call)
  refine ⟨?_, ⟨h.closed, h.registry, h.running, h.unregistered, ?_⟩, rfl⟩
  · cases hcall : g.ringAlarm.1 with
    | none => rfl
    | some call =>
      have hnone := (Nat.add_eq_zero_iff.mp (hqueued call)).2
      simp [hcall] at hnone
  · exact Timer.queue_eq_nil_iff.mpr fun call => (Nat.add_eq_zero_iff.mp (hqueued call)).1

lemma wake_eq (h : Dead g) (call : WakeupCall) : g.wake call = ⟨g, [], ()⟩ := by
  cases call with
  | refresh => simp only [wake, refresh, h.closed, Bool.true_or, if_true]
  | keepalive process => simp [wake, keepAlive, h.closed]

omit [Transport σ] in
lemma setAddressee (h : Dead g) (id : SessionId) (a : Addressee) :
    Stays g (g.setAddressee id a) := by
  unfold Group.setAddressee
  split
  · exact ⟨⟨h.closed, h.registry, h.running, h.unregistered, h.queue⟩, rfl⟩
  · exact h.stays

omit [Transport σ] in
lemma stopTimer (h : Dead g) : Stays g g.stopTimer := by
  refine ⟨⟨h.closed, h.registry, h.running, h.unregistered, ?_⟩, rfl⟩
  refine Timer.queue_eq_nil_iff.mpr fun call => (Timer.queued_stop g.timer call).trans ?_
  split
  · exact Timer.queue_eq_nil_iff.mp h.queue call
  · rfl

lemma act (h : Dead g) (a : Action) : Stays g (g.act a).group ∧ (g.act a).deliveries = [] := by
  have hdeclines := declines_of_closed h.closed
  cases a with
  | command id e => exact hdeclines.command id e ▸ ⟨h.stays, rfl⟩
  | createSession l => exact hdeclines.createSession l ▸ ⟨h.stays, rfl⟩
  | openToCalls l => exact hdeclines.openToCalls l ▸ ⟨h.stays, rfl⟩
  | startRegistration l => exact hdeclines.startRegistration l ▸ ⟨h.stays, rfl⟩
  | signal m => exact hdeclines.signal m ▸ ⟨h.stays, rfl⟩
  | setListener id l => exact ⟨h.setAddressee id _, rfl⟩
  | closeToCalls =>
    refine ⟨⟨⟨h.closed, ?_, h.running, h.unregistered, h.queue⟩, rfl⟩, rfl⟩
    change g.registry.clearReceiver = _
    rw [h.registry]
    rfl
  | stopRegistration =>
    simp only [Group.act, answering, g.stopRegistration_of_not_running h.running]
    exact ⟨h.stays, trivial⟩
  | setRegistrationListener l =>
    simp only [Group.act, answering, setRegistrationListener, h.closed, if_true]
    exact ⟨h.stays, trivial⟩
  | setConnected up =>
    simp only [Group.act, answering, setConnected, h.closed, Bool.true_or, if_true]
    exact ⟨h.stays, trivial⟩
  | tick milliseconds =>
    exact ⟨⟨⟨h.closed, h.registry, h.running, h.unregistered, h.queue⟩, rfl⟩, rfl⟩
  | ring =>
    obtain ⟨hnone, hstays⟩ := h.ringAlarm
    have hring : g.ring = ⟨g.ringAlarm.2, [], ()⟩ := by
      unfold ring
      split
      · next call g' hsome =>
        rw [hsome] at hnone
        cases hnone
      · next g' heq => rw [heq]
    simp only [Group.act, answering, hring]
    exact ⟨hstays, trivial⟩
  | stopTimer => exact ⟨h.stopTimer, rfl⟩
  | close =>
    simp only [Group.act, answering, close, h.closed, if_true]
    exact ⟨h.stays, trivial⟩

end Dead

/-! ### How a group dies -/

/-- Whatever is done with a group, it is open or closed as before, or has been closed with
everything in the registry. -/
lemma Course.closed_cases {permits : Signal → Prop} {cuts : Prop} (h : Course permits cuts g g') :
    g'.closed = g.closed ∨ g'.registry = .empty := by
  induction h with
  | rests h => exact .inl h.closed
  | pings after => exact .inl after.closed
  | feeds before h after =>
    exact .inl (after.closed.trans ((dispatch_closed _ _ _).trans before.closed))
  | @disconnects g₁ _ _ before ids after =>
    have hlost : (g₁.disconnect ids).group.closed = g₁.closed :=
      congrArg Books.closed (books_disconnect g₁ ids)
    exact .inl (after.closed.trans (hlost.trans before.closed))
  | closes => exact .inr rfl

omit [Transport σ] in
/-- Books that are in order leave nothing behind. -/
lemma InOrder.dead {timely : Prop} {wakeups : List WakeupCall} (h : InOrder timely wakeups g)
    (hclosed : g.closed = true) (hregistry : g.registry = .empty) : g.Dead := by
  have hstopped := h.closed hclosed
  obtain ⟨hkeepalive, hrefresh⟩ := h.idle hstopped
  refine ⟨hclosed, hregistry, hstopped, ?_, ?_⟩
  · change g.supervisor.registered = false
    rw [Bool.eq_false_iff]
    intro hregistered
    cases (h.registered hregistered).symm.trans hstopped
  · exact Timer.queue_eq_nil_iff.mpr (h.queued_eq_zero hkeepalive hrefresh)

/-- Nobody is told that the group is closed. -/
lemma deliveries_close (g : Group σ) :
    ∀ d ∈ g.close.deliveries, d.addressee = .listener .nobody := by
  unfold close
  split
  · exact nofun
  · exact g.deliveries_stopRegistration

lemma close_closed (g : Group σ) : g.close.group.closed = true := by
  unfold close
  split
  · assumption
  · rfl

end Group

namespace Scene

variable {σ : Type} [Transport σ] {c c' : Scene σ} {o : Occurrence σ}

lemma Step.closed_cases (h : c.Step o c') (ho : o.Possible) :
    c'.group.closed = c.group.closed ∨ c'.group.registry = .empty := by
  cases h with
  | act a => exact (Group.course_act c.group ho.2).closed_cases
  | handOver => exact (Group.course_handOver (fun _ => True) True c.group _).closed_cases
  | wake => exact (Group.course_wake (fun _ => True) True c.group _).closed_cases
  | ring | drift => exact .inl rfl

/-- Every step leaves a dead group dead, asks nothing of the network, and causes no notice. -/
lemma Step.dead (h : c.Step o c') (hc : c.group.Dead) :
    c'.group.Dead ∧ (c'.group.network = c.group.network ∨ o = .drift c'.group.network) ∧
      c'.notices.Sublist c.notices := by
  cases h with
  | act a =>
    obtain ⟨hstays, hnothing⟩ := hc.act a
    refine ⟨hstays.dead, .inl hstays.network, ?_⟩
    rw [acting, hnothing, List.append_nil]
  | handOver hnotices =>
    rw [c.group.handOver_of_not_running hc.running, hnotices]
    refine ⟨hc, .inl rfl, ?_⟩
    exact (List.sublist_cons_self _ _).append_left _
  | ring => exact ⟨hc.ringAlarm.2.dead, .inl rfl, List.Sublist.refl _⟩
  | wake hwakeups =>
    rw [hc.wake_eq, List.append_nil]
    exact ⟨hc, .inl rfl, List.Sublist.refl _⟩
  | drift network =>
    exact ⟨⟨hc.closed, hc.registry, hc.running, hc.unregistered, hc.queue⟩, .inr rfl,
      List.Sublist.refl _⟩

/-- A group that has been closed is dead, in whatever state it was closed. -/
lemma Reachable.dead (h : c.Reachable (Interleaves fun _ => Occurrence.Possible))
    (hclosed : c.group.closed = true) : c.group.Dead := by
  have hregistry : c.group.closed = true → c.group.registry = .empty := by
    refine h.invariant (P := fun c => c.group.closed = true → c.group.registry = .empty)
      (fun _ _ _ => nofun) ?_
    rintro c c' hreachable ⟨o, ho, hstep⟩ hc hclosed
    rcases hstep.closed_cases ho with hsame | hempty
    · have hclosed' : c.group.closed = true := hsame.symm.trans hclosed
      exact (hstep.dead (hreachable.inOrder.dead hclosed' (hc hclosed'))).1.registry
    · exact hempty
  exact h.inOrder.dead hclosed (hregistry hclosed)

variable {c c' : Scene (Journal σ)}

/-- Closing a group is for good, whatever state it was in and whatever is done with it afterwards:
nothing more is asked of the network, and no notice is caused, so that nobody is told of anything
that was not on its way to him before. There is no key, no receiver, no registration and no wake-up;
commands and all that would create something are refused, and signals are dropped. -/
theorem closed_for_good (h : c.Reachable (Interleaves fun _ => Occurrence.Possible))
    (hrun : Relation.ReflTransGen (Interleaves Occurrence.Noted) (c.acting .close) c') :
    c'.group.network.calls = (c.acting .close).group.network.calls ∧
    (∃ told, c'.notices.Sublist (c.notices ++ told) ∧
      ∀ d ∈ told, d.addressee = .listener .nobody) ∧
    c'.group.closed = true ∧ c'.group.registry = .empty ∧ c'.group.isRegistered = false ∧
    c'.group.timer.queue = [] ∧ c'.group.Declines := by
  have hdead : (c.acting .close).group.Dead := by
    have hclosing : (c.acting .close).Reachable (Interleaves fun _ => Occurrence.Possible) :=
      h.tail ⟨.act .close, ⟨nofun, trivial⟩, .act .close⟩
    exact hclosing.dead c.group.close_closed
  have hafter : c'.group.Dead ∧ c'.group.network.calls = (c.acting .close).group.network.calls ∧
      c'.notices.Sublist (c.acting .close).notices := by
    induction hrun with
    | refl => exact ⟨hdead, rfl, List.Sublist.refl _⟩
    | tail _ hstep ih =>
      obtain ⟨hdead, hcalls, hnotices⟩ := ih
      obtain ⟨o, ho, hstep⟩ := hstep
      obtain ⟨hdead', hnetwork, hnotices'⟩ := hstep.dead hdead
      refine ⟨hdead', Eq.trans ?_ hcalls, hnotices'.trans hnotices⟩
      rcases hnetwork with hsame | rfl
      · rw [hsame]
      · exact ho
  obtain ⟨hdead', hcalls, hnotices⟩ := hafter
  exact ⟨hcalls, ⟨_, hnotices, c.group.deliveries_close⟩, hdead'.closed, hdead'.registry,
    hdead'.unregistered, hdead'.queue, Group.declines_of_closed hdead'.closed⟩

/-- The group is closed while its first registration is under way and the supervisor has yet to be
told of it. Then the supervisor is told, the data connection is lost, and the session that has
registered is asked to do so again. -/
theorem closed_for_good_of_attempt :
    let alice := Profile.ofUri ⟨some "alice", "localhost", none⟩ ""
    let idle := Scene.start alice .default (Journal.opened (Recorder.ofHost "localhost"))
    let c := idle.acting (.startRegistration (.named "user"))
    let lost := (c.acting .close).delivering.acting (.setConnected false)
    let c' := lost.acting (.command 0 (.register 3600))
    c.Reachable (Interleaves fun _ => Occurrence.Possible) ∧
      Relation.ReflTransGen (Interleaves Occurrence.Noted) (c.acting .close) c' ∧
      c.notices.length = 1 ∧ c'.notices = [] ∧ c'.group.network.calls.length = 1 ∧
      c'.group.registry = .empty := by
  intro alice idle c lost c'
  have hc : c.Reachable (Interleaves fun _ => Occurrence.Possible) :=
    ⟨_, _, _, .single ⟨.act (.startRegistration (.named "user")), ⟨nofun, trivial⟩, .act _⟩⟩
  have hrun : Relation.ReflTransGen (Interleaves Occurrence.Noted) (c.acting .close) c' := by
    obtain ⟨d, waiting, hnotices⟩ : ∃ d waiting, (c.acting .close).notices = d :: waiting :=
      List.exists_cons_of_ne_nil (by decide +kernel)
    have htold : Interleaves Occurrence.Noted (c.acting .close) (c.acting .close).delivering :=
      ⟨.handOver d, trivial, step_delivering hnotices⟩
    have hlost : Interleaves Occurrence.Noted (c.acting .close).delivering lost :=
      ⟨.act (.setConnected false), trivial, .act _⟩
    have hasked : Interleaves Occurrence.Noted lost c' :=
      ⟨.act (.command 0 (.register 3600)), trivial, .act _⟩
    exact ((Relation.ReflTransGen.single htold).tail hlost).tail hasked
  obtain ⟨hcalls, -, -, hregistry, -⟩ := closed_for_good hc hrun
  refine ⟨hc, hrun, by decide +kernel, by decide +kernel, ?_, hregistry⟩
  rw [hcalls]
  decide +kernel

end Scene

end SipAgent
