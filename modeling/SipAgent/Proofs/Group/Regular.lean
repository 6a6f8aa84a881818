import SipAgent.Proofs.Group.Representation
import SipAgent.Proofs.Session.Within

/-!
# Groups over a recorder that is never replaced

All registrations that a recorder sends share one Call-ID, which it draws once. As long as nobody
makes it forget this Call-ID, a session that registers has it as its key: `Group.Regular`. The
recorder keeps a journal here, so no command goes unnoticed.
-/

namespace SipAgent

namespace Group

variable {g g' : Group (Journal Recorder)} {id : SessionId} {s : Session} {e : SessionEvent}
  {permits : Signal → Prop} {cuts : Prop}

/-- The registry is sound, sessions hold what their states call for, and they register under the
Call-ID that registrations share. -/
structure Regular (g : Group (Journal Recorder)) : Prop where
  sound : Sound g
  shaped : Shaped g
  registers : ∀ i s, g.session? i = some s →
    s.RegistersUnder g.network.network.registrationCallId

lemma promise_keptBy_journal : Recorder.promise.KeptBy (Journal Recorder) :=
  Journal.keptBy Recorder.keeps_promise

lemma regular_start (profile : Profile) (settings : RegistrationSettings)
    (network : Journal Recorder) : Regular (start profile settings network) where
  sound := sound_start profile settings network
  shaped := shaped_start profile settings network
  registers i s h := by simp [session?, start] at h

lemma network_dispatch (hs : g.session? id = some s) (e : SessionEvent) :
    (g.dispatch id e).group.network.network =
      (s.process g.profile g.cells.length e g.network.network).2 := by
  obtain ⟨addressee, hcell⟩ := session?_eq_some.mp hs
  rw [dispatch_eq hcell]
  exact congrArg (·.2.network) (Session.process_journal g.profile g.cells.length s e
    g.network.network g.network.calls)

lemma retains_dispatch (g : Group (Journal Recorder)) (id : SessionId) (e : SessionEvent) :
    g.network.network.Retains (g.dispatch id e).group.network.network := by
  cases hs : g.session? id with
  | none =>
    rw [dispatch_of_none hs]
    exact .refl _
  | some s =>
    rw [network_dispatch hs, Session.process_snd]
    exact .run _ _

namespace Regular

lemma keeps (hg : Regular g) (h : Keeps g g')
    (hnetwork : g.network.network.Retains g'.network.network) : Regular g' where
  sound := hg.sound.keeps h
  shaped := hg.shaped.keeps h
  registers i s hs hbusy := by
    rcases h.created i s hs with hs | ⟨role, rfl⟩
    · obtain ⟨key, hkey, hregistrations⟩ := hg.registers i s hs hbusy
      exact ⟨key, hkey, hnetwork key hregistrations⟩
    · cases hbusy

lemma rests (hg : Regular g) (h : Rests g g') : Regular g' :=
  hg.keeps h.toKeeps (.of_eq (by rw [h.network]))

lemma closes (hg : Regular g) : Regular { g with closed := true, registry := .empty } :=
  ⟨hg.sound.closes, hg.shaped, hg.registers⟩

/-- Nobody registers under another Call-ID after an event. -/
lemma registers_dispatch (hg : Regular g)
    (hrecv : ∀ s, g.session? id = some s → s.role = .dialog → s.Receives e) :
    ∀ i s, (g.dispatch id e).group.session? i = some s →
      s.RegistersUnder (g.dispatch id e).group.network.network.registrationCallId := by
  intro i t ht
  cases hs : g.session? id with
  | none =>
    rw [dispatch_of_none hs] at ht ⊢
    exact hg.registers i t ht
  | some s =>
    have hothers : g.session? i = some t →
        t.RegistersUnder (g.dispatch id e).group.network.network.registrationCallId := by
      intro ht hbusy
      obtain ⟨key, hkey, hregistrations⟩ := hg.registers i t ht hbusy
      exact ⟨key, hkey, retains_dispatch g id e key hregistrations⟩
    cases hrole : s.role with
    | dialog =>
      rw [dispatch_session?_of_dialog hs hrole] at ht
      split at ht
      · cases ht
        rw [network_dispatch hs, outcomeOf, Session.process_journal]
        exact Session.registersUnder_process _ _ hrole (hrecv s hs hrole) (hg.registers id s hs)
      · exact hothers ht
    | receiver =>
      rcases dispatch_receiver promise_keptBy_journal (hg.sound.receivers id s hs hrole ▸ hs) e with
        hkeeps | ⟨r, tag, u, -, -, -, -, hsessions⟩
      · rcases hkeeps.created i t ht with ht | ⟨role, rfl⟩
        · exact hothers ht
        · intro hbusy
          cases hbusy
      · rw [hsessions] at ht
        split at ht
        · cases ht
          intro hbusy
          cases hbusy
        · exact hothers ht

lemma feeds (hg : Regular g) (h : Feeds Signal.Coherent g id e) :
    Regular (g.dispatch id e).group where
  sound := hg.sound.dispatch id e
  shaped := hg.shaped.feeds promise_keptBy_journal hg.sound h
  registers := hg.registers_dispatch fun _ hs hrole => hg.sound.receives h hs hrole

lemma lost (hg : Regular g) (id : SessionId) : Regular (g.dispatch id .connectionLost).group where
  sound := hg.sound.dispatch id _
  shaped := hg.shaped.lost promise_keptBy_journal hg.sound id
  registers := hg.registers_dispatch fun s _ _ => receives_connectionLost s

/-- Nothing that is done with a group makes it irregular. -/
theorem course (hg : Regular g) (h : Course Signal.Coherent cuts g g') : Regular g' := by
  induction h with
  | rests h => exact hg.rests h
  | pings after =>
    have hpinged : Regular
        { g with network := (Transport.perform (.keepalive g.profile) g.network).2 } :=
      hg.keeps (.of_eq rfl rfl rfl rfl) (.perform (.keepalive g.profile) g.network.network)
    exact hpinged.rests after
  | feeds before h after => exact ((hg.rests before).feeds h).rests after
  | @disconnects g₁ g' _ before ids after =>
    have hlost : ∀ g : Group (Journal Recorder), Regular g → Regular (g.disconnect ids).group := by
      clear before after
      induction ids with
      | nil => exact fun g hg => hg
      | cons id more ih => exact fun g hg => ih _ (hg.lost id)
    exact (hlost g₁ (hg.rests before)).rests after
  | closes _ ih => exact ih.closes

lemma handOver (hg : Regular g) (d : Delivery) : Regular (g.handOver d).group :=
  hg.course (course_handOver Signal.Coherent False g d)

lemma act (hg : Regular g) {a : Action} (ha : a.Allowed Signal.Coherent) :
    Regular (g.act a).group := by
  have hallowed : a.Allowed fun _ => True := by
    cases a with
    | command id e => exact ha
    | _ => trivial
  have hpermits : ∀ m, a = .signal m → m.Coherent := by
    rintro m rfl
    exact ha
  exact hg.course ((course_act g hallowed).mono hpermits fun h => h)

lemma wake (hg : Regular g) (call : WakeupCall) : Regular (g.wake call).group :=
  hg.course (course_wake Signal.Coherent False g call)

end Regular

/-! ### Every history -/

/-- The groups that any history leads to, as long as messages carry their own dialogs and the recorder
keeps the Call-ID of registrations. Everything else about the recorder may change at any time. -/
def RecordedReachable (g : Group (Journal Recorder)) : Prop :=
  ∃ profile settings network,
    Relation.ReflTransGen
      (fun g g' => Step Signal.Coherent g g' ∧ g.network.network.Retains g'.network.network)
      (.start profile settings network) g

theorem RecordedReachable.regular (h : RecordedReachable g) : Regular g := by
  obtain ⟨profile, settings, network, h⟩ := h
  induction h with
  | refl => exact regular_start profile settings network
  | tail _ hstep ih =>
    obtain ⟨hstep, hretains⟩ := hstep
    cases hstep with
    | act ha => exact ih.act ha
    | handOver d => exact ih.handOver d
    | wake call => exact ih.wake call
    | drift network => exact ih.keeps (.of_eq rfl rfl rfl rfl) hretains

end Group

end SipAgent
