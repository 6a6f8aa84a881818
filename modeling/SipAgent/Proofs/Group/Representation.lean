import SipAgent.Proofs.Group.Ownership
import SipAgent.Proofs.Session.Shape

/-!
# What the sessions of a group hold

Over a recorder, every session of a group that owns a dialog is either as good as new or holds what
its state calls for, all under one Call-ID. A session by itself cannot promise that; it takes the
soundness of the registry, by which a message only reaches a session under the session's own key.
-/

namespace SipAgent

/-- A message that carries a dialog carries its own. -/
def Signal.Coherent : Signal → Prop
  | .request r => ∀ d, r.dialog = some d → d.callId = r.callId
  | .response r => ∀ d, r.dialog = some d → d.callId = r.callId
  | _ => True

namespace Group

section

variable {σ : Type} {g g' : Group σ} {id : SessionId} {s : Session} {e : SessionEvent}

/-- Every session that owns a dialog has its shape. -/
def Shaped (g : Group σ) : Prop :=
  ∀ i s, g.session? i = some s → s.role = .dialog → s.Shaped

lemma shaped_start (profile : Profile) (settings : RegistrationSettings) (network : σ) :
    Shaped (start profile settings network) := by
  intro i s h
  simp [session?, start] at h

lemma Shaped.keeps (hg : Shaped g) (h : Keeps g g') : Shaped g' := by
  intro i s hs hrole
  rcases h.created i s hs with hs | ⟨role, rfl⟩
  · exact hg i s hs hrole
  · obtain rfl : role = .dialog := hrole
    exact .idle i

/-- Messages reach sessions under their own keys. -/
lemma Sound.receives (hg : Sound g) (h : Feeds Signal.Coherent g id e)
    (hs : g.session? id = some s) (hrole : s.role = .dialog) : s.Receives e := by
  have hsignal : ∀ m : Signal, e = .ofSignal m → s.key = some m.key ∧ m.Coherent := by
    rintro m rfl
    obtain ⟨hcoherent, hresolve⟩ := h.of_signal
    exact ⟨hg.key_of_resolve hs hrole hresolve, hcoherent⟩
  refine ⟨fun r he => (hsignal (.request r) he).1, fun r he => (hsignal (.response r) he).1,
    fun d hd => ?_⟩
  unfold SessionEvent.dialog? at hd
  split at hd
  · next r =>
    obtain ⟨hkey, hcoherent⟩ := hsignal (.request r) rfl
    exact (hcoherent d hd).symm ▸ hkey
  · next r =>
    obtain ⟨hkey, hcoherent⟩ := hsignal (.response r) rfl
    exact (hcoherent d hd).symm ▸ hkey
  · cases hd

lemma receives_connectionLost (s : Session) : s.Receives .connectionLost where
  request r h := by cases h
  response r h := by cases h
  dialog d h := by cases h

end

section

variable {σ : Type} [Transport σ] {g : Group σ} {id : SessionId} {s : Session} {e : SessionEvent}

/-- A session that receives its own messages only keeps its shape, and so does everybody else. -/
lemma Shaped.dispatch_of_dialog (hR : Recorder.promise.KeptBy σ) (hg : Shaped g)
    (hs : g.session? id = some s) (hrole : s.role = .dialog) (h : s.Receives e) :
    Shaped (g.dispatch id e).group := by
  intro i t ht hrole'
  rw [dispatch_session?_of_dialog hs hrole] at ht
  split at ht
  · cases ht
    exact (hg id s hs hrole).process hR h g.profile g.cells.length g.network
  · exact hg i t ht hrole'

/-- A receiver only takes coherent invitations in. -/
lemma Shaped.dispatch_of_receiver (hR : Recorder.promise.KeptBy σ) (hg : Shaped g)
    (hs : g.session? id = some (.idle id .receiver))
    (h : ∀ r, e = .request r → ∀ d, r.dialog = some d → d.callId = r.callId) :
    Shaped (g.dispatch id e).group := by
  rcases dispatch_receiver hR hs e with hkeeps | ⟨r, tag, t, he, -, ht, -, hsessions⟩
  · exact hg.keeps hkeeps
  · intro i s hs hrole
    rw [hsessions] at hs
    split at hs
    · cases hs
      exact Session.shaped_takingIn _ tag ht (h r he)
    · exact hg i s hs hrole

/-- No event breaks the shape of a session, whether it is for a receiver or for somebody else. -/
lemma Shaped.dispatch (hR : Recorder.promise.KeptBy σ) (hg : Shaped g) (hsound : Sound g)
    (hdialog : ∀ s, g.session? id = some s → s.role = .dialog → s.Receives e)
    (hreceiver : ∀ r, e = .request r → ∀ d, r.dialog = some d → d.callId = r.callId) :
    Shaped (g.dispatch id e).group := by
  cases hs : g.session? id with
  | none =>
    rw [dispatch_of_none hs]
    exact hg
  | some s =>
    cases hrole : s.role with
    | dialog => exact hg.dispatch_of_dialog hR hs hrole (hdialog s hs hrole)
    | receiver =>
      exact hg.dispatch_of_receiver hR (hsound.receivers id s hs hrole ▸ hs) hreceiver

lemma Shaped.feeds (hR : Recorder.promise.KeptBy σ) (hg : Shaped g) (hsound : Sound g)
    (h : Feeds Signal.Coherent g id e) : Shaped (g.dispatch id e).group := by
  refine hg.dispatch hR hsound (fun s hs hrole => hsound.receives h hs hrole) ?_
  rintro r rfl
  exact (Feeds.of_signal (s := .request r) h).1

lemma Shaped.lost (hR : Recorder.promise.KeptBy σ) (hg : Shaped g) (hsound : Sound g)
    (id : SessionId) : Shaped (g.dispatch id .connectionLost).group := by
  refine hg.dispatch hR hsound (fun s _ _ => receives_connectionLost s) fun r he => ?_
  cases he

end

/-! ### Over a recorder -/

variable {g : Group Recorder} {s : Session}

lemma Reachable.shaped (h : Reachable Signal.Coherent g) : Shaped g := by
  have hboth : Sound g ∧ Shaped g := by
    refine h.invariant (P := fun g => Sound g ∧ Shaped g) ?_ ?_ ?_ ?_ ?_
    · exact fun profile settings network =>
        ⟨sound_start profile settings network, shaped_start profile settings network⟩
    · exact fun g g' hkeeps hg => ⟨hg.1.keeps hkeeps, hg.2.keeps hkeeps⟩
    · exact fun g id e hfeeds hg => ⟨hg.1.dispatch id e, hg.2.feeds Recorder.keeps_promise hg.1 hfeeds⟩
    · exact fun g id hg => ⟨hg.1.dispatch id _, hg.2.lost Recorder.keeps_promise hg.1 id⟩
    · exact fun g hg => ⟨hg.1.closes, hg.2⟩
  exact hboth.2

/-- Whatever happens to a group over a recorder, an idle session is as good as new, and a busy one
has a key to which all that it holds belongs, and holds what its state calls for. -/
theorem session_representation (h : Reachable Signal.Coherent g) {i : SessionId}
    (hs : g.session? i = some s) (hrole : s.role = .dialog) :
    (s.state = .ready → s = .idle i .dialog) ∧
    (s.state ≠ .ready → ∃ key, s.key = some key ∧
      (∀ d, s.dialog = some d → d.callId = key) ∧
      (∀ t, s.clientTransaction = some t → t.callId = key) ∧
      (∀ t, s.serverTransaction = some t → t.callId = key) ∧
      (∀ r, s.invite = some r → r.callId = key)) ∧
    (s.state.isCall → s.dialog.isSome ∧ s.peer.isSome) ∧
    (s.state = .incomingCall ∨ s.state = .incomingCallAnswering ∨ s.state = .inCallAnswering →
      s.invite.isSome ∧ s.serverTransaction.isSome) ∧
    (s.state.isOutgoing ∨ s.state = .inCallChanging ∨ s.state = .inCallChangingCanceling →
      ∃ t, s.clientTransaction = some t ∧ t.method = .invite) ∧
    (s.state.isRegistration → ∃ t, s.clientTransaction = some t ∧ t.method = .register) ∧
    s.authRetries ≤ 2 := by
  have hid := h.sound.numbered i s hs
  cases h.shaped i s hs hrole with
  | idle id =>
    obtain rfl : id = i := hid
    refine ⟨fun _ => rfl, fun hbusy => absurd rfl hbusy, nofun, ?_, ?_, nofun, Nat.zero_le _⟩
    · rintro (h | h | h) <;> cases h
    · rintro (h | h | h) <;> cases h
  | busy key hb =>
    refine ⟨fun hready => absurd hready hb.busy, fun _ => ⟨key, hb.under.own, hb.under.dialog,
      hb.under.clientTransaction, hb.under.serverTransaction, hb.under.invite⟩, ?_, ?_, ?_, ?_,
      hb.retries⟩
    · intro hcall
      obtain ⟨⟨d, hd⟩, p, hp⟩ := hb.call hcall
      simp [hd, hp]
    · intro hstate
      have hanswers : s.state.answersInvite := by
        rcases hstate with hstate | hstate | hstate <;> rw [hstate] <;> rfl
      obtain ⟨⟨r, hr⟩, t, ht⟩ := hb.answers hanswers
      simp [hr, ht]
    · intro hstate
      refine hb.requests .invite ?_
      rcases hstate with hstate | hstate | hstate
      · revert hstate
        cases s.state <;> decide
      · rw [hstate]; rfl
      · rw [hstate]; rfl
    · intro hstate
      refine hb.requests .register ?_
      revert hstate
      cases s.state <;> decide

/-- A session that calls: it is busy with an invitation of its own, under one key. -/
theorem session_representation_of_call :
    let profile := Profile.ofUri ⟨some "alice", "localhost", none⟩ ""
    let created := ((start profile .default (Recorder.ofHost "localhost")).act
      (.createSession .nobody)).group
    let g := (created.act (.command 0 (.makeCall ⟨some "bob", "localhost", none⟩ []))).group
    Reachable Signal.Coherent g ∧ ∃ s, g.session? 0 = some s ∧ s.state = .outgoingCall ∧
      (s.dialog.isSome ∧ s.peer.isSome) ∧
      ∃ t, s.clientTransaction = some t ∧ t.method = .invite := by
  intro profile created g
  have hcreated : Step Signal.Coherent (start profile .default (Recorder.ofHost "localhost"))
      created := .act (a := .createSession .nobody) trivial
  have hcalls : Step Signal.Coherent created g :=
    .act (a := .command 0 (.makeCall ⟨some "bob", "localhost", none⟩ [])) rfl
  have hg : Reachable Signal.Coherent g :=
    ⟨profile, .default, Recorder.ofHost "localhost", .tail (.single hcreated) hcalls⟩
  obtain ⟨s, hs⟩ : ∃ s, g.session? 0 = some s := ⟨_, rfl⟩
  have hstate : s.state = .outgoingCall := by
    cases hs
    rfl
  have hrole : s.role = .dialog := by
    cases hs
    rfl
  obtain ⟨-, -, hcall, -, hinvites, -, -⟩ := session_representation hg hs hrole
  refine ⟨hg, s, hs, hstate, hcall ?_, hinvites (.inl ?_)⟩
  · rw [hstate]; rfl
  · rw [hstate]; rfl

end Group

end SipAgent
