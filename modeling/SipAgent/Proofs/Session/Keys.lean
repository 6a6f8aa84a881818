import SipAgent.Proofs.Session.Process

/-!
# What an event does to the key of a session

A session that owns a dialog changes its key in three ways only: it takes one when it leaves its
idle state, it may be given another one when it answers a challenge, and it lets go of its key when
it goes back to its idle state. `Session.KeyEffect` lists these, with the changes that the session
asks the registry for.
-/

namespace SipAgent

namespace Session

variable {σ : Type} {R : Promise} {profile : Profile} {s : Session} {e : SessionEvent}

/-- What an event does to the key of a session that owns a dialog. -/
inductive KeyEffect (R : Promise) (s : Session) (e : SessionEvent) (o : Outcome) : Prop where
  | kept (hkey : o.session.key = s.key) (hchanges : o.keyChanges = [])
      (hstate : o.session.state = .ready ↔ s.state = .ready)
  | released (hsession : o.session = s.cleared) (hchanges : o.keyChanges = s.unbound)
  /-- The session registers or calls. -/
  | taken (key : CallId) (he : e.isCommand) (hs : s.state = .ready)
      (hkey : o.session.key = some key) (hchanges : o.keyChanges = s.rebound key)
      (hstate : o.session.state.isRegistration ∨ o.session.state = .outgoingCall)
  /-- The session answers a challenge. -/
  | renewed (r : Response) (credentials : Credentials) (t : ClientTransaction)
      (he : e = .response r) (ht : R (.authenticate r credentials) t) (hs : s.state ≠ .ready)
      (hkey : o.session.key = some t.callId) (hchanges : o.keyChanges = s.rebound t.callId)
      (hstate : o.session.state = s.state)

lemma state_ne_ready_of_challengeable {m : Method} (hs : s.state.challengeable = some m) :
    s.state ≠ .ready := by
  rintro h
  rw [h] at hs
  cases hs

lemma isCommand_of_isRegistration (h : e.isRegistration) : e.isCommand := by
  cases e <;> first | rfl | cases h

lemma Reaction.keyEffect {o : Outcome} (h : Reaction R profile s e o) : KeyEffect R s e o := by
  cases h with
  | refused | consumed => exact .kept rfl rfl Iff.rfl
  | ended => exact .released rfl rfl
  | registers expiry next tag t hs he hnext =>
    exact .taken t.callId (isCommand_of_isRegistration he) hs rfl rfl (.inl hnext)
  | calls callee offer tag t d hs he => exact .taken t.callId (he ▸ rfl) hs rfl rfl (.inr rfl)
  | challenged r t hs he hr hretries ht =>
    exact .renewed r _ t he ht (state_ne_ready_of_challengeable hs) rfl rfl rfl
  | alerted r hs | accepts invite answer tag d hs | startsChange offer dialog t hs
  | cancelsChange hs | keepsCall r hs => exact .kept rfl rfl (by rw [hs]; exact ⟨nofun, nofun⟩)
  | answered r hs | cancelsCall hs =>
    exact .kept rfl rfl (by rcases hs with hs | hs <;> rw [hs] <;> exact ⟨nofun, nofun⟩)
  | confirmed r hs | acceptsChange r tag d hs | changeConfirmed r hs =>
    exact .kept (capturing_key s r.body) rfl (by rw [hs]; exact ⟨nofun, nofun⟩)
  | changed r hs =>
    refine .kept (capturing_key s r.body) rfl ?_
    rcases hs with hs | hs <;> rw [hs] <;> exact ⟨nofun, nofun⟩

/-- A session that goes back to its idle state has no key, and an idle one does not get one without
leaving its state. -/
lemma KeyEffect.key_eq_none {o : Outcome} (h : KeyEffect R s e o)
    (hs : s.state = .ready → s.key = none) (ho : o.session.state = .ready) :
    o.session.key = none := by
  cases h with
  | kept hkey hchanges hstate => exact hkey.trans (hs (hstate.mp ho))
  | released hsession => rw [hsession]; rfl
  | taken key he hs hkey hchanges hstate =>
    rw [ho] at hstate
    rcases hstate with hstate | hstate <;> cases hstate
  | renewed r credentials t he ht hs hkey hchanges hstate => exact absurd (hstate.symm.trans ho) hs

@[simp] lemma attaching_cleared (s : Session) (e : SessionEvent) :
    (s.attaching e).cleared = s.cleared := by
  simp [cleared]

@[simp] lemma attaching_unbound (s : Session) (e : SessionEvent) :
    (s.attaching e).unbound = s.unbound := by
  simp [unbound]

@[simp] lemma attaching_rebound (s : Session) (e : SessionEvent) (key : CallId) :
    (s.attaching e).rebound key = s.rebound key := by
  simp [rebound]

/-- The dialog that a message carries has nothing to do with the key. -/
lemma KeyEffect.of_attaching {o : Outcome} (h : KeyEffect R (s.attaching e) e o) :
    KeyEffect R s e o := by
  cases h with
  | kept hkey hchanges hstate => exact .kept (by simpa using hkey) hchanges (by simpa using hstate)
  | released hsession hchanges =>
    exact .released (by simpa using hsession) (by simpa using hchanges)
  | taken key he hs hkey hchanges hstate =>
    exact .taken key he (by simpa using hs) hkey (by simpa using hchanges) hstate
  | renewed r credentials t he ht hs hkey hchanges hstate =>
    exact .renewed r credentials t he ht (by simpa using hs) hkey (by simpa using hchanges)
      (by simpa using hstate)

/-- What an event does to the key of a session that owns a dialog, over any network. -/
theorem keyEffect_process [Transport σ] (hR : R.KeptBy σ) (profile : Profile) (fresh : SessionId)
    {s : Session} (hs : s.role = .dialog) (e : SessionEvent) (net : σ) :
    KeyEffect R s e (s.process profile fresh e net).1 ∧
      (s.process profile fresh e net).1.spawned = none := by
  rcases reaction_process hR profile fresh hs e net with h | ⟨cause, h⟩
  · exact ⟨h.keyEffect.of_attaching, h.spawned_eq_none⟩
  · rw [h]
    exact ⟨.released rfl rfl, rfl⟩

/-- What an event does to an idle receiver: nothing, but it may spawn a session, which gets the key
of the invitation. -/
inductive IntakeEffect (R : Promise) (s : Session) (fresh : SessionId) (e : SessionEvent)
    (o : Outcome) : Prop where
  | nothing (hsession : o.session = s) (hchanges : o.keyChanges = []) (hspawned : o.spawned = none)
  | spawns (r : Request) (tag : Tag) (t : ServerTransaction) (he : e = .request r)
      (hm : r.method = .invite) (ht : R (.ringing r tag) t) (hsession : o.session = s)
      (hchanges : o.keyChanges = [.bind fresh r.callId])
      (hspawned : o.spawned = some (takingIn fresh r tag t))

theorem intakeEffect_process [Transport σ] (hR : R.KeptBy σ) (profile : Profile)
    (id fresh : SessionId) (e : SessionEvent) (net : σ) :
    IntakeEffect R (idle id .receiver) fresh e
      ((idle id .receiver).process profile fresh e net).1 := by
  rcases intake_process (s := idle id .receiver) hR profile fresh rfl e net with h | ⟨cause, h⟩
  · generalize ((idle id .receiver).process profile fresh e net).1 = o at h ⊢
    cases h with
    | refused | consumed => exact .nothing rfl rfl rfl
    | takesIn r tag t he hm ht => exact .spawns r tag t he hm ht rfl rfl rfl
  · rw [h]
    exact .nothing rfl rfl rfl

end Session

/-! ### Whom changes and reports are about -/

/-- All that an outcome asks for is about the session itself or about the one that it spawned. -/
structure Outcome.SelfContained (o : Outcome) : Prop where
  changes : ∀ change ∈ o.keyChanges,
    change.session = o.session.id ∨ ∃ t, o.spawned = some t ∧ change.session = t.id
  reports : ∀ report ∈ o.reports,
    report.session = o.session.id ∨ ∃ t, o.spawned = some t ∧ report.session = t.id

namespace Session

variable {σ : Type} {R : Promise} {profile : Profile} {s : Session} {e : SessionEvent}

lemma session_of_mem_unbound {change : KeyChange} (h : change ∈ s.unbound) :
    change.session = s.id := by
  unfold unbound at h
  split at h
  · rw [List.mem_singleton.mp h]; rfl
  · cases h

lemma session_of_mem_rebound {key : CallId} {change : KeyChange} (h : change ∈ s.rebound key) :
    change.session = s.id := by
  unfold rebound at h
  split at h
  · cases h
  · rcases List.mem_append.mp h with h | h
    · exact session_of_mem_unbound h
    · rw [List.mem_singleton.mp h]; rfl

lemma KeyEffect.session_of_mem {o : Outcome} (h : KeyEffect R s e o) {change : KeyChange}
    (hchange : change ∈ o.keyChanges) : change.session = s.id := by
  cases h with
  | kept hkey hchanges => rw [hchanges] at hchange; cases hchange
  | released hsession hchanges => exact session_of_mem_unbound (hchanges ▸ hchange)
  | taken key he hs hkey hchanges => exact session_of_mem_rebound (hchanges ▸ hchange)
  | renewed r credentials t he ht hs hkey hchanges =>
    exact session_of_mem_rebound (hchanges ▸ hchange)

lemma selfContained_transportFailed (s : Session) (e : SessionEvent) (cause : TransportError) :
    (s.transportFailed e cause).SelfContained where
  changes change h := .inl (session_of_mem_unbound (s := s) h)
  reports report h := .inl (by rw [List.mem_singleton.mp h]; rfl)

/-- Whatever a session is in, and whatever happens to it, it speaks of nobody else. -/
theorem selfContained_process [Transport σ] (profile : Profile) (fresh : SessionId) (s : Session)
    (e : SessionEvent) (net : σ) : (s.process profile fresh e net).1.SelfContained := by
  have hR := Promise.nothing_keptBy σ
  cases hrole : s.role with
  | dialog =>
    rcases reaction_process hR profile fresh hrole e net with h | ⟨cause, h⟩
    · refine ⟨fun change hchange => .inl ?_, fun report hreport => .inl ?_⟩
      · exact (h.keyEffect.session_of_mem hchange).trans h.session_id.symm
      · exact (h.reports_session report hreport).trans h.session_id.symm
    · exact h ▸ selfContained_transportFailed s e cause
  | receiver =>
    rcases intake_process hR profile fresh hrole e net with h | ⟨cause, h⟩
    · generalize (s.process profile fresh e net).1 = o at h ⊢
      cases h with
      | refused | consumed => exact ⟨nofun, nofun⟩
      | takesIn r tag t =>
        refine ⟨fun change hchange => .inr ⟨_, rfl, ?_⟩, fun report hreport => .inr ⟨_, rfl, ?_⟩⟩
        · rw [List.mem_singleton.mp hchange, takingIn_id]; rfl
        · rw [List.mem_singleton.mp hreport, takingIn_id]
    · exact h ▸ selfContained_transportFailed s e cause

end Session

end SipAgent
