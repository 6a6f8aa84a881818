import SipAgent.Proofs.Group.Dispatch

/-!
# Operations that feed nobody

Most of what is done with a group feeds no event to any session: it adds idle sessions, changes whom
they report to, or is the supervisor's own business. `Group.Keeps` says that sessions and keys stay
as they are, and `Group.Rests` that the network has not been asked for anything either.
-/

namespace SipAgent

namespace Group

variable {σ : Type} {g g₁ g₂ g' : Group σ}

/-! ### Groups that agree on sessions and keys -/

/-- The second group has the sessions and keys of the first one. There may be new idle sessions, one
of which may be the receiver now; network, supervisor and timer may be any. -/
structure Keeps (g g' : Group σ) : Prop where
  profile : g'.profile = g.profile
  closed : g'.closed = g.closed
  bindings : g'.registry.bindings = g.registry.bindings
  receiver : ∀ i, g'.registry.receiver = some i →
    g.registry.receiver = some i ∨ g'.session? i = some (.idle i .receiver)
  sessions : ∀ i s, g.session? i = some s → g'.session? i = some s
  created : ∀ i s, g'.session? i = some s → g.session? i = some s ∨ ∃ role, s = .idle i role

namespace Keeps

lemma refl (g : Group σ) : Keeps g g :=
  ⟨rfl, rfl, rfl, fun _ => .inl, fun _ _ h => h, fun _ _ => .inl⟩

lemma trans (h : Keeps g₁ g₂) (h' : Keeps g₂ g') : Keeps g₁ g' where
  profile := h'.profile.trans h.profile
  closed := h'.closed.trans h.closed
  bindings := h'.bindings.trans h.bindings
  receiver i hi := by
    rcases h'.receiver i hi with hi | hi
    · exact (h.receiver i hi).imp_right (h'.sessions i _)
    · exact .inr hi
  sessions i s hs := h'.sessions i s (h.sessions i s hs)
  created i s hs := by
    rcases h'.created i s hs with hs | hs
    · exact h.created i s hs
    · exact .inr hs

/-- Whatever leaves profile, cells, registry and openness alone. -/
lemma of_eq (hprofile : g'.profile = g.profile) (hclosed : g'.closed = g.closed)
    (hregistry : g'.registry = g.registry) (hcells : g'.cells = g.cells) : Keeps g g' := by
  have hsession : ∀ i, g'.session? i = g.session? i := fun i => by rw [session?, hcells]; rfl
  refine ⟨hprofile, hclosed, by rw [hregistry], ?_, ?_, ?_⟩
  · exact fun i hi => .inl (hregistry ▸ hi)
  · exact fun i s hs => (hsession i).trans hs
  · exact fun i s hs => .inl ((hsession i).symm.trans hs)

lemma get? (h : Keeps g g') (key : CallId) : g'.registry.get? key = g.registry.get? key := by
  unfold Registry.get?
  rw [h.bindings]

/-- New sessions are idle, just like those that do not exist. -/
protected lemma stateOf (h : Keeps g g') (i : SessionId) : g'.stateOf i = g.stateOf i := by
  cases hs : g.session? i with
  | some s => rw [stateOf_of_session? hs, stateOf_of_session? (h.sessions i s hs)]
  | none =>
    cases hs' : g'.session? i with
    | none => simp only [Group.stateOf, hs, hs']
    | some s =>
      rcases h.created i s hs' with h | ⟨role, rfl⟩
      · cases hs.symm.trans h
      · simp only [Group.stateOf, hs, hs']
        rfl

end Keeps

/-- The second group has the sessions and keys of the first one, and the network has not noticed
anything. -/
structure Rests (g g' : Group σ) : Prop extends Keeps g g' where
  network : g'.network = g.network

namespace Rests

lemma refl (g : Group σ) : Rests g g :=
  ⟨.refl g, rfl⟩

lemma trans (h : Rests g g₁) (h' : Rests g₁ g') : Rests g g' :=
  ⟨h.toKeeps.trans h'.toKeeps, h'.network.trans h.network⟩

/-- Whatever leaves profile, cells, registry, openness and network alone. -/
lemma of_eq (hprofile : g'.profile = g.profile) (hclosed : g'.closed = g.closed)
    (hregistry : g'.registry = g.registry) (hcells : g'.cells = g.cells)
    (hnetwork : g'.network = g.network) : Rests g g' :=
  ⟨.of_eq hprofile hclosed hregistry hcells, hnetwork⟩

end Rests

lemma session?_addSession (g : Group σ) (role : Role) (addressee : Addressee) (i : SessionId) :
    (g.addSession role addressee).2.session? i =
      if i = g.cells.length then some (.idle i role) else g.session? i := by
  simp only [addSession, session?, List.getElem?_append]
  rcases Nat.lt_trichotomy i g.cells.length with h | rfl | h
  · rw [if_pos h, if_neg (Nat.ne_of_lt h)]
  · simp
  · rw [if_neg (Nat.lt_asymm h), if_neg (Nat.ne_of_gt h), List.getElem?_eq_none (Nat.le_of_lt h),
      List.getElem?_eq_none (Nat.sub_pos_of_lt h)]

lemma rests_addSession (g : Group σ) (role : Role) (addressee : Addressee) :
    Rests g (g.addSession role addressee).2 := by
  refine ⟨⟨rfl, rfl, rfl, fun i => .inl, fun i s hs => ?_, fun i s hs => ?_⟩, rfl⟩
  · rw [session?_addSession, if_neg]
    · exact hs
    · rintro rfl
      rw [session?_length] at hs
      cases hs
  · rw [session?_addSession] at hs
    split at hs
    · exact .inr ⟨role, (Option.some.inj hs).symm⟩
    · exact .inl hs

lemma session?_setAddressee (g : Group σ) (id : SessionId) (addressee : Addressee)
    (i : SessionId) : (g.setAddressee id addressee).session? i = g.session? i := by
  unfold setAddressee
  split
  · next cell hcell =>
    simp only [session?, List.getElem?_set]
    split
    · next heq =>
      subst heq
      rw [hcell]
      split
      · rfl
      · next hlt => exact absurd (List.getElem?_eq_some_iff.mp hcell).1 hlt
    · rfl
  · rfl

lemma rests_setAddressee (g : Group σ) (id : SessionId) (addressee : Addressee) :
    Rests g (g.setAddressee id addressee) := by
  have hnetwork : (g.setAddressee id addressee).network = g.network := by
    unfold setAddressee; split <;> rfl
  have hprofile : (g.setAddressee id addressee).profile = g.profile := by
    unfold setAddressee; split <;> rfl
  have hclosed : (g.setAddressee id addressee).closed = g.closed := by
    unfold setAddressee; split <;> rfl
  have hregistry : (g.setAddressee id addressee).registry = g.registry := by
    unfold setAddressee; split <;> rfl
  refine ⟨⟨hprofile, hclosed, by rw [hregistry], ?_, ?_, ?_⟩, hnetwork⟩
  · exact fun i hi => .inl (hregistry ▸ hi)
  · exact fun i s hs => (session?_setAddressee g id addressee i).trans hs
  · exact fun i s hs => .inl ((session?_setAddressee g id addressee i).symm.trans hs)

/-! ### The supervisor's own business -/

section Bookkeeping

variable (g : Group σ)

lemma rests_cancelWakeup (call : WakeupCall) : Rests g (g.cancelWakeup call) :=
  .of_eq rfl rfl rfl rfl rfl

lemma rests_setWakeup (seconds : Nat) (call : WakeupCall) : Rests g (g.setWakeup seconds call) := by
  unfold setWakeup
  split
  · exact .of_eq rfl rfl rfl rfl rfl
  · exact .refl g

lemma rests_scheduleRefresh (seconds : Nat) : Rests g (g.scheduleRefresh seconds) :=
  (rests_cancelWakeup g _).trans (rests_setWakeup _ _ _)

lemma rests_scheduleRetry : Rests g g.scheduleRetry := by
  unfold scheduleRetry
  split
  · refine .trans ?_ (rests_scheduleRefresh _ _)
    exact .of_eq rfl rfl rfl rfl rfl
  · exact .refl g

lemma rests_stopKeepalive : Rests g g.stopKeepalive := by
  unfold stopKeepalive
  split
  · exact .of_eq rfl rfl rfl rfl rfl
  · exact .refl g

lemma rests_startKeepalive [Transport σ] : Rests g g.startKeepalive := by
  unfold startKeepalive
  split_ifs
  · exact .refl g
  · refine .trans ?_ (rests_setWakeup _ _ _)
    exact .of_eq rfl rfl rfl rfl rfl
  · exact .refl g

lemma rests_pause : Rests g g.pause := by
  refine .trans ?_ (rests_stopKeepalive _)
  exact .of_eq rfl rfl rfl rfl rfl

lemma rests_registrationSession : Rests g g.registrationSession.2 := by
  unfold registrationSession
  split
  · exact .refl g
  · exact (rests_addSession g _ _).trans (.of_eq rfl rfl rfl rfl rfl)

/-- The supervisor engages a session and has it report to itself. -/
lemma rests_engage {g : Group σ} (h : Rests g g') :
    Rests g (g'.registrationSession.2.setAddressee g'.registrationSession.1 .supervisor) :=
  (h.trans (rests_registrationSession g')).trans (rests_setAddressee _ _ _)

/-- Only the process that is running sends keepalives. -/
lemma rests_keepAlive [Transport σ] (process : Nat) :
    Rests g (g.keepAlive process) ∨
      Rests { g with network := (Transport.perform (.keepalive g.profile) g.network).2 }
        (g.keepAlive process) := by
  unfold keepAlive
  split
  · exact .inl (.refl g)
  · exact .inr (rests_setWakeup _ _ _)

end Bookkeeping

end Group

end SipAgent
