import SipAgent.Proofs.Group.Settling

/-!
# What the supervisor puts down

Noting a notice is a matter of the supervisor's own books: it touches nothing else (`Group.Files`),
and it depends on nothing else but the address that the network is bound to (`noting_among`). So the
supervisor notes the same thing whatever other sessions are doing.
-/

namespace SipAgent

namespace Group

variable {σ : Type} {g g₁ g' : Group σ}

/-! ### The same setup -/

/-- Both groups work for the same identity under the same settings, at the same time and with the same
connection, and they supervise the same session. -/
structure SameSetup (g g' : Group σ) : Prop where
  profile : g'.profile = g.profile
  settings : g'.settings = g.settings
  now : g'.now = g.now
  closed : g'.closed = g.closed
  connected : g'.connected = g.connected
  supervised : g'.supervisor.session = g.supervisor.session

namespace SameSetup

lemma refl (g : Group σ) : SameSetup g g :=
  ⟨rfl, rfl, rfl, rfl, rfl, rfl⟩

lemma symm (h : SameSetup g g') : SameSetup g' g :=
  ⟨h.profile.symm, h.settings.symm, h.now.symm, h.closed.symm, h.connected.symm,
    h.supervised.symm⟩

lemma trans (h : SameSetup g g₁) (h' : SameSetup g₁ g') : SameSetup g g' where
  profile := h'.profile.trans h.profile
  settings := h'.settings.trans h.settings
  now := h'.now.trans h.now
  closed := h'.closed.trans h.closed
  connected := h'.connected.trans h.connected
  supervised := h'.supervised.trans h.supervised

lemma dispatch [Transport σ] (g : Group σ) (id : SessionId) (e : SessionEvent) :
    SameSetup g (g.dispatch id e).group where
  profile := dispatch_profile g id e
  settings := dispatch_settings g id e
  now := dispatch_now g id e
  closed := dispatch_closed g id e
  connected := connected_dispatch g id e
  supervised := by rw [supervisor_dispatch]

end SameSetup

/-! ### Nothing but the books -/

/-- Nothing changes but the books, and the supervisor keeps its session. -/
structure Files (g g' : Group σ) : Prop extends SameSetup g g' where
  network : g'.network = g.network
  cells : g'.cells = g.cells
  registry : g'.registry = g.registry

namespace Files

lemma refl (g : Group σ) : Files g g :=
  ⟨.refl g, rfl, rfl, rfl⟩

lemma trans (h : Files g g₁) (h' : Files g₁ g') : Files g g' where
  toSameSetup := h.toSameSetup.trans h'.toSameSetup
  network := h'.network.trans h.network
  cells := h'.cells.trans h.cells
  registry := h'.registry.trans h.registry

lemma revise {s : Supervisor} (hsession : s.session = g.supervisor.session) :
    Files g { g with supervisor := s } :=
  ⟨⟨rfl, rfl, rfl, rfl, rfl, hsession⟩, rfl, rfl, rfl⟩

lemma scheduleRefresh (g : Group σ) (seconds : Nat) : Files g (g.scheduleRefresh seconds) := by
  obtain ⟨timer, heq, -⟩ := g.scheduleRefresh_eq seconds
  rw [heq]
  exact ⟨⟨rfl, rfl, rfl, rfl, rfl, rfl⟩, rfl, rfl, rfl⟩

lemma scheduleRetry (g : Group σ) : Files g g.scheduleRetry := by
  have hadvanced : Files g g.advanced := .revise rfl
  rcases g.scheduleRetry_eq with ⟨-, -, heq⟩ | ⟨-, heq⟩
  · rw [heq]
    exact hadvanced.trans (.scheduleRefresh _ _)
  · rw [heq]
    exact .refl g

lemma pause (g : Group σ) : Files g g.pause := by
  obtain ⟨timer, heq, -⟩ := g.pause_eq
  rw [heq]
  exact ⟨⟨rfl, rfl, rfl, rfl, rfl, rfl⟩, rfl, rfl, rfl⟩

lemma startKeepalive [Transport σ] (g : Group σ) : Files g g.startKeepalive := by
  rcases g.startKeepalive_eq with heq | ⟨-, timer, heq, -⟩
  · rw [heq]
    exact .refl g
  · rw [heq]
    exact ⟨⟨rfl, rfl, rfl, rfl, rfl, rfl⟩, rfl, rfl, rfl⟩

lemma noteFailure (g : Group σ) (code : ErrorCode) (message : String) :
    Files g (g.noteFailure code message) :=
  .revise rfl

lemma noting [Transport σ] (g : Group σ) (id : SessionId) (notice : Notice) :
    Files g (g.noting id notice) := by
  cases notice with
  | registering => exact .revise rfl
  | registrationDone duration =>
    simp only [Group.noting]
    split
    · next hpos =>
      have haccepted : Files g (g.accepted duration) := .revise rfl
      rw [onRegistrationDone_of_pos g id hpos]
      exact (haccepted.trans (.scheduleRefresh _ _)).trans (.startKeepalive _)
    · exact .revise rfl
  | registrationFailed code message =>
    have hnoted := Files.noteFailure g code message
    cases code with
    | invalidCredentials | serverUnreachable => exact hnoted.trans (.pause _)
    | dataConnectionLost => exact hnoted
    | _ => exact hnoted.trans (.scheduleRetry _)
  | registrationTimeout => exact (Files.noteFailure g _ _).trans (.scheduleRetry _)
  | _ => exact .refl g

end Files

/-! ### Nothing else matters -/

/-- A group with the same books, but with other sessions over another network. -/
def among (g : Group σ) (cells : List Cell) (registry : Registry SessionId) (network : σ) :
    Group σ :=
  { g with cells := cells, registry := registry, network := network }

section Among

variable (g : Group σ) (cells : List Cell) (registry : Registry SessionId) (network : σ)

lemma setWakeup_among (seconds : Nat) (call : WakeupCall) :
    (g.among cells registry network).setWakeup seconds call =
      (g.setWakeup seconds call).among cells registry network := by
  unfold setWakeup among
  dsimp only
  split <;> rfl

lemma scheduleRefresh_among (seconds : Nat) :
    (g.among cells registry network).scheduleRefresh seconds =
      (g.scheduleRefresh seconds).among cells registry network :=
  setWakeup_among (g.cancelWakeup .refresh) cells registry network seconds .refresh

lemma scheduleRetry_among :
    (g.among cells registry network).scheduleRetry =
      g.scheduleRetry.among cells registry network := by
  have hsame : ((g.among cells registry network).supervisor.running &&
      (g.among cells registry network).connected) = (g.supervisor.running && g.connected) := rfl
  unfold scheduleRetry
  rw [hsame]
  cases g.supervisor.running && g.connected with
  | true => exact scheduleRefresh_among g.advanced cells registry network _
  | false => rfl

lemma stopKeepalive_among :
    (g.among cells registry network).stopKeepalive =
      g.stopKeepalive.among cells registry network := by
  unfold stopKeepalive among
  dsimp only
  split <;> rfl

lemma pause_among :
    (g.among cells registry network).pause = g.pause.among cells registry network :=
  stopKeepalive_among
    (Group.cancelWakeup
      { g with
        supervisor :=
          { g.supervisor with running := false, registered := false, expiresAt := none } }
      .refresh)
    cells registry network

variable [Transport σ]

lemma startKeepalive_among
    (h : Transport.localAddress network = Transport.localAddress g.network) :
    (g.among cells registry network).startKeepalive =
      g.startKeepalive.among cells registry network := by
  unfold startKeepalive
  simp only [among, h]
  split_ifs
  · rfl
  · exact setWakeup_among
      { g with
        supervisor := { g.supervisor with keepalive := some g.keepalives }
        keepalives := g.keepalives + 1 }
      cells registry network _ _
  · rfl

/-- What the supervisor notes does not depend on sessions and keys, nor on what the network has been
asked. -/
theorem noting_among (h : Transport.localAddress network = Transport.localAddress g.network)
    (id : SessionId) (notice : Notice) :
    (g.among cells registry network).noting id notice =
      (g.noting id notice).among cells registry network := by
  cases notice with
  | registrationDone duration =>
    simp only [noting]
    split
    · next hpos =>
      rw [onRegistrationDone_of_pos _ id hpos, onRegistrationDone_of_pos g id hpos]
      have hrefresh := scheduleRefresh_among (g.accepted duration) cells registry network
        (g.settings.refreshDelay duration.toNat)
      have hnetwork := (Files.scheduleRefresh (g.accepted duration)
        (g.settings.refreshDelay duration.toNat)).network
      have hstart := startKeepalive_among
        ((g.accepted duration).scheduleRefresh (g.settings.refreshDelay duration.toNat))
        cells registry network (by rw [hnetwork]; exact h)
      rw [← hrefresh] at hstart
      exact hstart
    · rfl
  | registrationFailed code message =>
    cases code with
    | invalidCredentials | serverUnreachable =>
      exact pause_among (g.noteFailure _ message) cells registry network
    | dataConnectionLost => rfl
    | _ => exact scheduleRetry_among (g.noteFailure _ message) cells registry network
  | registrationTimeout =>
    exact scheduleRetry_among (g.noteFailure _ _) cells registry network
  | _ => rfl

end Among

end Group

end SipAgent
