import SipAgent.Proofs.Group.Step
import SipAgent.Transport.Recorder

/-!
# The registry is sound

Whoever the registry of a group finds under a key is a session that is busy with a dialog or a
registration under this very key. The invariant is `Group.Sound`; it survives every effect, over any
network, because a session asks for exactly those changes that its own key goes through
(`Session.KeyEffect`), and because nothing that it asks for gets lost.
-/

namespace SipAgent

/-- The session is under way, under this key. -/
structure Session.Holds (s : Session) (key : CallId) : Prop where
  role : s.role = .dialog
  busy : s.state ≠ .ready
  key : s.key = some key

namespace Group

variable {σ : Type} {R : Promise} {g g' : Group σ} {id : SessionId} {s : Session}
  {e : SessionEvent}

/-- Sessions are where their numbers say, receivers are idle, idle sessions have no key, and the
registry is right about both owners and the receiver. -/
structure Sound (g : Group σ) : Prop where
  numbered : ∀ i s, g.session? i = some s → s.id = i
  receivers : ∀ i s, g.session? i = some s → s.role = .receiver → s = .idle i .receiver
  unkeyed : ∀ i s, g.session? i = some s → s.state = .ready → s.key = none
  receiver : ∀ i, g.registry.receiver = some i → g.session? i = some (.idle i .receiver)
  owners : ∀ key i, g.registry.get? key = some i → ∃ s, g.session? i = some s ∧ s.Holds key

lemma sound_start (profile : Profile) (settings : RegistrationSettings) (network : σ) :
    Sound (start profile settings network) := by
  have hnone : ∀ i s, (start profile settings network).session? i ≠ some s := by
    rintro i s h
    simp [session?, start] at h
  refine ⟨fun i s h => absurd h (hnone i s), fun i s h => absurd h (hnone i s),
    fun i s h => absurd h (hnone i s), fun i h => ?_, fun key i h => ?_⟩
  · cases h
  · cases h

namespace Sound

lemma keeps (hg : Sound g) (h : Keeps g g') : Sound g' where
  numbered i s hs := by
    rcases h.created i s hs with hs | ⟨role, rfl⟩
    · exact hg.numbered i s hs
    · rfl
  receivers i s hs hrole := by
    rcases h.created i s hs with hs | ⟨role, rfl⟩
    · exact hg.receivers i s hs hrole
    · obtain rfl : role = .receiver := hrole
      rfl
  unkeyed i s hs hready := by
    rcases h.created i s hs with hs | ⟨role, rfl⟩
    · exact hg.unkeyed i s hs hready
    · rfl
  receiver i hi := by
    rcases h.receiver i hi with hi | hi
    · exact h.sessions i _ (hg.receiver i hi)
    · exact hi
  owners key i hkey := by
    rw [h.get?] at hkey
    obtain ⟨s, hs, hholds⟩ := hg.owners key i hkey
    exact ⟨s, h.sessions i s hs, hholds⟩

lemma closes (hg : Sound g) : Sound { g with closed := true, registry := .empty } :=
  ⟨hg.numbered, hg.receivers, hg.unkeyed, nofun, nofun⟩

/-- A receiver has no key. -/
lemma not_owner_of_receiver (hg : Sound g) {i : SessionId}
    (h : g.session? i = some (.idle i .receiver)) (key : CallId) :
    g.registry.get? key ≠ some i := by
  intro hkey
  obtain ⟨s, hs, hholds⟩ := hg.owners key i hkey
  rw [h] at hs
  cases hs
  cases hholds.role

/-- An idle session has no key. -/
lemma not_owner_of_ready (hg : Sound g) {i : SessionId} {s : Session} (h : g.session? i = some s)
    (hs : s.state = .ready) (key : CallId) : g.registry.get? key ≠ some i := by
  intro hkey
  obtain ⟨t, ht, hholds⟩ := hg.owners key i hkey
  rw [h] at ht
  cases ht
  exact hholds.busy hs

/-- A session has at most one key. -/
lemma key_unique (hg : Sound g) {i : SessionId} {key key' : CallId}
    (h : g.registry.get? key = some i) (h' : g.registry.get? key' = some i) : key = key' := by
  obtain ⟨s, hs, hholds⟩ := hg.owners key i h
  obtain ⟨t, ht, hholds'⟩ := hg.owners key' i h'
  rw [hs] at ht
  cases ht
  exact Option.some.inj (hholds.key.symm.trans hholds'.key)

/-- A signal reaches a session that owns a dialog only if the session owns its key. -/
lemma owner_of_resolve (hg : Sound g) {id : SessionId} {s : Session} (hs : g.session? id = some s)
    (hrole : s.role = .dialog) {key : CallId} (h : g.registry.resolve key = some id) :
    g.registry.get? key = some id := by
  unfold Registry.resolve at h
  split at h
  · next owner howner =>
    cases h
    exact howner
  · have hreceiver := hg.receiver id h
    rw [hs] at hreceiver
    cases hreceiver
    cases hrole

/-- A signal for a session that owns a dialog comes under the key of the session. -/
lemma key_of_resolve (hg : Sound g) {id : SessionId} {s : Session} (hs : g.session? id = some s)
    (hrole : s.role = .dialog) {key : CallId} (h : g.registry.resolve key = some id) :
    s.key = some key := by
  obtain ⟨t, ht, hholds⟩ := hg.owners key id (hg.owner_of_resolve hs hrole h)
  rw [hs] at ht
  cases ht
  exact hholds.key

/-- A signal reaches the receiver only if no session owns its key. -/
lemma get?_of_resolve (hg : Sound g) {id : SessionId}
    (hs : g.session? id = some (.idle id .receiver))
    {key : CallId} (h : g.registry.resolve key = some id) : g.registry.get? key = none := by
  unfold Registry.resolve at h
  split at h
  · next owner howner =>
    cases h
    exact absurd howner (hg.not_owner_of_receiver hs key)
  · assumption

/-! ### Owners after a session changed its key -/

/-- Whoever still owns a key after a session let go of its own is somebody else. -/
lemma ne_of_after_unbound (hg : Sound g) (hs : g.session? id = some s) {key : CallId}
    {i : SessionId} (h : (g.registry.after s.unbound).get? key = some i) :
    i ≠ id ∧ g.registry.get? key = some i := by
  rw [Registry.get?_after_unbound] at h
  split at h
  · cases h
  · next hnot =>
    refine ⟨?_, h⟩
    rintro rfl
    obtain ⟨t, ht, hholds⟩ := hg.owners key i h
    rw [hs] at ht
    cases ht
    rw [hg.numbered i s hs] at hnot
    exact hnot ⟨hholds.key, h⟩

/-- After a session moved to a key, it owns that key or nothing new. -/
lemma owner_after_rebound (hg : Sound g) (hs : g.session? id = some s) {key other : CallId}
    {i : SessionId} (h : (g.registry.after (s.rebound key)).get? other = some i) :
    i = id ∧ other = key ∨ i ≠ id ∧ g.registry.get? other = some i := by
  by_cases hkey : s.key = some key
  · have hnone : s.rebound key = [] := by simp [Session.rebound, hkey]
    rw [hnone, Registry.after_nil] at h
    by_cases hi : i = id
    · subst hi
      obtain ⟨t, ht, hholds⟩ := hg.owners other i h
      rw [hs] at ht
      cases ht
      exact .inl ⟨rfl, Option.some.inj (hholds.key.symm.trans hkey)⟩
    · exact .inr ⟨hi, h⟩
  · rw [Registry.get?_after_rebound hkey] at h
    split at h
    · next hother =>
      rw [hg.numbered id s hs] at h
      exact .inl ⟨(Option.some.inj h).symm, hother⟩
    · exact .inr (hg.ne_of_after_unbound hs h)

/-- The owners after a session that owns a dialog was fed. -/
lemma owners_of_keyEffect (hg : Sound g) (hs : g.session? id = some s) {o : Outcome}
    (hrole : o.session.role = .dialog) (h : s.KeyEffect R e o) {key : CallId} {i : SessionId}
    (howner : (g.registry.after o.keyChanges).get? key = some i) :
    i = id ∧ o.session.Holds key ∨ i ≠ id ∧ g.registry.get? key = some i := by
  cases h with
  | kept hkey hchanges hstate =>
    rw [hchanges, Registry.after_nil] at howner
    by_cases hi : i = id
    · subst hi
      obtain ⟨t, ht, hholds⟩ := hg.owners key i howner
      rw [hs] at ht
      cases ht
      exact .inl ⟨rfl, hrole, mt hstate.mp hholds.busy, hkey.trans hholds.key⟩
    · exact .inr ⟨hi, howner⟩
  | released hsession hchanges =>
    rw [hchanges] at howner
    exact .inr (hg.ne_of_after_unbound hs howner)
  | taken key' he hs' hkey hchanges hstate =>
    rw [hchanges] at howner
    refine (hg.owner_after_rebound hs howner).imp_left ?_
    rintro ⟨rfl, rfl⟩
    refine ⟨rfl, hrole, fun hready => ?_, hkey⟩
    rw [hready] at hstate
    revert hstate
    decide
  | renewed r credentials t he ht hs' hkey hchanges hstate =>
    rw [hchanges] at howner
    refine (hg.owner_after_rebound hs howner).imp_left ?_
    rintro ⟨rfl, rfl⟩
    exact ⟨rfl, hrole, hstate ▸ hs', hkey⟩

end Sound

/-! ### Feeding one event -/

variable [Transport σ]

/-- What an event for a receiver does: a new session may own the key of an invitation. -/
lemma dispatch_receiver (hR : R.KeptBy σ) (hs : g.session? id = some (.idle id .receiver))
    (e : SessionEvent) :
    Keeps g (g.dispatch id e).group ∨
      ∃ (r : Request) (tag : Tag) (t : ServerTransaction), e = .request r ∧ r.method = .invite ∧
        R (.ringing r tag) t ∧
        (g.dispatch id e).group.registry = g.registry.insert r.callId g.cells.length ∧
        ∀ i, (g.dispatch id e).group.session? i =
          if i = g.cells.length then some (.takingIn g.cells.length r tag t)
          else g.session? i := by
  have heffect := Session.intakeEffect_process hR g.profile id g.cells.length e g.network
  change Session.IntakeEffect _ _ _ _ (g.outcomeOf _ e) at heffect
  have hregistry := dispatch_registry hs e
  have hsessions := dispatch_session? hs e
  have hid : id ≠ g.cells.length := by
    rintro rfl
    rw [session?_length] at hs
    cases hs
  cases heffect with
  | nothing hsession hchanges hspawned =>
    have hsame : ∀ i, (g.dispatch id e).group.session? i = g.session? i := by
      intro i
      rw [hsessions, hsession, hspawned]
      split_ifs with hi hlength
      · rw [hi, hs]
      · rw [hlength, session?_length]
      · rfl
    rw [hchanges, Registry.after_nil] at hregistry
    refine .inl ⟨dispatch_profile g id e, dispatch_closed g id e, by rw [hregistry], ?_, ?_, ?_⟩
    · exact fun i hi => .inl (hregistry ▸ hi)
    · exact fun i t ht => (hsame i).trans ht
    · exact fun i t ht => .inl ((hsame i).symm.trans ht)
  | spawns r tag t he hm ht hsession hchanges hspawned =>
    rw [hchanges, Registry.after_bind] at hregistry
    refine .inr ⟨r, tag, t, he, hm, ht, hregistry, fun i => ?_⟩
    rw [hsessions, hsession, hspawned]
    split_ifs with hi hlength hlength
    · exact absurd (hi.symm.trans hlength) hid
    · rw [hi, hs]
    · rfl
    · rfl

namespace Sound

lemma dispatch_of_dialog (hg : Sound g) (hs : g.session? id = some s) (hrole : s.role = .dialog)
    (e : SessionEvent) : Sound (g.dispatch id e).group := by
  obtain ⟨heffect, -⟩ := Session.keyEffect_process (Promise.nothing_keptBy σ) g.profile
    g.cells.length hrole e g.network
  obtain ⟨hid, hdialog, -⟩ := Session.process_session g.profile g.cells.length hrole e g.network
  have hsessions := dispatch_session?_of_dialog hs hrole e
  refine ⟨fun i t ht => ?_, fun i t ht hreceiver => ?_, fun i t ht hready => ?_, fun i hi => ?_,
    fun key i howner => ?_⟩
  · rw [hsessions] at ht
    split at ht
    · next hi =>
      cases ht
      rw [hi]
      exact hid.trans (hg.numbered id s hs)
    · exact hg.numbered i t ht
  · rw [hsessions] at ht
    split at ht
    · cases ht
      cases hdialog.symm.trans hreceiver
    · exact hg.receivers i t ht hreceiver
  · rw [hsessions] at ht
    split at ht
    · cases ht
      exact heffect.key_eq_none (hg.unkeyed id s hs) hready
    · exact hg.unkeyed i t ht hready
  · rw [dispatch_registry_receiver] at hi
    have hreceiver := hg.receiver i hi
    rw [hsessions, if_neg]
    · exact hreceiver
    · rintro rfl
      rw [hs] at hreceiver
      cases hreceiver
      cases hrole
  · rw [dispatch_registry hs] at howner
    rcases hg.owners_of_keyEffect hs hdialog heffect howner with ⟨rfl, hholds⟩ | ⟨hi, howner⟩
    · exact ⟨_, dispatch_session?_self hs e, hholds⟩
    · obtain ⟨t, ht, hholds⟩ := hg.owners key i howner
      exact ⟨t, by rw [hsessions, if_neg hi, ht], hholds⟩

lemma dispatch_of_receiver (hg : Sound g) (hs : g.session? id = some (.idle id .receiver))
    (e : SessionEvent) : Sound (g.dispatch id e).group := by
  rcases dispatch_receiver (Promise.nothing_keptBy σ) hs e with
    h | ⟨r, tag, t, -, -, -, hregistry, hsessions⟩
  · exact hg.keeps h
  have hold : ∀ i s, g.session? i = some s → (g.dispatch id e).group.session? i = some s := by
    intro i s hs
    rw [hsessions, if_neg, hs]
    rintro rfl
    rw [session?_length] at hs
    cases hs
  refine ⟨fun i s hs => ?_, fun i s hs hrole => ?_, fun i s hs hready => ?_, fun i hi => ?_,
    fun key i howner => ?_⟩
  · rw [hsessions] at hs
    split at hs
    · next hi =>
      cases hs
      exact (Session.takingIn_id _ r tag t).trans hi.symm
    · exact hg.numbered i s hs
  · rw [hsessions] at hs
    split at hs
    · cases hs
      rw [Session.takingIn_role] at hrole
      cases hrole
    · exact hg.receivers i s hs hrole
  · rw [hsessions] at hs
    split at hs
    · cases hs
      cases hready
    · exact hg.unkeyed i s hs hready
  · rw [dispatch_registry_receiver] at hi
    exact hold i _ (hg.receiver i hi)
  · rw [hregistry, Registry.get?_insert] at howner
    split at howner
    · next hkey =>
      cases howner
      refine ⟨.takingIn g.cells.length r tag t, by rw [hsessions, if_pos rfl], ?_⟩
      exact ⟨Session.takingIn_role _ r tag t, nofun, congrArg some hkey.symm⟩
    · obtain ⟨s, hs, hholds⟩ := hg.owners key i howner
      exact ⟨s, hold i s hs, hholds⟩

/-- No event breaks the registry. -/
lemma dispatch (hg : Sound g) (id : SessionId) (e : SessionEvent) :
    Sound (g.dispatch id e).group := by
  cases hs : g.session? id with
  | none =>
    rw [dispatch_of_none hs]
    exact hg
  | some s =>
    cases hrole : s.role with
    | dialog => exact hg.dispatch_of_dialog hs hrole e
    | receiver => exact hg.dispatch_of_receiver (hg.receivers id s hs hrole ▸ hs) e

end Sound

/-! ### Every history -/

variable {permits : Signal → Prop}

/-- Nor does anything else that can happen. -/
lemma Sound.effect (hg : Sound g) (h : Effect permits g g') : Sound g' :=
  h.preserves hg (fun _ _ hkeeps hg => hg.keeps hkeeps) (fun _ id e _ hg => hg.dispatch id e)
    (fun _ id hg => hg.dispatch id _) fun _ hg => hg.closes

lemma Reachable.sound (h : Reachable permits g) : Sound g :=
  h.invariant sound_start (fun _ _ hkeeps hg => hg.keeps hkeeps)
    (fun _ id e _ hg => hg.dispatch id e) (fun _ id hg => hg.dispatch id _) fun _ hg => hg.closes

/-- An invitation that no session owns takes no key away. -/
lemma Sound.get?_processSignal (hg : Sound g) {r : Request}
    (h : g.registry.get? r.callId = none) {key : CallId} {i : SessionId}
    (howner : g.registry.get? key = some i) :
    (g.processSignal (.request r)).group.registry.get? key = some i := by
  unfold processSignal
  split
  · exact howner
  split
  · exact howner
  next id hid =>
  have hreceiver : g.registry.receiver = some id := by
    simpa only [Registry.resolve, Signal.key, h] using hid
  rcases dispatch_receiver (Promise.nothing_keptBy σ) (hg.receiver id hreceiver) (.request r) with
    hkeeps | ⟨_, _, _, ⟨⟩, _, _, hregistry, _⟩
  · exact (hkeeps.get? key).trans howner
  · refine (congrArg (Registry.get? · key) hregistry).trans ?_
    rw [Registry.get?_insert, if_neg, howner]
    rintro rfl
    rw [h] at howner
    cases howner

/-- In whatever state a group is: an owner is busy under its key, so it owns no other one, and
neither receivers nor idle sessions own any; a request that nobody owns, such as an invitation,
leaves all owners alone; and whatever an event asks for is done. -/
theorem registry_sound (h : Reachable permits g) :
    (∀ key i, g.registry.get? key = some i →
      ∃ s, g.session? i = some s ∧ s.role = .dialog ∧ s.state ≠ .ready ∧ s.key = some key) ∧
    (∀ key key' i, g.registry.get? key = some i → g.registry.get? key' = some i → key = key') ∧
    (∀ key i, g.registry.receiver = some i → g.registry.get? key ≠ some i) ∧
    (∀ key i s, g.session? i = some s → s.state = .ready → g.registry.get? key ≠ some i) ∧
    (∀ r : Request, g.registry.get? r.callId = none → ∀ key i, g.registry.get? key = some i →
      (g.processSignal (.request r)).group.registry.get? key = some i) ∧
    (∀ id cell e, g.cells[id]? = some cell →
      let o := (cell.session.process g.profile g.cells.length e g.network).1
      (g.dispatch id e).group.registry = o.keyChanges.foldl applyKeyChange g.registry ∧
      (g.dispatch id e).deliveries =
        o.reports.map fun report => ⟨cell.addressee, report.session, report.notice⟩) := by
  have hg := h.sound
  refine ⟨fun key i howner => ?_, fun key key' i => hg.key_unique, fun key i hi => ?_,
    fun key i s hs hready => hg.not_owner_of_ready hs hready key,
    fun r hfree key i howner => hg.get?_processSignal hfree howner, fun id cell e hcell => ?_⟩
  · obtain ⟨s, hs, hholds⟩ := hg.owners key i howner
    exact ⟨s, hs, hholds.role, hholds.busy, hholds.key⟩
  · exact hg.not_owner_of_receiver (hg.receiver i hi) key
  · have hs : g.session? id = some cell.session := by rw [session?, hcell]; rfl
    exact ⟨dispatch_registry hs e, dispatch_deliveries hcell e⟩

/-- A session that registers owns the key it holds. -/
theorem registry_sound_of_registration :
    let profile := Profile.ofUri ⟨some "alice", "localhost", none⟩ ""
    let created := ((start profile .default (Recorder.ofHost "localhost")).act
      (.createSession .nobody)).group
    let g := (created.act (.command 0 (.register 60))).group
    Reachable (fun _ => True) g ∧
      ∃ key, g.registry.get? key = some 0 ∧
        ∃ s, g.session? 0 = some s ∧ s.state ≠ .ready ∧ s.key = some key := by
  intro profile created g
  have hcreated : Step (fun _ => True) (start profile .default (Recorder.ofHost "localhost"))
      created := .act trivial
  have hg : Reachable (fun _ => True) g :=
    ⟨profile, .default, Recorder.ofHost "localhost", .tail (.single hcreated) (.act rfl)⟩
  obtain ⟨key, hkey⟩ : ∃ key, g.registry.get? key = some 0 :=
    ⟨((⟨0⟩ : IdSupply).next.next).callId "localhost", by decide +kernel⟩
  obtain ⟨s, hs, -, hbusy, hheld⟩ := (registry_sound hg).1 key 0 hkey
  exact ⟨hg, key, hkey, s, hs, hbusy, hheld⟩

end Group

end SipAgent
