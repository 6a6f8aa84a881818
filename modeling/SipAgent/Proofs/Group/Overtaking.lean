import SipAgent.Proofs.Group.Ownership
import SipAgent.Proofs.Transport.Recorder

/-!
# Which busy sessions can still be reached

Signals reach a session only as long as it owns its key. Over a recorder, with invitations under
fresh keys, a busy session owns its key except in one case: another session has registered under the
same key in the meantime. All registrations of a recorder share one key, and the registry gives a
key to whoever claims it last, so a session that registers takes the key away from every other one
that is registering. `owns_iff_not_overtaken` says that this is the only way to lose a key.
-/

namespace SipAgent

namespace Group

variable {σ : Type} {g g₁ g₂ g' : Group σ} {i j : SessionId}

/-- The key of a session. -/
def keyOf (g : Group σ) (i : SessionId) : Option CallId :=
  (g.session? i).bind (·.key)

/-- The session has a key, and the registry finds it there. -/
def Owns (g : Group σ) (i : SessionId) : Prop :=
  ∃ key, g.keyOf i = some key ∧ g.registry.get? key = some i

/-- In one step, an idle session registers under the key of another one. -/
structure Overtakes (g g' : Group σ) (j i : SessionId) : Prop where
  idle : g.stateOf j = .ready
  registers : (g'.stateOf j).isRegistration
  sameKey : ∃ key, g'.keyOf j = some key ∧ g.keyOf i = some key

/-- In one step, no session calls under the key of a busy one. -/
def FreshCalls (g g' : Group σ) : Prop :=
  ∀ j, g.stateOf j = .ready → g'.stateOf j = .outgoingCall →
    ∀ i, g.stateOf i ≠ .ready → ∀ key, g'.keyOf j = some key → g.keyOf i ≠ some key

lemma keyOf_of_session? {s : Session} (h : g.session? i = some s) : g.keyOf i = s.key := by
  unfold keyOf
  rw [h]
  rfl

/-! ### Steps that leave owners alone -/

section Keeps

/-- New sessions have no key, just like those that do not exist. -/
lemma Keeps.keyOf (h : Keeps g g') (i : SessionId) : g'.keyOf i = g.keyOf i := by
  cases hs : g.session? i with
  | some s => rw [keyOf_of_session? hs, keyOf_of_session? (h.sessions i s hs)]
  | none =>
    cases hs' : g'.session? i with
    | none => simp only [Group.keyOf, hs, hs']
    | some s =>
      rcases h.created i s hs' with h | ⟨role, rfl⟩
      · cases hs.symm.trans h
      · simp only [Group.keyOf, hs, hs']
        rfl

lemma Keeps.owns (h : Keeps g g') (i : SessionId) : g'.Owns i ↔ g.Owns i := by
  simp only [Owns, h.keyOf, h.get?]

lemma Keeps.overtakes (before : Keeps g g₁) (after : Keeps g₂ g') :
    Overtakes g₁ g₂ j i ↔ Overtakes g g' j i := by
  constructor
  · rintro ⟨hidle, hregisters, hkey⟩
    refine ⟨?_, ?_, ?_⟩
    · rwa [← before.stateOf]
    · rwa [after.stateOf]
    · simpa only [after.keyOf, before.keyOf] using hkey
  · rintro ⟨hidle, hregisters, hkey⟩
    refine ⟨?_, ?_, ?_⟩
    · rwa [before.stateOf]
    · rwa [← after.stateOf]
    · simpa only [after.keyOf, before.keyOf] using hkey

lemma FreshCalls.of_keeps (h : FreshCalls g g') (before : Keeps g g₁) (after : Keeps g₂ g') :
    FreshCalls g₁ g₂ := by
  intro j hidle hcalls i hbusy key hkey
  rw [before.keyOf]
  refine h j ?_ ?_ i ?_ key ?_
  · rwa [← before.stateOf]
  · rwa [after.stateOf]
  · rwa [← before.stateOf]
  · rwa [after.keyOf]

end Keeps

/-- Nobody becomes busy, and whoever stays busy owns its key as before. -/
def Undisturbed (g g' : Group σ) : Prop :=
  ∀ i, g'.stateOf i ≠ .ready → g.stateOf i ≠ .ready ∧ (g'.Owns i ↔ g.Owns i)

namespace Undisturbed

lemma trans (h : Undisturbed g₁ g₂) (h' : Undisturbed g₂ g') : Undisturbed g₁ g' := by
  intro i hi
  obtain ⟨hbusy, howns⟩ := h' i hi
  obtain ⟨hbusy', howns'⟩ := h i hbusy
  exact ⟨hbusy', howns.trans howns'⟩

lemma of_keeps (h : Keeps g g') : Undisturbed g g' := by
  intro i hi
  exact ⟨by rwa [← h.stateOf], h.owns i⟩

/-- Where nobody becomes busy, nobody is overtaken. -/
lemma not_overtakes (h : Undisturbed g g') : ¬ Overtakes g g' j i := by
  rintro ⟨hidle, hregisters, -⟩
  refine (h j ?_).1 hidle
  rintro hready
  rw [hready] at hregisters
  cases hregisters

end Undisturbed

/-- What becomes of the owners in one step: a session that becomes busy owns its key, and one that
stays busy owns its key as before unless it is overtaken. -/
def Settles (g g' : Group σ) : Prop :=
  ∀ i, g'.stateOf i ≠ .ready →
    g.stateOf i = .ready ∧ g'.Owns i ∨
      g.stateOf i ≠ .ready ∧ (g'.Owns i ↔ g.Owns i ∧ ¬ ∃ j, Overtakes g g' j i)

lemma Undisturbed.settles (h : Undisturbed g g') : Settles g g' := by
  intro i hi
  obtain ⟨hbusy, howns⟩ := h i hi
  refine .inr ⟨hbusy, howns.trans ?_⟩
  exact (and_iff_left (not_exists.mpr fun j => h.not_overtakes)).symm

lemma Settles.of_keeps (h : Settles g₁ g₂) (before : Keeps g g₁) (after : Keeps g₂ g') :
    Settles g g' := by
  intro i hi
  rw [after.stateOf] at hi
  simpa only [before.stateOf, after.owns, before.owns, Keeps.overtakes before after] using h i hi

/-! ### Feeding one event -/

/-- An idle session claims a key, and nobody else changes. Whoever loses the key to it loses it to a
registration. -/
lemma settles_of_claimed {key : CallId} (hidle : g.stateOf j = .ready)
    (hclaims : g'.keyOf j = some key)
    (hget : ∀ other, g'.registry.get? other = if other = key then some j else g.registry.get? other)
    (hothers : ∀ i, i ≠ j → g'.session? i = g.session? i)
    (hrivals : ∀ i, g.stateOf i ≠ .ready → g.keyOf i = some key → g.registry.get? key = some i →
      (g'.stateOf j).isRegistration) : Settles g g' := by
  have hstateOf : ∀ i, i ≠ j → g'.stateOf i = g.stateOf i := fun i hi => by
    unfold stateOf
    rw [hothers i hi]
  have hkeyOf : ∀ i, i ≠ j → g'.keyOf i = g.keyOf i := fun i hi => by
    unfold keyOf
    rw [hothers i hi]
  -- Nobody but the claimant can overtake anybody.
  have hover : ∀ k i, Overtakes g g' k i → g.keyOf i = some key := by
    intro k i hover
    obtain ⟨same, hk, hi⟩ := hover.sameKey
    by_cases hkj : k = j
    · rw [hkj, hclaims] at hk
      rw [hi, hk]
    · have hregisters := hover.registers
      rw [hstateOf k hkj, hover.idle] at hregisters
      cases hregisters
  intro i hi
  by_cases hij : i = j
  · subst hij
    exact .inl ⟨hidle, key, hclaims, by rw [hget, if_pos rfl]⟩
  have hbusy : g.stateOf i ≠ .ready := hstateOf i hij ▸ hi
  refine .inr ⟨hbusy, ?_⟩
  constructor
  · rintro ⟨own, hown, howner⟩
    rw [hkeyOf i hij] at hown
    rw [hget] at howner
    split at howner
    · exact absurd (Option.some.inj howner).symm hij
    · next hne =>
      refine ⟨⟨own, hown, howner⟩, ?_⟩
      rintro ⟨k, hk⟩
      exact hne (Option.some.inj (hown.symm.trans (hover k i hk)))
  · rintro ⟨⟨own, hown, howner⟩, hnot⟩
    refine ⟨own, (hkeyOf i hij).trans hown, ?_⟩
    rw [hget, if_neg]
    · exact howner
    · rintro rfl
      exact hnot ⟨j, hidle, hrivals i hbusy hown howner, own, hclaims, hown⟩

/-- A new session comes up under a key that nobody owns. -/
lemma settles_of_spawned {r : Request} {tag : Tag} {t : ServerTransaction}
    (hfree : g.registry.get? r.callId = none)
    (hregistry : g'.registry = g.registry.insert r.callId g.cells.length)
    (hsessions : ∀ i, g'.session? i =
      if i = g.cells.length then some (.takingIn g.cells.length r tag t) else g.session? i) :
    Settles g g' := by
  have hidle : g.stateOf g.cells.length = .ready := by rw [stateOf, session?_length]
  have hclaims : g'.keyOf g.cells.length = some r.callId :=
    keyOf_of_session? ((hsessions _).trans (if_pos rfl))
  refine settles_of_claimed hidle hclaims (fun other => ?_) (fun i hi => ?_) ?_
  · rw [hregistry, Registry.get?_insert]
  · rw [hsessions, if_neg hi]
  · intro i _ _ howner
    rw [hfree] at howner
    cases howner

section Dispatch

variable [Transport σ] {id : SessionId} {s : Session} {e : SessionEvent}

lemma stateOf_dispatch (hs : g.session? id = some s) (hrole : s.role = .dialog) (e : SessionEvent)
    (i : SessionId) :
    (g.dispatch id e).group.stateOf i =
      if i = id then (g.outcomeOf s e).session.state else g.stateOf i := by
  unfold stateOf
  rw [dispatch_session?_of_dialog hs hrole]
  by_cases hi : i = id
  · rw [if_pos hi, if_pos hi]
  · rw [if_neg hi, if_neg hi]

lemma keyOf_dispatch (hs : g.session? id = some s) (hrole : s.role = .dialog) (e : SessionEvent)
    (i : SessionId) :
    (g.dispatch id e).group.keyOf i =
      if i = id then (g.outcomeOf s e).session.key else g.keyOf i := by
  unfold keyOf
  rw [dispatch_session?_of_dialog hs hrole]
  by_cases hi : i = id
  · rw [if_pos hi, if_pos hi]; rfl
  · rw [if_neg hi, if_neg hi]

/-- The session keeps its key. -/
lemma undisturbed_of_kept (hs : g.session? id = some s) (hrole : s.role = .dialog)
    (hkey : (g.outcomeOf s e).session.key = s.key) (hchanges : (g.outcomeOf s e).keyChanges = [])
    (hstate : (g.outcomeOf s e).session.state = .ready ↔ s.state = .ready) :
    Undisturbed g (g.dispatch id e).group := by
  have hregistry := dispatch_registry hs e
  rw [hchanges, Registry.after_nil] at hregistry
  intro i hi
  have hkeyOf : (g.dispatch id e).group.keyOf i = g.keyOf i := by
    rw [keyOf_dispatch hs hrole]
    split
    · next heq => rw [heq, keyOf_of_session? hs, hkey]
    · rfl
  refine ⟨?_, by simp only [Owns, hkeyOf, hregistry]⟩
  rw [stateOf_dispatch hs hrole] at hi
  split at hi
  · next heq =>
    rw [heq, stateOf_of_session? hs]
    exact mt hstate.mpr hi
  · exact hi

/-- The session lets go of its key. -/
lemma Sound.undisturbed_of_released (hg : Sound g) (hs : g.session? id = some s)
    (hrole : s.role = .dialog) (hsession : (g.outcomeOf s e).session = s.cleared)
    (hchanges : (g.outcomeOf s e).keyChanges = s.unbound) :
    Undisturbed g (g.dispatch id e).group := by
  have hregistry := dispatch_registry hs e
  rw [hchanges] at hregistry
  intro i hi
  rw [stateOf_dispatch hs hrole, hsession] at hi
  split at hi
  · exact absurd rfl hi
  · next hne =>
    refine ⟨hi, ?_⟩
    have hid : i ≠ s.id := by rwa [hg.numbered id s hs]
    simp only [Owns, hregistry, keyOf_dispatch hs hrole, if_neg hne,
      Registry.get?_after_unbound_of_ne hid]

/-- The session leaves its idle state under a new key. -/
lemma Sound.settles_of_taken (hg : Sound g) (hs : g.session? id = some s) (hrole : s.role = .dialog)
    (hfresh : FreshCalls g (g.dispatch id e).group) {key : CallId} (hready : s.state = .ready)
    (hkey : (g.outcomeOf s e).session.key = some key)
    (hchanges : (g.outcomeOf s e).keyChanges = s.rebound key)
    (hstate : (g.outcomeOf s e).session.state.isRegistration ∨
      (g.outcomeOf s e).session.state = .outgoingCall) :
    Settles g (g.dispatch id e).group := by
  have hidle : g.stateOf id = .ready := (stateOf_of_session? hs).trans hready
  have hclaims : (g.dispatch id e).group.keyOf id = some key := by
    rw [keyOf_dispatch hs hrole, if_pos rfl, hkey]
  have hstateOf : (g.dispatch id e).group.stateOf id = (g.outcomeOf s e).session.state := by
    rw [stateOf_dispatch hs hrole, if_pos rfl]
  refine settles_of_claimed hidle hclaims (fun other => ?_) (fun i hi => ?_) ?_
  · have hnone := hg.unkeyed id s hs hready
    have hne : s.key ≠ some key := by simp [hnone]
    rw [dispatch_registry hs, hchanges, Registry.get?_after_rebound hne, hg.numbered id s hs]
    simp [Session.unbound, hnone]
  · rw [dispatch_session?_of_dialog hs hrole, if_neg hi]
  · intro i hbusy hown _
    rw [hstateOf]
    refine hstate.resolve_right fun hcalls => ?_
    exact hfresh id hidle (hstateOf.trans hcalls) i hbusy key hclaims hown

/-- The loss of the connection ends sessions, and that is all. -/
lemma Sound.undisturbed_of_lost (hg : Sound g) (id : SessionId) :
    Undisturbed g (g.dispatch id .connectionLost).group := by
  cases hs : g.session? id with
  | none =>
    rw [dispatch_of_none hs]
    exact .of_keeps (.refl g)
  | some s =>
    cases hrole : s.role with
    | dialog =>
      have heffect := (Session.keyEffect_process (Promise.nothing_keptBy σ) g.profile
        g.cells.length hrole .connectionLost g.network).1
      cases heffect with
      | kept hkey hchanges hstate => exact undisturbed_of_kept hs hrole hkey hchanges hstate
      | released hsession hchanges => exact hg.undisturbed_of_released hs hrole hsession hchanges
      | taken key he => cases he
      | renewed r credentials t he => cases he
    | receiver =>
      rcases dispatch_receiver (Promise.nothing_keptBy σ) (hg.receivers id s hs hrole ▸ hs)
        .connectionLost with h | ⟨_, _, _, he, _⟩
      · exact .of_keeps h
      · cases he

lemma Sound.disconnect (hg : Sound g) (ids : List SessionId) :
    Sound (g.disconnect ids).group ∧ Undisturbed g (g.disconnect ids).group := by
  induction ids generalizing g with
  | nil => exact ⟨hg, .of_keeps (.refl g)⟩
  | cons id more ih =>
    obtain ⟨hsound, hmore⟩ := ih (hg.dispatch id .connectionLost)
    exact ⟨hsound, (hg.undisturbed_of_lost id).trans hmore⟩

end Dispatch

/-! ### Over a recorder -/

variable {permits : Signal → Prop}

/-- A recorder answers a challenge under the Call-ID of the challenge, so no key changes then. -/
lemma Sound.settles_of_feeds {g : Group Recorder} (hg : Sound g) {id : SessionId}
    {e : SessionEvent} (h : Feeds permits g id e) (hfresh : FreshCalls g (g.dispatch id e).group) :
    Settles g (g.dispatch id e).group := by
  cases hs : g.session? id with
  | none =>
    rw [dispatch_of_none hs]
    exact (Undisturbed.of_keeps (.refl g)).settles
  | some s =>
    cases hrole : s.role with
    | dialog =>
      have heffect := (Session.keyEffect_process Recorder.keeps_promise g.profile
        g.cells.length hrole e g.network).1
      cases heffect with
      | kept hkey hchanges hstate =>
        exact (undisturbed_of_kept hs hrole hkey hchanges hstate).settles
      | released hsession hchanges =>
        exact (hg.undisturbed_of_released hs hrole hsession hchanges).settles
      | taken key he hready hkey hchanges hstate =>
        exact hg.settles_of_taken hs hrole hfresh hready hkey hchanges hstate
      | renewed r credentials t he ht hbusy hkey hchanges hstate =>
        subst he
        have hheld : s.key = some t.callId :=
          ht.2 ▸ hg.key_of_resolve hs hrole (Feeds.of_signal (s := .response r) h).2
        refine (undisturbed_of_kept hs hrole (hkey.trans hheld.symm) ?_ ?_).settles
        · exact hchanges.trans (if_pos hheld)
        · exact iff_of_false (fun hready => hbusy (hstate.symm.trans hready)) hbusy
    | receiver =>
      have hreceiver : g.session? id = some (.idle id .receiver) := hg.receivers id s hs hrole ▸ hs
      rcases dispatch_receiver Recorder.keeps_promise hreceiver e with
        hkeeps | ⟨r, tag, t, rfl, -, -, hregistry, hsessions⟩
      · exact (Undisturbed.of_keeps hkeeps).settles
      · have hresolve := (Feeds.of_signal (s := .request r) h).2
        exact settles_of_spawned (hg.get?_of_resolve hreceiver hresolve) hregistry hsessions

/-- What becomes of the owners in one step of an open group. -/
lemma Sound.settles {g g' : Group Recorder} (hg : Sound g) (h : Effect permits g g')
    (hopen : g'.closed = false) (hfresh : FreshCalls g g') : Settles g g' := by
  cases h with
  | keeps h => exact (Undisturbed.of_keeps h).settles
  | feeds before h after =>
    have hfresh' := hfresh.of_keeps before after
    exact ((hg.keeps before).settles_of_feeds h hfresh').of_keeps before after
  | disconnects before ids after =>
    have hlost := ((hg.keeps before).disconnect ids).2
    exact hlost.settles.of_keeps before after
  | closes h => cases hopen

/-! ### Histories -/

/-- What a group has gone through, the latest state first. Calls go out under fresh keys. -/
inductive History (permits : Signal → Prop) : List (Group Recorder) → Prop where
  | start (profile : Profile) (settings : RegistrationSettings) (network : Recorder) :
      History permits [start profile settings network]
  | step {g g' : Group Recorder} {past : List (Group Recorder)} (h : History permits (g :: past))
      (hstep : Step permits g g') (hfresh : FreshCalls g g') : History permits (g' :: g :: past)

/-- At some moment another session has registered under the key of this one, which was busy then and
has been ever since. -/
inductive Overtaken : List (Group Recorder) → SessionId → Prop where
  | now {g g' : Group Recorder} {past : List (Group Recorder)} {i j : SessionId}
      (hbusy : g.stateOf i ≠ .ready) (hstill : g'.stateOf i ≠ .ready) (h : Overtakes g g' j i) :
      Overtaken (g' :: g :: past) i
  | since {g g' : Group Recorder} {past : List (Group Recorder)} {i : SessionId}
      (h : Overtaken (g :: past) i) (hstill : g'.stateOf i ≠ .ready) :
      Overtaken (g' :: g :: past) i

lemma Overtaken.busy {g : Group Recorder} {past : List (Group Recorder)} {i : SessionId}
    (h : Overtaken (g :: past) i) : g.stateOf i ≠ .ready := by
  cases h with
  | now hbusy hstill => exact hstill
  | since h hstill => exact hstill

lemma History.reachable {g : Group Recorder} {past : List (Group Recorder)}
    (h : History permits (g :: past)) : Reachable permits g := by
  generalize hstates : g :: past = states at h
  induction h generalizing g past with
  | start profile settings network =>
    cases hstates
    exact ⟨profile, settings, network, .refl⟩
  | step h hstep hfresh ih =>
    cases hstates
    obtain ⟨profile, settings, network, hpast⟩ := ih rfl
    exact ⟨profile, settings, network, hpast.tail hstep⟩

/-- In an open group a busy session owns its key unless it has been overtaken. -/
theorem owns_iff_not_overtaken {g : Group Recorder} {past : List (Group Recorder)}
    (h : History permits (g :: past)) (hopen : g.closed = false) {i : SessionId}
    (hi : g.stateOf i ≠ .ready) : g.Owns i ↔ ¬ Overtaken (g :: past) i := by
  generalize hstates : g :: past = states at h
  induction h generalizing g past with
  | start profile settings network =>
    cases hstates
    exact absurd rfl hi
  | @step before after earlier h hstep hfresh ih =>
    cases hstates
    have hopen' : before.closed = false := by
      rw [← Bool.not_eq_true]
      intro hclosed
      rw [hstep.effect.closed hclosed] at hopen
      cases hopen
    rcases h.reachable.sound.settles hstep.effect hopen hfresh i hi with
      ⟨hidle, howns⟩ | ⟨hbusy, howns⟩
    · refine iff_of_true howns fun hover => ?_
      cases hover with
      | now hbusy => exact hbusy hidle
      | since h => exact h.busy hidle
    · rw [howns, ih hopen' hbusy rfl]
      constructor
      · rintro ⟨hpast, hnow⟩ hover
        cases hover with
        | now hbusy hstill h => exact hnow ⟨_, h⟩
        | since h => exact hpast h
      · intro hnot
        refine ⟨fun hpast => hnot (.since hpast hi), ?_⟩
        rintro ⟨j, hover⟩
        exact hnot (.now hbusy hi hover)

/-! ### Two sessions that register -/

/-- Two idle sessions in one group. -/
def rivals : Group Recorder :=
  let profile := Profile.ofUri ⟨some "alice", "localhost", none⟩ ""
  let one := ((start profile .default (Recorder.ofHost "localhost")).act
    (.createSession .nobody)).group
  (one.act (.createSession .nobody)).group

lemma FreshCalls.of_none (h : ∀ j, g'.stateOf j ≠ .outgoingCall) : FreshCalls g g' :=
  fun j _ hcalls => absurd hcalls (h j)

lemma history_rivals : ∃ past, History (fun _ => True) (rivals :: past) := by
  refine ⟨_, .step (.step (.start _ _ _) (.act (a := .createSession .nobody) trivial) ?_)
    (.act (a := .createSession .nobody) trivial) ?_⟩
  · exact .of_none (by rintro (_ | _) <;> nofun)
  · exact .of_none (by rintro (_ | _ | _) <;> nofun)

/-- The first one to register owns its key, so it has not been overtaken. -/
theorem first_rival_owns :
    let first := (rivals.act (.command 0 (.register 60))).group
    ∃ past, History (fun _ => True) (first :: past) ∧ first.closed = false ∧
      first.stateOf 0 = .registering ∧ first.Owns 0 ∧ ¬ Overtaken (first :: past) 0 := by
  intro first
  obtain ⟨past, hpast⟩ := history_rivals
  have hfirst : History (fun _ => True) (first :: rivals :: past) :=
    .step hpast (.act rfl) (.of_none (by rintro (_ | _ | _) <;> nofun))
  have howns : first.Owns 0 :=
    ⟨((⟨0⟩ : IdSupply).next.next).callId "localhost", by decide +kernel, by decide +kernel⟩
  exact ⟨_, hfirst, rfl, rfl, howns, (owns_iff_not_overtaken hfirst rfl (by decide)).mp howns⟩

/-- The second one to register takes the key away from the first one, which is still waiting for its
registrar, and goes on waiting when the connection is lost. -/
theorem first_rival_loses_key :
    let first := (rivals.act (.command 0 (.register 60))).group
    let second := (first.act (.command 1 (.register 60))).group
    ∃ past, History (fun _ => True) (second :: past) ∧ second.closed = false ∧
      second.stateOf 0 = .registering ∧ ¬ second.Owns 0 ∧
      (second.act (.setConnected false)).group.stateOf 0 = .registering := by
  intro first second
  obtain ⟨past, hpast⟩ := history_rivals
  have hfirst : History (fun _ => True) (first :: rivals :: past) :=
    .step hpast (.act rfl) (.of_none (by rintro (_ | _ | _) <;> nofun))
  have hsecond : History (fun _ => True) (second :: first :: rivals :: past) :=
    .step hfirst (.act rfl) (.of_none (by rintro (_ | _ | _) <;> nofun))
  refine ⟨_, hsecond, rfl, rfl, ?_, by decide +kernel⟩
  rintro ⟨key, hkey, hget⟩
  have hshared : second.keyOf 0 = some (((⟨0⟩ : IdSupply).next.next).callId "localhost") := by
    decide +kernel
  have howner : second.registry.get? (((⟨0⟩ : IdSupply).next.next).callId "localhost") =
      some 1 := by
    decide +kernel
  rw [hshared] at hkey
  cases hkey
  rw [howner] at hget
  cases hget

end Group

end SipAgent
