import SipAgent.Proofs.Group.Step
import SipAgent.Proofs.Session.Acceptance
import SipAgent.Transport.Recorder

/-!
# Commands to the sessions of a group

A session accepts a command by the table `SessionEvent.acceptingStates`, and a command that it does
not accept leaves no trace. The table is exact only for sessions that have what their state is
about, `Session.Equipped`. All sessions of every reachable group do, whatever signals come in and
whatever the network replies, so the fields that a session keeps to itself do not matter.
-/

namespace SipAgent

namespace Group

section

variable {σ : Type} {g g' : Group σ} {id : SessionId} {s : Session} {e : SessionEvent}

/-- Every session that owns a dialog has what its state is about. -/
def Equipped (g : Group σ) : Prop :=
  ∀ i s, g.session? i = some s → s.role = .dialog → s.Equipped

lemma equipped_start (profile : Profile) (settings : RegistrationSettings) (network : σ) :
    Equipped (start profile settings network) := by
  intro i s h
  simp [session?, start] at h

lemma Equipped.keeps (hg : Equipped g) (h : Keeps g g') : Equipped g' := by
  intro i s hs hrole
  rcases h.created i s hs with hs | ⟨role, rfl⟩
  · exact hg i s hs hrole
  · exact Session.equipped_idle i role

variable [Transport σ]

/-- The session that an event is fed to, and the one that it spawns, have what they need. -/
lemma equipped_outcomeOf (hs : s.role = .dialog → s.Equipped) (e : SessionEvent) :
    ((g.outcomeOf s e).session.role = .dialog → (g.outcomeOf s e).session.Equipped) ∧
      ∀ t, (g.outcomeOf s e).spawned = some t → t.Equipped := by
  unfold outcomeOf
  cases hrole : s.role with
  | dialog =>
    refine ⟨fun _ => (hs hrole).process hrole _ _ e _, fun t ht => ?_⟩
    rw [(Session.keyEffect_process (Promise.nothing_keptBy σ) _ _ hrole e _).2] at ht
    cases ht
  | receiver =>
    rcases Session.intake_process (Promise.nothing_keptBy σ) g.profile g.cells.length hrole e
      g.network with h | ⟨cause, h⟩
    · generalize (s.process g.profile g.cells.length e g.network).1 = o at h ⊢
      cases h with
      | refused | consumed => exact ⟨hs, fun _ ht => nomatch ht⟩
      | takesIn r tag t =>
        refine ⟨hs, ?_⟩
        rintro _ ⟨⟩
        exact Session.equipped_takingIn _ r tag t
    · rw [h]
      exact ⟨fun _ => Session.equipped_idle _ _, fun _ ht => nomatch ht⟩

lemma Equipped.dispatch (hg : Equipped g) (id : SessionId) (e : SessionEvent) :
    Equipped (g.dispatch id e).group := by
  cases hs : g.session? id with
  | none =>
    rw [dispatch_of_none hs]
    exact hg
  | some s =>
    obtain ⟨hfed, hspawned⟩ := equipped_outcomeOf (g := g) (hg id s hs) e
    intro i t ht hrole
    rw [dispatch_session? hs] at ht
    split_ifs at ht
    · cases ht
      exact hfed hrole
    · exact hspawned t ht
    · exact hg i t ht hrole

/-- In every group that a history leads to, sessions have what their states are about. -/
lemma Reachable.equipped {permits : Signal → Prop} (h : Reachable permits g) : Equipped g := by
  refine h.invariant equipped_start ?_ ?_ ?_ ?_
  · exact fun g g' hkeeps hg => hg.keeps hkeeps
  · exact fun g id e _ hg => hg.dispatch id e
  · exact fun g id hg => hg.dispatch id _
  · exact fun g hg => hg

/-! ### Commands that are not accepted -/

/-- An event for which a session does nothing but refuse it leaves the group as it was. -/
lemma dispatch_of_refused (hs : g.session? id = some s)
    (h : s.script g.profile g.cells.length e = .done s.refused) :
    g.dispatch id e = ⟨g, [], false⟩ := by
  obtain ⟨addressee, hcell⟩ := session?_eq_some.mp hs
  have hprocess : s.process g.profile g.cells.length e g.network = (s.refused, g.network) := by
    unfold Session.process
    rw [h]
    rfl
  have hcells : g.cells.set id ⟨s, addressee⟩ = g.cells := by
    obtain ⟨hlt, hget⟩ := List.getElem?_eq_some_iff.mp hcell
    rw [← hget, List.set_getElem_self]
  rw [dispatch_eq hcell, outcomeOf, hprocess]
  simp [concernedCells, Session.refused, hcells]

lemma command_of_open (h : g.closed = false) :
    g.command id e =
      let change := g.dispatch id e
      if change.result then ⟨change.group, change.deliveries, .ok ()⟩
      else ⟨change.group, change.deliveries, .error (change.group.refusal id e)⟩ := by
  simp [command, h]

lemma command_of_not_accepts (hg : Equipped g) (hopen : g.closed = false)
    (hs : g.session? id = some s) (he : e.isCommand) (h : ¬ s.Accepts e) :
    g.command id e = ⟨g, [], .error (g.refusal id e)⟩ := by
  have hscript : s.script g.profile g.cells.length e = .done s.refused :=
    Session.script_of_not_accepts (hg id s hs) he h
  rw [command_of_open hopen, dispatch_of_refused hs hscript]
  rfl

lemma command_result_of_accepts (hg : Equipped g) (hopen : g.closed = false)
    (hs : g.session? id = some s) (he : e.isCommand) (h : s.Accepts e) :
    (g.command id e).result = .ok () := by
  obtain ⟨addressee, hcell⟩ := session?_eq_some.mp hs
  have hprocessed : (g.dispatch id e).result = true := by
    rw [dispatch_eq hcell]
    exact Session.processed_of_accepts (hg id s hs) he h g.network
  simp only [command_of_open hopen, hprocessed, if_true]

end

/-! ### The table -/

variable {σ : Type} [Transport σ] {g : Group (Journal σ)} {id : SessionId} {s : Session}
  {e : SessionEvent}

/-- In every group that a history leads to, whatever network it is over: once the group is closed,
every command fails with that cause; before, a session accepts a command exactly by the table, and
every other command fails with its name and the state of the session. A command that fails leaves
the whole group as it was, with the journal of the network, and there is nothing to hand over. -/
theorem command_accepted_by_table (h : Reachable (fun _ => True) g) (hs : g.session? id = some s)
    (he : e.isCommand) :
    let change := g.command id e
    (g.closed = true → change.result = .error .groupClosed) ∧
    (g.closed = false →
      (change.result = .ok () ↔ s.Accepts e) ∧
      (¬ s.Accepts e → change.result = .error
        (.invalidStateTransition (e.name ++ " not allowed in " ++ s.state.name)))) ∧
    ∀ cause, change.result = .error cause → change.group = g ∧ change.deliveries = [] := by
  intro change
  have hrefused : g.closed = false → ¬ s.Accepts e → change = ⟨g, [],
      .error (.invalidStateTransition (e.name ++ " not allowed in " ++ s.state.name))⟩ := by
    intro hopen hnot
    have hchange := command_of_not_accepts h.equipped hopen hs he hnot
    rwa [refusal, stateOf_of_session? hs] at hchange
  have haccepted : g.closed = false → s.Accepts e → change.result = .ok () :=
    fun hopen => command_result_of_accepts h.equipped hopen hs he
  have hclosed : g.closed = true → change = ⟨g, [], .error .groupClosed⟩ := by
    intro hclosed
    simp only [change, command, hclosed, if_true]
  refine ⟨fun hdone => ?_, fun hopen => ⟨⟨fun hok => ?_, haccepted hopen⟩, fun hnot => ?_⟩,
    fun cause hcause => ?_⟩
  · rw [hclosed hdone]
  · by_contra hnot
    rw [hrefused hopen hnot] at hok
    cases hok
  · rw [hrefused hopen hnot]
  · cases hopen : g.closed with
    | true =>
      rw [hclosed hopen]
      exact ⟨rfl, rfl⟩
    | false =>
      by_cases hs' : s.Accepts e
      · rw [haccepted hopen hs'] at hcause
        cases hcause
      · rw [hrefused hopen hs']
        exact ⟨rfl, rfl⟩

/-- An idle session can call but not hang up, and the attempt to hang up leaves no trace. -/
theorem command_accepted_by_table_of_idle :
    let profile := Profile.ofUri ⟨some "alice", "localhost", none⟩ ""
    let g := ((start profile .default (Journal.opened (Recorder.ofHost "localhost"))).act
      (.createSession .nobody)).group
    Reachable (fun _ => True) g ∧ g.closed = false ∧
      (g.command 0 (.makeCall ⟨some "bob", "localhost", none⟩ [])).result = .ok () ∧
      (g.command 0 .endCall).result =
        .error (.invalidStateTransition "EndCall not allowed in Ready") ∧
      (g.command 0 .endCall).group = g := by
  intro profile g
  have hcreated : Step (fun _ => True)
      (start profile .default (Journal.opened (Recorder.ofHost "localhost"))) g :=
    .act (a := .createSession .nobody) trivial
  have hg : Reachable (fun _ => True) g :=
    ⟨profile, .default, Journal.opened (Recorder.ofHost "localhost"), .single hcreated⟩
  have hs : g.session? 0 = some (.idle 0 .dialog) := rfl
  obtain ⟨-, hcall, -⟩ := command_accepted_by_table hg hs
    (e := .makeCall ⟨some "bob", "localhost", none⟩ []) rfl
  obtain ⟨-, hend, htrace⟩ := command_accepted_by_table hg hs (e := .endCall) rfl
  have hrejected := (hend rfl).2 (by decide)
  exact ⟨hg, rfl, (hcall rfl).1.mpr (by decide), hrejected, (htrace _ hrejected).1⟩

end Group

end SipAgent
