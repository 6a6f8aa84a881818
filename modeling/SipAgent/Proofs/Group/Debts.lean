import SipAgent.Proofs.Group.Overtaking
import SipAgent.Proofs.Session.Answer

/-!
# Which requests a group owes a response

A session that rings owes its invitation a final response, and nobody else owes anything
(`Group.owes`). Feeding one event moves at most one debt, and whatever it moves is either in the
journal afterwards or was let go for a reason: `Group.Turn` lists the ways. `Group.Advances` says the
same of a whole step, from the point of view of one invitation.
-/

namespace SipAgent

namespace Group

section

variable {σ : Type} {g g' : Group σ} {i : SessionId} {s : Session} {t : ServerTransaction}

/-- The invitation that a session of a group has taken in and still has to answer. -/
def owes (g : Group σ) (i : SessionId) : List ServerTransaction :=
  match g.session? i with
  | some s => s.owed
  | none => []

lemma owes_of_session? (h : g.session? i = some s) : g.owes i = s.owed := by
  simp only [owes, h]

lemma owes_of_none (h : g.session? i = none) : g.owes i = [] := by
  simp only [owes, h]

lemma owes_congr (h : g'.session? i = g.session? i) : g'.owes i = g.owes i := by
  simp only [owes, h]

lemma owes_start (profile : Profile) (settings : RegistrationSettings) (network : σ)
    (i : SessionId) : (start profile settings network).owes i = [] :=
  owes_of_none (by simp [session?, start])

lemma ringing_of_owes (h : t ∈ g.owes i) :
    ∃ s, g.session? i = some s ∧ s.state = .incomingCall ∧ g.stateOf i = .incomingCall := by
  unfold owes at h
  split at h
  · next s hs =>
    have hringing := (Session.ringing_of_owed h).1
    exact ⟨s, hs, hringing, (stateOf_of_session? hs).trans hringing⟩
  · cases h

/-- Idle sessions owe nothing, so new ones do not matter. -/
lemma Keeps.owes (h : Keeps g g') (i : SessionId) : g'.owes i = g.owes i := by
  cases hs : g.session? i with
  | some s => rw [owes_of_session? hs, owes_of_session? (h.sessions i s hs)]
  | none =>
    rw [owes_of_none hs]
    cases hs' : g'.session? i with
    | none => exact owes_of_none hs'
    | some s' =>
      rw [owes_of_session? hs']
      rcases h.created i s' hs' with hs'' | ⟨role, rfl⟩
      · rw [hs] at hs''
        cases hs''
      · rfl

end

/-! ### Turns -/

variable {σ : Type} {g g₁ g' : Group (Journal σ)} {id i j : SessionId} {s : Session}
  {e : SessionEvent} {t : ServerTransaction} {calls : List Call} {times : Nat}

/-- What an event that is fed to a session does to the debts of a group, and which requests are
answered then. -/
inductive Turn (g : Group (Journal σ)) (id : SessionId) (e : SessionEvent)
    (g' : Group (Journal σ)) : List ServerTransaction → Prop where
  | keeps (howes : ∀ j, g'.owes j = g.owes j) : Turn g id e g' e.demands
  | pays (hpaid : g'.owes id = []) (hothers : ∀ j, j ≠ id → g'.owes j = g.owes j) :
      Turn g id e g' (e.demands ++ g.owes id)
  | drops (he : e.drops) (hready : g'.stateOf id = .ready) (hdropped : g'.owes id = [])
      (hothers : ∀ j, j ≠ id → g'.owes j = g.owes j) : Turn g id e g' e.demands
  /-- A new session takes an invitation in. -/
  | takes (r : Request) (i : SessionId) (taken : Session) (he : e = .request r)
      (hm : r.method = .invite) (hnew : g.session? i = none) (htaken : g'.session? i = some taken)
      (hringing : taken.state = .incomingCall) (hinvite : taken.invite = some r)
      (hothers : ∀ j, j ≠ i → g'.owes j = g.owes j) : Turn g id e g' []

/-! ### One invitation -/

/-- The requests other than invitations among some. -/
def plain (ts : List ServerTransaction) : List ServerTransaction :=
  ts.filter (·.method ≠ .invite)

@[simp] lemma plain_nil : plain [] = [] := rfl

@[simp] lemma plain_append (first later : List ServerTransaction) :
    plain (first ++ later) = plain first ++ plain later :=
  List.filter_append _ _

lemma plain_eq_nil {ts : List ServerTransaction} (h : ∀ t ∈ ts, t.method = .invite) :
    plain ts = [] :=
  List.filter_eq_nil_iff.mpr fun t ht => by simp [h t ht]

/-- Nothing but invitations is owed. -/
def OwesInvites (g : Group (Journal σ)) : Prop :=
  ∀ i t, t ∈ g.owes i → t.method = .invite

/-- A request is nobody's debt, and has been answered so many times. -/
structure Settled (g : Group (Journal σ)) (t : ServerTransaction) (times : Nat) : Prop where
  answers : (answered g.network.calls).count t = times
  unowed : ∀ i, t ∉ g.owes i

/-- A request is the debt of one session, and has not been answered. -/
structure Pending (g : Group (Journal σ)) (t : ServerTransaction) (i : SessionId) : Prop where
  unanswered : (answered g.network.calls).count t = 0
  owed : ∀ j, t ∈ g.owes j ↔ j = i

lemma owes_eq_singleton (h : t ∈ g.owes i) : g.owes i = [t] := by
  unfold owes at h ⊢
  split at h
  · next s hs =>
    obtain ⟨hstate, r, hr, rfl⟩ := Session.ringing_of_owed h
    exact Session.owed_of_ringing hstate hr
  · cases h

/-- What a step that brings some requests does to debts and answers: requests other than invitations
are answered at once and not otherwise, what is settled stays so, and what is owed stays owed, is
answered once, or is lost. -/
structure Advances (demands : List ServerTransaction) (loses : Prop) (g g' : Group (Journal σ)) :
    Prop where
  calls : ∃ calls, g'.network.calls = g.network.calls ++ calls ∧
    plain (answered calls) = plain demands ∧ ∀ call ∈ calls, call.command.declines
  invites : OwesInvites g → OwesInvites g'
  settled : ∀ {t times}, t ∉ demands → Settled g t times → Settled g' t times
  pending : ∀ {t i}, t ∉ demands → Pending g t i →
    Pending g' t i ∨ Settled g' t 1 ∨ loses ∧ Settled g' t 0 ∧ g'.stateOf i = .ready

lemma count_answered (h : g'.network.calls = g.network.calls ++ calls) (t : ServerTransaction) :
    (answered g'.network.calls).count t =
      (answered g.network.calls).count t + (answered calls).count t := by
  rw [h, answered_append, List.count_append]

lemma Settled.goesOn (h : Settled g t times) (hcalls : g'.network.calls = g.network.calls ++ calls)
    (hnot : t ∉ answered calls) (howes : ∀ j, t ∈ g'.owes j → t ∈ g.owes j) :
    Settled g' t times where
  answers := by
    rw [count_answered hcalls, h.answers, List.count_eq_zero.mpr hnot, Nat.add_zero]
  unowed j hj := h.unowed j (howes j hj)

lemma Pending.goesOn (h : Pending g t i) (hcalls : g'.network.calls = g.network.calls ++ calls)
    (hnot : t ∉ answered calls) (howes : ∀ j, t ∈ g'.owes j ↔ t ∈ g.owes j) :
    Pending g' t i where
  unanswered := by
    rw [count_answered hcalls, h.unanswered, List.count_eq_zero.mpr hnot]
  owed j := (howes j).trans (h.owed j)

/-- Who still owes a request after one session has got rid of its debt. -/
lemma mem_owes_iff (hrid : g'.owes id = []) (hothers : ∀ j, j ≠ id → g'.owes j = g.owes j) :
    t ∈ g'.owes j ↔ j ≠ id ∧ t ∈ g.owes j := by
  by_cases hj : j = id
  · simp [hj, hrid]
  · simp [hj, hothers j hj]

/-- The debt of a session is settled when the session has got rid of it. -/
lemma Pending.settled (h : Pending g t id) (hcalls : g'.network.calls = g.network.calls ++ calls)
    (hrid : g'.owes id = []) (hothers : ∀ j, j ≠ id → g'.owes j = g.owes j) :
    Settled g' t ((answered calls).count t) where
  answers := by rw [count_answered hcalls, h.unanswered, Nat.zero_add]
  unowed j hj := by
    obtain ⟨hne, hj⟩ := (mem_owes_iff hrid hothers).mp hj
    exact hne ((h.owed j).mp hj)

/-- The debt of one session is nothing to another one. -/
lemma Pending.not_owed (h : Pending g t i) (hi : i ≠ id) : t ∉ g.owes id :=
  fun hid => hi ((h.owed id).mp hid).symm

namespace Advances

variable {d d' : List ServerTransaction} {loses loses' : Prop}

/-- Where debts stay the same and nothing is answered, nothing is brought, and nothing lost. -/
lemma of_same (hcalls : g'.network.calls = g.network.calls ++ calls) (hnothing : answered calls = [])
    (hdeclines : ∀ call ∈ calls, call.command.declines) (howes : ∀ j, g'.owes j = g.owes j) :
    Advances [] False g g' where
  calls := ⟨calls, hcalls, by rw [hnothing], hdeclines⟩
  invites h i t ht := h i t (howes i ▸ ht)
  settled _ h := h.goesOn hcalls (by simp [hnothing]) fun j => by rw [howes]; exact id
  pending _ h := .inl (h.goesOn hcalls (by simp [hnothing]) fun j => by rw [howes])

lemma rests (h : Rests g g') : Advances [] False g g' :=
  .of_same (by rw [h.network, List.append_nil]) rfl (by simp) h.owes

lemma mono (h : Advances d loses g g') (hloses : loses → loses') : Advances d loses' g g' where
  calls := h.calls
  invites := h.invites
  settled := h.settled
  pending ht hp := (h.pending ht hp).imp_right fun hp => hp.imp_right fun hp => hp.imp_left hloses

/-- Two steps in a row, if the second one leaves alone who has just lost a debt. -/
lemma trans (h : Advances d loses g g₁) (h' : Advances d' loses' g₁ g')
    (hready : loses → ∀ i, g₁.stateOf i = .ready → g'.stateOf i = .ready) :
    Advances (d ++ d') (loses ∨ loses') g g' where
  calls := by
    obtain ⟨calls, hcalls, hplain, hdeclines⟩ := h.calls
    obtain ⟨calls', hcalls', hplain', hdeclines'⟩ := h'.calls
    refine ⟨calls ++ calls', by rw [hcalls', hcalls, List.append_assoc], ?_, fun call hcall => ?_⟩
    · rw [answered_append, plain_append, plain_append, hplain, hplain']
    · exact (List.mem_append.mp hcall).elim (hdeclines call) (hdeclines' call)
  invites hg := h'.invites (h.invites hg)
  settled ht hs := by
    rw [List.mem_append, not_or] at ht
    exact h'.settled ht.2 (h.settled ht.1 hs)
  pending ht hp := by
    rw [List.mem_append, not_or] at ht
    rcases h.pending ht.1 hp with hp | hs | ⟨hloses, hs, hi⟩
    · exact (h'.pending ht.2 hp).imp_right fun hp => hp.imp_right fun hp => hp.imp_left .inr
    · exact .inr (.inl (h'.settled ht.2 hs))
    · exact .inr (.inr ⟨.inl hloses, h'.settled ht.2 hs, hready hloses _ hi⟩)

lemma before (h : Advances d loses g₁ g') (hrests : Rests g g₁) : Advances d loses g g' :=
  ((rests hrests).trans h False.elim).mono (Or.resolve_left · id)

lemma after (h : Advances d loses g g₁) (hrests : Rests g₁ g') : Advances d loses g g' := by
  have hready : ∀ i, g₁.stateOf i = .ready → g'.stateOf i = .ready := fun i hi =>
    (hrests.toKeeps.stateOf i).trans hi
  have hboth := (h.trans (rests hrests) fun _ => hready).mono (Or.resolve_right · id)
  rwa [List.append_nil] at hboth

end Advances

/-- An event advances all but the request that it brings. -/
lemma Turn.advances (h : Turn g id e g' (answered calls))
    (hcalls : g'.network.calls = g.network.calls ++ calls)
    (hdeclines : ∀ call ∈ calls, call.command.declines) (hinvites : OwesInvites g) :
    Advances e.demands e.drops g g' := by
  generalize hdone : answered calls = done at h
  cases h with
  | keeps howes =>
    have hsame : ∀ {t : ServerTransaction} j, t ∈ g'.owes j ↔ t ∈ g.owes j := by simp [howes]
    refine ⟨⟨calls, hcalls, by rw [hdone], hdeclines⟩, fun _ i t ht => hinvites i t ((hsame i).mp ht),
      fun ht h => ?_, fun ht h => .inl ?_⟩
    · exact h.goesOn hcalls (hdone ▸ ht) fun j => (hsame j).mp
    · exact h.goesOn hcalls (hdone ▸ ht) hsame
  | pays hpaid hothers =>
    have hrid : ∀ {t : ServerTransaction} j, t ∈ g'.owes j ↔ j ≠ id ∧ t ∈ g.owes j :=
      fun j => mem_owes_iff hpaid hothers
    refine ⟨⟨calls, hcalls, ?_, hdeclines⟩, fun _ i t ht => hinvites i t ((hrid i).mp ht).2,
      fun {t _} ht h => ?_, fun {t i} ht h => ?_⟩
    · rw [hdone, plain_append, plain_eq_nil (hinvites id), List.append_nil]
    · have hnot : t ∉ answered calls := by simp [hdone, ht, h.unowed id]
      exact h.goesOn hcalls hnot fun j hj => ((hrid j).mp hj).2
    · by_cases hi : i = id
      · subst hi
        have hsettled := h.settled hcalls hpaid hothers
        rw [hdone, List.count_append, List.count_eq_zero.mpr ht,
          owes_eq_singleton ((h.owed i).mpr rfl), List.count_singleton_self] at hsettled
        exact .inr (.inl hsettled)
      · have hnot : t ∉ answered calls := by simp [hdone, ht, h.not_owed hi]
        refine .inl (h.goesOn hcalls hnot fun j => (hrid j).trans (and_iff_right_of_imp ?_))
        rintro hj rfl
        exact h.not_owed hi hj
  | drops he hready hdropped hothers =>
    have hrid : ∀ {t : ServerTransaction} j, t ∈ g'.owes j ↔ j ≠ id ∧ t ∈ g.owes j :=
      fun j => mem_owes_iff hdropped hothers
    refine ⟨⟨calls, hcalls, by rw [hdone], hdeclines⟩, fun _ i t ht => hinvites i t ((hrid i).mp ht).2,
      fun ht h => h.goesOn hcalls (hdone ▸ ht) fun j hj => ((hrid j).mp hj).2, fun {t i} ht h => ?_⟩
    by_cases hi : i = id
    · subst hi
      have hsettled := h.settled hcalls hdropped hothers
      rw [hdone, List.count_eq_zero.mpr ht] at hsettled
      exact .inr (.inr ⟨he, hsettled, hready⟩)
    · refine .inl (h.goesOn hcalls (hdone ▸ ht) fun j => (hrid j).trans (and_iff_right_of_imp ?_))
      rintro hj rfl
      exact h.not_owed hi hj
  | takes r i taken he hm hnew htaken hringing hinvite hothers =>
    have hdemands : e.demands = [r.serverTransaction] := by
      rw [he]
      exact if_pos (by rw [hm]; rfl)
    have howes : g'.owes i = [r.serverTransaction] :=
      (owes_of_session? htaken).trans (Session.owed_of_ringing hringing hinvite)
    have hsame : ∀ {t : ServerTransaction} j, t ∉ e.demands → (t ∈ g'.owes j ↔ t ∈ g.owes j) := by
      intro t j ht
      by_cases hj : j = i
      · rw [hdemands] at ht
        rw [hj, howes, owes_of_none hnew]
        exact iff_of_false ht List.not_mem_nil
      · rw [hothers j hj]
    refine ⟨⟨calls, hcalls, ?_, hdeclines⟩, fun _ j t ht => ?_, fun {t _} ht h => ?_, fun {t _} ht h => .inl ?_⟩
    · rw [hdone, hdemands]
      refine (plain_eq_nil fun t ht => ?_).symm
      rw [List.mem_singleton.mp ht]
      exact hm
    · by_cases hj : j = i
      · rw [hj, howes, List.mem_singleton] at ht
        rw [ht]
        exact hm
      · exact hinvites j t (hothers j hj ▸ ht)
    · have hnot : t ∉ answered calls := by simp [hdone]
      exact h.goesOn hcalls hnot fun j => (hsame j ht).mp
    · have hnot : t ∉ answered calls := by simp [hdone]
      exact h.goesOn hcalls hnot fun j => hsame j ht

/-- An invitation that is fed for the first time is answered at once, or a new session owes the
response. -/
lemma Turn.arrives {r : Request} (h : Turn g id (.request r) g' (answered calls))
    (hcalls : g'.network.calls = g.network.calls ++ calls) (hm : r.method = .invite)
    (hfresh : Settled g r.serverTransaction 0) :
    Settled g' r.serverTransaction 1 ∨
      ∃ i s, g.session? i = none ∧ g'.session? i = some s ∧ s.state = .incomingCall ∧
        s.invite = some r ∧ Pending g' r.serverTransaction i := by
  have hdemands : (SessionEvent.request r).demands = [r.serverTransaction] :=
    if_pos (by rw [hm]; rfl)
  have hcount := count_answered hcalls r.serverTransaction
  rw [hfresh.answers] at hcount
  generalize hdone : answered calls = done at h
  rw [hdone] at hcount
  cases h with
  | keeps howes =>
    refine .inl ⟨?_, fun j => howes j ▸ hfresh.unowed j⟩
    rw [hcount, hdemands, List.count_singleton_self]
  | pays hpaid hothers =>
    refine .inl ⟨?_, fun j hj => hfresh.unowed j ((mem_owes_iff hpaid hothers).mp hj).2⟩
    rw [hcount, hdemands, List.count_append, List.count_singleton_self,
      List.count_eq_zero.mpr (hfresh.unowed id)]
  | drops he hready hdropped hothers =>
    refine .inl ⟨?_, fun j hj => hfresh.unowed j ((mem_owes_iff hdropped hothers).mp hj).2⟩
    rw [hcount, hdemands, List.count_singleton_self]
  | takes r' i taken he _ hnew htaken hringing hinvite hothers =>
    cases he
    have howes : g'.owes i = [r.serverTransaction] :=
      (owes_of_session? htaken).trans (Session.owed_of_ringing hringing hinvite)
    refine .inr ⟨i, taken, hnew, htaken, hringing, hinvite, hcount, fun j => ?_⟩
    by_cases hj : j = i
    · simp [hj, howes]
    · rw [hothers j hj]
      exact iff_of_false (hfresh.unowed j) hj

/-! ### Feeding one event -/

variable [Transport σ]

lemma calls_dispatch (h : g.session? id = some s) (e : SessionEvent) :
    (g.dispatch id e).group.network.calls = g.network.calls ++
      (s.script g.profile g.cells.length e).calls g.network.network := by
  obtain ⟨addressee, hcell⟩ := session?_eq_some.mp h
  rw [dispatch_eq hcell]
  exact congrArg (·.2.calls) (Session.process_journal g.profile g.cells.length s e g.network.network
    g.network.calls)

lemma outcomeOf_journal (g : Group (Journal σ)) (s : Session) (e : SessionEvent) :
    g.outcomeOf s e = (s.process g.profile g.cells.length e g.network.network).1 :=
  congrArg (·.1) (Session.process_journal g.profile g.cells.length s e g.network.network
    g.network.calls)

/-- If the network refuses nothing, an event does what the list says. No invitation is fed to an idle
session that owns a dialog. -/
theorem turn_dispatch (hs : g.session? id = some s)
    (hbusy : s.role = .dialog → ∀ r, e = .request r → r.method = .invite → s.state ≠ .ready)
    (hcalls : ∀ call ∈ (g.dispatch id e).group.network.calls, call.refused = none) :
    ∃ calls, (g.dispatch id e).group.network.calls = g.network.calls ++ calls ∧
      (∀ call ∈ calls, call.command.declines) ∧
      Turn g id e (g.dispatch id e).group (answered calls) := by
  have hdeclines := Session.declines_script g.profile g.cells.length s e
  refine ⟨_, calls_dispatch hs e, hdeclines.calls (Promise.nothing_keptBy σ) _, ?_⟩
  have hunrefused : Session.Unrefused (s.script g.profile g.cells.length e) g.network.network := by
    intro call hcall
    refine hcalls call ?_
    rw [calls_dispatch hs e]
    exact List.mem_append_right _ hcall
  have hdealing := Session.dealing_process g.profile g.cells.length s e hunrefused hbusy
  rw [← outcomeOf_journal] at hdealing
  have hself := dispatch_session?_self hs e
  have hid : id ≠ g.cells.length := by
    rintro rfl
    rw [session?_length] at hs
    cases hs
  have hothers : (g.outcomeOf s e).spawned = none → ∀ j, j ≠ id →
      (g.dispatch id e).group.owes j = g.owes j := by
    intro hspawned j hj
    refine owes_congr ?_
    rw [dispatch_session? hs, if_neg hj, hspawned]
    split
    · next hlength => rw [hlength, session?_length]
    · rfl
  generalize answered _ = done at hdealing ⊢
  cases hdealing with
  | keeps howed hspawned =>
    refine .keeps fun j => ?_
    by_cases hj : j = id
    · rw [hj, owes_of_session? hself, owes_of_session? hs, howed]
    · exact hothers hspawned j hj
  | pays howed hspawned =>
    rw [← owes_of_session? hs]
    exact .pays ((owes_of_session? hself).trans howed) (hothers hspawned)
  | drops he ho hspawned =>
    rw [ho] at hself
    refine .drops he ?_ (owes_of_session? hself) (hothers hspawned)
    simp only [stateOf, hself]
    rfl
  | takes r he hm howed hspawned ht hinvite =>
    refine .takes r _ _ he hm (session?_length g) ?_ ht hinvite fun j hj => ?_
    · rw [dispatch_session? hs, if_neg hid.symm, if_pos rfl, hspawned]
    · by_cases hj' : j = id
      · rw [hj', owes_of_session? hself, owes_of_session? hs, howed]
      · refine owes_congr ?_
        rw [dispatch_session? hs, if_neg hj', if_neg hj]

/-! ### Whole steps -/

lemma prefix_dispatch (g : Group (Journal σ)) (id : SessionId) (e : SessionEvent) :
    g.network.calls <+: (g.dispatch id e).group.network.calls := by
  cases hs : g.session? id with
  | none => simp [dispatch_of_none hs]
  | some s => exact ⟨_, (calls_dispatch hs e).symm⟩

lemma prefix_disconnect (g : Group (Journal σ)) (ids : List SessionId) :
    g.network.calls <+: (g.disconnect ids).group.network.calls := by
  induction ids generalizing g with
  | nil => exact List.prefix_refl _
  | cons id more ih => exact (prefix_dispatch g id .connectionLost).trans (ih _)

/-- An event that demands no response. -/
lemma advances_dispatch (he : e.demands = []) (hinvites : OwesInvites g)
    (hcalls : ∀ call ∈ (g.dispatch id e).group.network.calls, call.refused = none) :
    Advances [] e.drops g (g.dispatch id e).group := by
  cases hs : g.session? id with
  | none =>
    rw [dispatch_of_none hs]
    exact (Advances.rests (.refl g)).mono False.elim
  | some s =>
    have hnot : ∀ r, e = .request r → r.method ≠ .invite := by
      rintro r rfl hm
      rw [SessionEvent.demands, if_pos (by rw [hm]; rfl)] at he
      cases he
    obtain ⟨calls, hnew, hdeclines, hturn⟩ :=
      turn_dispatch hs (fun _ r hr hm => absurd hm (hnot r hr)) hcalls
    exact he ▸ hturn.advances hnew hdeclines hinvites

lemma advances_disconnect (hg : Sound g) (hinvites : OwesInvites g) (ids : List SessionId)
    (hcalls : ∀ call ∈ (g.disconnect ids).group.network.calls, call.refused = none) :
    Advances [] True g (g.disconnect ids).group := by
  induction ids generalizing g with
  | nil => exact (Advances.rests (.refl g)).mono False.elim
  | cons id more ih =>
    have hgrows := prefix_disconnect (g.dispatch id .connectionLost).group more
    have hfirst : Advances [] True g (g.dispatch id .connectionLost).group :=
      (advances_dispatch rfl hinvites fun call hcall =>
        hcalls call (hgrows.subset hcall)).mono fun _ => trivial
    have hsound := hg.dispatch id .connectionLost
    have hmore := ih hsound (hfirst.invites hinvites) hcalls
    refine (hfirst.trans hmore fun _ i hi => ?_).mono fun _ => trivial
    -- Nobody becomes busy when the connection is lost.
    by_contra hbusy
    exact ((hsound.disconnect more).2 i hbusy).1 hi

/-- Whatever a step does that brings no request that demands a response. -/
theorem Course.advances {permits : Signal → Prop} {cuts : Prop} (h : Course permits cuts g g')
    (hpermits : ∀ m, permits m → (SessionEvent.ofSignal m).demands = []) (hg : Sound g)
    (hinvites : OwesInvites g) (hcalls : ∀ call ∈ g'.network.calls, call.refused = none) :
    Advances [] (cuts ∨ ∃ m, permits m ∧ (SessionEvent.ofSignal m).drops) g g' := by
  induction h with
  | rests h => exact (Advances.rests h).mono False.elim
  | pings after =>
    have hpinged : Advances [] False g
        { g with network := (Transport.perform (.keepalive g.profile) g.network).2 } :=
      @Advances.of_same _ _ _ [⟨.keepalive g.profile, _⟩] rfl rfl
        (List.forall_mem_singleton.mpr trivial) fun _ => rfl
    exact (hpinged.after after).mono False.elim
  | @feeds g₁ g' id e before hfeeds after =>
    rw [after.network] at hcalls
    have hinvites₁ := (Advances.rests before).invites hinvites
    have hfed : e.demands = [] ∧ (e.drops → ∃ m, permits m ∧ (SessionEvent.ofSignal m).drops) := by
      cases hfeeds with
      | command he => exact (SessionEvent.quiet_of_isCommand he).imp_right fun hnot hdrops => absurd hdrops hnot
      | signal hm => exact ⟨hpermits _ hm, fun hdrops => ⟨_, hm, hdrops⟩⟩
    have hdispatch := advances_dispatch hfed.1 hinvites₁ hcalls
    exact ((hdispatch.mono fun hdrops => .inr (hfed.2 hdrops)).before before).after after
  | disconnects hcuts before ids after =>
    rw [after.network] at hcalls
    have hinvites₁ := (Advances.rests before).invites hinvites
    have hlost := advances_disconnect (hg.keeps before.toKeeps) hinvites₁ ids hcalls
    exact ((hlost.mono fun _ => .inl hcuts).before before).after after
  | @closes g₁ _ ih =>
    have hclosed : Advances [] False g₁ { g₁ with closed := true, registry := .empty } :=
      .of_same (List.append_nil _).symm rfl (by simp) fun _ => rfl
    exact ((ih hcalls).trans hclosed fun _ i hi => hi).mono (Or.resolve_right · id)

end Group

end SipAgent
