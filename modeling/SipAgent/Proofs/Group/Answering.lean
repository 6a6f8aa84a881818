import SipAgent.Proofs.Group.Debts
import SipAgent.Proofs.Group.Scene

/-!
# Every request is answered exactly once

In a run of a group that has a receiver, over a network that refuses nothing, every request other
than an invitation is answered in the step that brings it, or never. An invitation is answered at
most once, and once the session that took it has left the state in which it rings, it has been
answered, unless the session was interrupted (`requests_answered`). Hanging up is not among the
reasons for which a response may be missing, but the machine lets a peer that hangs up before its
invitation was answered wait for ever (`ringing_bye_leaves_invitation`).
-/

namespace SipAgent

namespace Occurrence

variable {σ : Type}

/-- The request that the network delivers. -/
def request? : Occurrence σ → Option Request
  | .act (.signal (.request r)) => some r
  | _ => none

/-- The invitation that the network delivers. -/
def invitation? (o : Occurrence σ) : Option ServerTransaction :=
  o.request?.bind fun r => if r.method = .invite then some r.serverTransaction else none

/-- The request that has to be answered at once. -/
def urgent (o : Occurrence σ) : List ServerTransaction :=
  match o.request? with
  | some r =>
    if r.method = .bye ∨ r.method = .cancel ∨ r.method = .options then [r.serverTransaction] else []
  | none => []

/-- The connection is lost, a transaction times out, or a dialog is terminated. -/
def Interrupts : Occurrence σ → Prop
  | .act (.setConnected false) => True
  | .act (.signal (.timeout _)) => True
  | .act (.signal (.dialogTerminated _)) => True
  | _ => False

/-- A peer hangs up. -/
def HangsUp (o : Occurrence σ) : Prop :=
  ∃ r, o.request? = some r ∧ r.method = .bye

/-- The request that an occurrence brings, if it demands a response. -/
def demands (o : Occurrence σ) : List ServerTransaction :=
  match o.request? with
  | some r => (SessionEvent.request r).demands
  | none => []

lemma plain_demands (o : Occurrence σ) : Group.plain o.demands = o.urgent := by
  unfold demands urgent
  cases o.request? with
  | none => rfl
  | some r =>
    cases hm : r.method <;>
      simp [SessionEvent.demands, Method.answered, Group.plain, Request.serverTransaction, hm]

lemma invitation?_eq_some_iff {o : Occurrence σ} {t : ServerTransaction} :
    o.invitation? = some t ↔
      ∃ r, o.request? = some r ∧ r.method = .invite ∧ r.serverTransaction = t := by
  simp only [invitation?, Option.bind_eq_some_iff, Option.ite_none_right_eq_some, Option.some.injEq]

lemma mem_demands {o : Occurrence σ} {t : ServerTransaction} (h : t ∈ o.demands)
    (ht : t.method = .invite) : o.invitation? = some t := by
  unfold demands at h
  split at h
  · next r hr =>
    simp only [SessionEvent.demands, List.mem_ite_nil_right, List.mem_singleton] at h
    obtain ⟨-, rfl⟩ := h
    exact invitation?_eq_some_iff.mpr ⟨r, hr, ht, rfl⟩
  · cases h

end Occurrence

namespace Group

variable {σ : Type} [Transport σ]

/-- A group after one occurrence. A change of the network does not touch the journal. -/
def undergo (g : Group (Journal σ)) : Occurrence σ → Group (Journal σ)
  | .act a => (g.act a).group
  | .handOver d => (g.handOver d).group
  | .ring => g.ringAlarm.2
  | .wake call => (g.wake call).group
  | .drift network => { g with network := ⟨network, g.network.calls⟩ }

/-- A group after a run. -/
def after (g : Group (Journal σ)) (run : List (Occurrence σ)) : Group (Journal σ) :=
  run.foldl undergo g

/-- Something happens that can happen; a request is delivered only to an open group with a receiver;
and the network has refused nothing so far. -/
structure Serves (g : Group (Journal σ)) (o : Occurrence σ) : Prop where
  possible : o.Possible
  attended : o.request? ≠ none → g.closed = false ∧ g.registry.receiver ≠ none
  unrefused : ∀ call ∈ (g.undergo o).network.calls, call.refused = none

/-- All that happens in a run is served. -/
def Served (g : Group (Journal σ)) : List (Occurrence σ) → Prop
  | [] => True
  | o :: later => g.Serves o ∧ (g.undergo o).Served later

variable {g g' : Group (Journal σ)} {o : Occurrence σ} {run earlier later : List (Occurrence σ)}
  {t : ServerTransaction} {i : SessionId} {r : Request}

@[simp] lemma after_nil (g : Group (Journal σ)) : g.after [] = g := rfl

@[simp] lemma after_cons (g : Group (Journal σ)) (o : Occurrence σ) (later : List (Occurrence σ)) :
    g.after (o :: later) = (g.undergo o).after later := rfl

lemma after_append (g : Group (Journal σ)) (earlier later : List (Occurrence σ)) :
    g.after (earlier ++ later) = (g.after earlier).after later :=
  List.foldl_append

lemma served_append :
    g.Served (earlier ++ later) ↔ g.Served earlier ∧ (g.after earlier).Served later := by
  induction earlier generalizing g with
  | nil => simp [Served]
  | cons o earlier ih => simp [Served, ih, and_assoc]

/-! ### One step -/

lemma Sound.undergo (hg : Sound g) (ho : o.Possible) : Sound (g.undergo o) := by
  cases o with
  | act a => exact hg.effect (effect_act g ho.2)
  | handOver d => exact hg.effect (effect_handOver (fun _ => True) g d)
  | ring => exact hg.keeps (.of_eq rfl rfl rfl rfl)
  | wake call => exact hg.effect (effect_wake (fun _ => True) g call)
  | drift network => exact hg.keeps (.of_eq rfl rfl rfl rfl)

/-- A request that is delivered to a group with a receiver is fed to somebody. -/
lemma turn_undergo (hg : Sound g) (h : g.Serves o) (hr : o.request? = some r) :
    ∃ id calls, (g.undergo o).network.calls = g.network.calls ++ calls ∧
      (∀ call ∈ calls, call.command.declines) ∧
      Turn g id (.request r) (g.undergo o) (answered calls) := by
  obtain ⟨hopen, hreceiver⟩ := h.attended (by rw [hr]; nofun)
  obtain rfl : o = .act (.signal (.request r)) := by
    unfold Occurrence.request? at hr
    split at hr
    · cases hr
      rfl
    · cases hr
  obtain ⟨id, hid⟩ : ∃ id, g.registry.resolve r.callId = some id := by
    unfold Registry.resolve
    split
    · exact ⟨_, rfl⟩
    · exact Option.ne_none_iff_exists'.mp hreceiver
  have hundergo : g.undergo (.act (.signal (.request r))) = (g.dispatch id (.request r)).group := by
    simp only [undergo, act, answering, processSignal, hopen, Signal.key, hid]
    rfl
  obtain ⟨s, hs⟩ : ∃ s, g.session? id = some s := by
    unfold Registry.resolve at hid
    split at hid
    · next owner howner =>
      cases hid
      obtain ⟨s, hs, -⟩ := hg.owners _ _ howner
      exact ⟨s, hs⟩
    · exact ⟨_, hg.receiver id hid⟩
  have hbusy : s.role = .dialog → ∀ r', SessionEvent.request r = .request r' →
      r'.method = .invite → s.state ≠ .ready := fun hrole _ _ _ hready =>
    hg.not_owner_of_ready hs hready _ (hg.owner_of_resolve hs hrole hid)
  have hcalls := h.unrefused
  rw [hundergo] at hcalls ⊢
  exact ⟨id, turn_dispatch hs hbusy hcalls⟩

/-- What a step does that brings no request. -/
lemma advances_of_no_request (hg : Sound g) (hinvites : OwesInvites g) (h : g.Serves o)
    (hr : o.request? = none) : Advances [] o.Interrupts g (g.undergo o) := by
  have hnone : ∀ m : Signal, False → (SessionEvent.ofSignal m).demands = [] := fun _ => False.elim
  cases o with
  | act a =>
    refine ((course_act g h.possible.2).advances ?_ hg hinvites h.unrefused).mono ?_
    · rintro m rfl
      cases m with
      | request r => cases hr
      | _ => rfl
    · rintro (rfl | ⟨m, rfl, hdrops⟩)
      · trivial
      · cases m with
        | request r => cases hr
        | timeout | dialogTerminated => trivial
        | response | transactionTerminated => exact hdrops.elim
  | handOver d =>
    refine ((course_handOver _ False g d).advances hnone hg hinvites h.unrefused).mono ?_
    rintro (h | ⟨_, h, -⟩) <;> exact h.elim
  | ring =>
    have hrests : Rests g (g.undergo .ring) := .of_eq rfl rfl rfl rfl rfl
    exact (Advances.rests hrests).mono False.elim
  | wake call =>
    refine ((course_wake _ False g call).advances hnone hg hinvites h.unrefused).mono ?_
    rintro (h | ⟨_, h, -⟩) <;> exact h.elim
  | drift network =>
    have hdrifts : Advances [] False g (g.undergo (.drift network)) :=
      .of_same (List.append_nil _).symm rfl (by simp) fun _ => rfl
    exact hdrifts.mono False.elim

/-- What any step does that is served. -/
lemma advances_undergo (hg : Sound g) (hinvites : OwesInvites g) (h : g.Serves o) :
    Advances o.demands (o.Interrupts ∨ o.HangsUp) g (g.undergo o) := by
  cases hr : o.request? with
  | none =>
    have hdemands : o.demands = [] := by simp only [Occurrence.demands, hr]
    rw [hdemands]
    exact (advances_of_no_request hg hinvites h hr).mono .inl
  | some r =>
    have hdemands : o.demands = (SessionEvent.request r).demands := by
      simp only [Occurrence.demands, hr]
    obtain ⟨id, calls, hcalls, hdeclines, hturn⟩ := turn_undergo hg h hr
    rw [hdemands]
    exact (hturn.advances hcalls hdeclines hinvites).mono fun hbye => .inr ⟨r, hr, hbye⟩

/-! ### Whole runs -/

/-- What holds of sessions and debts throughout a run. -/
lemma sound_after (hg : Sound g) (hinvites : OwesInvites g) (h : g.Served run) :
    Sound (g.after run) ∧ OwesInvites (g.after run) := by
  induction run generalizing g with
  | nil => exact ⟨hg, hinvites⟩
  | cons o later ih =>
    obtain ⟨hserves, hlater⟩ := h
    have hadvances := advances_undergo hg hinvites hserves
    exact ih (hg.undergo hserves.possible) (hadvances.invites hinvites) hlater

/-- The invitations that a run delivers. -/
def invitations (run : List (Occurrence σ)) : List ServerTransaction :=
  run.filterMap Occurrence.invitation?

omit [Transport σ] in
lemma mem_invitations : t ∈ invitations run ↔ ∃ o ∈ run, o.invitation? = some t :=
  List.mem_filterMap

omit [Transport σ] in
/-- An invitation that a run does not deliver is neither delivered first nor later. -/
lemma not_mem_invitations_cons (hnot : t ∉ invitations (o :: later)) :
    o.invitation? ≠ some t ∧ t ∉ invitations later := by
  refine ⟨fun ho => hnot (mem_invitations.mpr ⟨o, List.mem_cons_self, ho⟩), fun hmem => ?_⟩
  obtain ⟨o', ho', hdelivers⟩ := mem_invitations.mp hmem
  exact hnot (mem_invitations.mpr ⟨o', List.mem_cons_of_mem _ ho', hdelivers⟩)

/-- What is settled stays settled as long as the invitation is not delivered again. -/
lemma settled_after (hg : Sound g) (hinvites : OwesInvites g) (h : g.Served run) {times : Nat}
    (ht : t.method = .invite) (hnot : t ∉ invitations run) (hsettled : Settled g t times) :
    Settled (g.after run) t times := by
  induction run generalizing g with
  | nil => exact hsettled
  | cons o later ih =>
    obtain ⟨hserves, hlater⟩ := h
    obtain ⟨ho, hmore⟩ := not_mem_invitations_cons hnot
    have hadvances := advances_undergo hg hinvites hserves
    have hdemands : t ∉ o.demands := fun hmem => ho (o.mem_demands hmem ht)
    exact ih (hg.undergo hserves.possible) (hadvances.invites hinvites) hlater hmore
      (hadvances.settled hdemands hsettled)

/-- A session that rings is back in its idle state after an occurrence of some kind. -/
def Loses (g : Group (Journal σ)) (kind : Occurrence σ → Prop) (i : SessionId)
    (run : List (Occurrence σ)) : Prop :=
  ∃ earlier o later, run = earlier ++ o :: later ∧ kind o ∧
    (g.after earlier).stateOf i = .incomingCall ∧ (g.after (earlier ++ [o])).stateOf i = .ready

lemma Loses.cons {kind : Occurrence σ → Prop} (h : (g.undergo o).Loses kind i later) :
    g.Loses kind i (o :: later) := by
  obtain ⟨earlier, o', later', rfl, hkind, hringing, hready⟩ := h
  exact ⟨o :: earlier, o', later', rfl, hkind, hringing, hready⟩

/-- What is owed stays owed, is answered once, or is lost when the session is interrupted or the peer
hangs up. -/
lemma pending_after (hg : Sound g) (hinvites : OwesInvites g) (h : g.Served run)
    (ht : t.method = .invite) (hnot : t ∉ invitations run) (hpending : Pending g t i) :
    Pending (g.after run) t i ∨ Settled (g.after run) t 1 ∨
      Settled (g.after run) t 0 ∧ (g.Loses Occurrence.Interrupts i run ∨ g.Loses Occurrence.HangsUp i run) := by
  induction run generalizing g with
  | nil => exact .inl hpending
  | cons o later ih =>
    obtain ⟨hserves, hlater⟩ := h
    obtain ⟨ho, hmore⟩ := not_mem_invitations_cons hnot
    have hadvances := advances_undergo hg hinvites hserves
    have hsound := hg.undergo hserves.possible
    have hinvites' := hadvances.invites hinvites
    have hdemands : t ∉ o.demands := fun hmem => ho (o.mem_demands hmem ht)
    rcases hadvances.pending hdemands hpending with hpending' | hsettled | ⟨hlost, hsettled, hready⟩
    · refine (ih hsound hinvites' hlater hmore hpending').imp_right (Or.imp_right ?_)
      exact And.imp_right (Or.imp Loses.cons Loses.cons)
    · exact .inr (.inl (settled_after hsound hinvites' hlater ht hmore hsettled))
    · obtain ⟨s, hs, hringing, hstate⟩ := ringing_of_owes ((hpending.owed i).mpr rfl)
      refine .inr (.inr ⟨settled_after hsound hinvites' hlater ht hmore hsettled, ?_⟩)
      exact hlost.imp (fun hkind => ⟨[], o, later, rfl, hkind, hstate, hready⟩)
        fun hkind => ⟨[], o, later, rfl, hkind, hstate, hready⟩

/-- An invitation that is delivered for the first time is answered at once, or taken in by a new
session. -/
lemma arrives_undergo (hg : Sound g) (h : g.Serves o) (hr : o.request? = some r)
    (hm : r.method = .invite) (hfresh : Settled g r.serverTransaction 0) :
    Settled (g.undergo o) r.serverTransaction 1 ∨
      ∃ i s, g.session? i = none ∧ (g.undergo o).session? i = some s ∧ s.state = .incomingCall ∧
        s.invite = some r ∧ Pending (g.undergo o) r.serverTransaction i := by
  obtain ⟨id, calls, hcalls, -, hturn⟩ := turn_undergo hg h hr
  exact hturn.arrives hcalls hm hfresh

omit [Transport σ] in
/-- Where no invitation is delivered twice, one that is delivered now is delivered at no other
time. -/
lemma not_mem_invitations (hfresh : (invitations (earlier ++ o :: later)).Nodup)
    (ho : o.invitation? = some t) : t ∉ invitations earlier ∧ t ∉ invitations later := by
  simp only [invitations, List.filterMap_append, List.filterMap_cons, ho] at hfresh
  obtain ⟨-, hlater, hdisjoint⟩ := List.nodup_append.mp hfresh
  refine ⟨fun hearlier => ?_, (List.nodup_cons.mp hlater).1⟩
  exact hdisjoint t hearlier t List.mem_cons_self rfl

/-- What becomes of an invitation that is delivered at some point of a run, and at no other. -/
lemma delivered_after (hg : Sound g) (hinvites : OwesInvites g)
    (h : g.Served (earlier ++ o :: later)) (hfresh : (invitations (earlier ++ o :: later)).Nodup)
    (hr : o.request? = some r) (hm : r.method = .invite)
    (hstart : Settled g r.serverTransaction 0) :
    Settled (g.after (earlier ++ [o])) r.serverTransaction 1 ∧
        Settled (g.after (earlier ++ o :: later)) r.serverTransaction 1 ∨
      ∃ i s, (g.after earlier).session? i = none ∧
        (g.after (earlier ++ [o])).session? i = some s ∧ s.state = .incomingCall ∧
        s.invite = some r ∧
        (Pending (g.after (earlier ++ o :: later)) r.serverTransaction i ∨
          Settled (g.after (earlier ++ o :: later)) r.serverTransaction 1 ∨
          Settled (g.after (earlier ++ o :: later)) r.serverTransaction 0 ∧
            ((g.after (earlier ++ [o])).Loses Occurrence.Interrupts i later ∨
              (g.after (earlier ++ [o])).Loses Occurrence.HangsUp i later)) := by
  have ho : o.invitation? = some r.serverTransaction :=
    Occurrence.invitation?_eq_some_iff.mpr ⟨r, hr, hm, rfl⟩
  obtain ⟨hearlier, hlater⟩ := not_mem_invitations hfresh ho
  obtain ⟨hbefore, hserves, hafter⟩ := served_append.mp h
  obtain ⟨hsound, hinvites'⟩ := sound_after hg hinvites hbefore
  have hunseen := settled_after hg hinvites hbefore hm hearlier hstart
  have hadvances := advances_undergo hsound hinvites' hserves
  have hsound' := hsound.undergo hserves.possible
  have htaken : g.after (earlier ++ [o]) = (g.after earlier).undergo o := after_append g earlier [o]
  rw [htaken, after_append, after_cons]
  rcases arrives_undergo hsound hserves hr hm hunseen with hsettled | ⟨i, s, hnew, hs, hs', hi, hpending⟩
  · refine .inl ⟨hsettled, ?_⟩
    exact settled_after hsound' (hadvances.invites hinvites') hafter hm hlater hsettled
  · refine .inr ⟨i, s, hnew, hs, hs', hi, ?_⟩
    exact pending_after hsound' (hadvances.invites hinvites') hafter hm hlater hpending

/-- Whatever happens to an open group with a receiver over a network that refuses nothing, where no
invitation is delivered twice: each step answers the request other than an invitation that it
brings, and no others; invitations are accepted, or declined in one of two ways; none is answered
twice; and one that is delivered is answered in the same step or taken in by a new session, and
answered when this session rings no more, unless the session was interrupted or the peer has hung
up while it rang. -/
theorem requests_answered (profile : Profile) (settings : RegistrationSettings) (net : σ)
    {run : List (Occurrence σ)} (hrun : (start profile settings (Journal.opened net)).Served run)
    (hfresh : (invitations run).Nodup) :
    let g := start profile settings (Journal.opened net)
    (∀ earlier o later, run = earlier ++ o :: later →
      ∃ calls, (g.after (earlier ++ [o])).network.calls = (g.after earlier).network.calls ++ calls ∧
        plain (answered calls) = o.urgent ∧ ∀ call ∈ calls, call.command.declines) ∧
    (∀ t, t.method = .invite → (answered (g.after run).network.calls).count t ≤ 1) ∧
    (∀ earlier r later, run = earlier ++ .act (.signal (.request r)) :: later →
      r.method = .invite →
      let before := g.after earlier
      let taken := g.after (earlier ++ [.act (.signal (.request r))])
      (answered taken.network.calls).count r.serverTransaction = 1 ∨
        ∃ i s, before.session? i = none ∧ taken.session? i = some s ∧ s.state = .incomingCall ∧
          s.invite = some r ∧
          ((g.after run).stateOf i ≠ .incomingCall →
            (answered (g.after run).network.calls).count r.serverTransaction = 1 ∨
              taken.Loses Occurrence.Interrupts i later ∨ taken.Loses Occurrence.HangsUp i later)) := by
  intro g
  have hg : Sound g := sound_start _ _ _
  have hinvites : OwesInvites g := by
    intro i t ht
    rw [owes_start] at ht
    cases ht
  have hstart : ∀ t, Settled g t 0 := fun t => ⟨rfl, fun i => by simp [g, owes_start]⟩
  have howed : ∀ {g : Group (Journal σ)} {t i}, Pending g t i → g.stateOf i = .incomingCall := by
    intro g t i h
    obtain ⟨_, -, -, hstate⟩ := ringing_of_owes ((h.owed i).mpr rfl)
    exact hstate
  refine ⟨?_, ?_, ?_⟩
  · rintro earlier o later rfl
    obtain ⟨hbefore, hserves, -⟩ := served_append.mp hrun
    obtain ⟨hsound, hinvites'⟩ := sound_after hg hinvites hbefore
    rw [after_append, ← o.plain_demands]
    exact (advances_undergo hsound hinvites' hserves).calls
  · intro t ht
    by_cases hmem : t ∈ invitations run
    · obtain ⟨o, ho, hdelivers⟩ := mem_invitations.mp hmem
      obtain ⟨r, hr, hm, rfl⟩ := Occurrence.invitation?_eq_some_iff.mp hdelivers
      obtain ⟨earlier, later, rfl⟩ := List.append_of_mem ho
      rcases delivered_after hg hinvites hrun hfresh hr hm (hstart _) with
        ⟨-, h⟩ | ⟨i, s, -, -, -, -, h | h | ⟨h, -⟩⟩
      · exact Nat.le_of_eq h.answers
      · rw [h.unanswered]
        exact Nat.zero_le 1
      · exact Nat.le_of_eq h.answers
      · rw [h.answers]
        exact Nat.zero_le 1
    · rw [(settled_after hg hinvites hrun ht hmem (hstart t)).answers]
      exact Nat.zero_le 1
  · rintro earlier r later rfl hm
    rcases delivered_after hg hinvites hrun hfresh rfl hm (hstart _) with
      ⟨h, -⟩ | ⟨i, s, hnew, hs, hringing, hinvite, h⟩
    · exact .inl h.answers
    · refine .inr ⟨i, s, hnew, hs, hringing, hinvite, fun hstate => ?_⟩
      rcases h with h | h | ⟨-, h⟩
      · exact absurd (howed h) hstate
      · exact .inl h.answers
      · exact .inr h

/-! ### A call that nobody takes -/

/-- A group of a user who takes calls. -/
def alice : Group (Journal Recorder) :=
  .start (.ofUri ⟨some "alice", "localhost", none⟩ "") .default
    (Journal.opened (Recorder.ofHost "localhost"))

/-- A request of a peer in a call. -/
def requestOf (method : Method) (transaction : String) : Request where
  method := method
  callId := ⟨"call-in"⟩
  transaction := ⟨transaction⟩
  sender := .ofUri ⟨some "bob", "localhost", none⟩
  body := []
  dialog := none

/-- The user takes calls, and a peer calls. -/
def ringing : List (Occurrence Recorder) :=
  [.act (.openToCalls .nobody), .act (.signal (.request (requestOf .invite "z9hG4bK-in")))]

lemma served_ringing : alice.Served ringing := by
  refine ⟨⟨⟨nofun, trivial⟩, fun h => absurd rfl h, ?_⟩, ⟨⟨nofun, trivial⟩, fun _ => ⟨rfl, nofun⟩, ?_⟩,
    trivial⟩
  · decide +kernel
  · decide +kernel

/-- The user rejects the call, and the invitation is answered once. -/
theorem requests_answered_of_rejection :
    let run := ringing ++ [.act (.command 1 .endCall)]
    alice.Served run ∧ (invitations run).Nodup ∧ (alice.after run).stateOf 1 = .ready ∧
      (answered (alice.after run).network.calls).count
        (requestOf .invite "z9hG4bK-in").serverTransaction = 1 := by
  intro run
  have hrun : alice.Served run := by
    refine served_append.mpr ⟨served_ringing, ⟨⟨nofun, rfl⟩, fun h => absurd rfl h, ?_⟩, trivial⟩
    decide +kernel
  have hfresh : (invitations run).Nodup := by decide +kernel
  have hidle : ∀ i, (alice.after run).stateOf i = .ready := by
    intro i
    match i with
    | 0 => decide +kernel
    | 1 => decide +kernel
    | n + 2 => rfl
  refine ⟨hrun, hfresh, hidle 1, ?_⟩
  obtain ⟨-, -, hdelivered⟩ := requests_answered _ _ _ hrun hfresh
  rcases hdelivered [.act (.openToCalls .nobody)] _ _ rfl rfl with hanswered | ⟨i, s, -, -, -, -, h⟩
  · exact absurd hanswered (by decide +kernel)
  · have hkept : ∀ {kind : Occurrence Recorder → Prop} {g : Group (Journal Recorder)},
        ¬ kind (.act (.command 1 .endCall)) → ¬ g.Loses kind i [.act (.command 1 .endCall)] := by
      rintro kind g hkind ⟨earlier, o, later, heq, ho, -⟩
      have hmem : o ∈ [Occurrence.act (.command 1 .endCall)] := by simp [heq]
      exact hkind (List.mem_singleton.mp hmem ▸ ho)
    have hquiet : (alice.after run).stateOf i ≠ .incomingCall := by rw [hidle i]; nofun
    rcases h hquiet with h | h | h
    · exact h
    · exact absurd h (hkept id)
    · refine absurd h (hkept ?_)
      rintro ⟨r, ⟨⟩, -⟩

/-- The peer hangs up while the user is alerted. The session that took the invitation is idle again,
nothing has interrupted it, and the invitation has got no final response. -/
theorem ringing_bye_leaves_invitation :
    let run := ringing ++ [.act (.signal (.request (requestOf .bye "z9hG4bK-bye")))]
    alice.Served run ∧ (invitations run).Nodup ∧ (¬ ∃ o ∈ run, o.Interrupts) ∧
      (∃ s, (alice.after ringing).session? 1 = some s ∧ s.state = .incomingCall ∧
        s.invite = some (requestOf .invite "z9hG4bK-in")) ∧
      (alice.after run).stateOf 1 = .ready ∧
      (answered (alice.after run).network.calls).count
        (requestOf .invite "z9hG4bK-in").serverTransaction = 0 := by
  intro run
  refine ⟨served_append.mpr ⟨served_ringing, ⟨⟨nofun, trivial⟩, fun _ => ⟨rfl, nofun⟩, ?_⟩, trivial⟩,
    by decide +kernel, ?_, ⟨_, rfl, rfl, rfl⟩, rfl, by decide +kernel⟩
  · decide +kernel
  · rintro ⟨o, ho, hinterrupts⟩
    simp only [run, ringing, List.cons_append, List.nil_append, List.mem_cons, List.not_mem_nil,
      or_false] at ho
    rcases ho with rfl | rfl | rfl <;> exact hinterrupts

end Group

end SipAgent
