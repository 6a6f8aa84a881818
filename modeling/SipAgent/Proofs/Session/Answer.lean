import SipAgent.Proofs.Session.Asking
import SipAgent.Proofs.Session.Keys

/-!
# Which requests a session answers

An invitation that alerts the user is a debt: the session that takes it in owes it a final response.
`Session.Dealing` tells how one event deals with the debt of a session and with the request that it
brings, as long as the network refuses nothing: every request that demands a response gets it at
once, an invitation may become a debt instead, and a debt is paid, kept or, on four kinds of events,
dropped. The theorem `Session.dealing_process` says that there is no other way.
-/

namespace SipAgent

/-- The request that a command answers for good. -/
def Command.answers? : Command → Option ServerTransaction
  | .respond r _ => some r.serverTransaction
  | .acceptInvite r .. => some r.serverTransaction
  | _ => none

/-- The requests that were answered for good, in order. -/
def answered (calls : List Call) : List ServerTransaction :=
  calls.filterMap (·.command.answers?)

@[simp] lemma answered_nil : answered [] = [] := rfl

@[simp] lemma answered_append (first later : List Call) :
    answered (first ++ later) = answered first ++ answered later :=
  List.filterMap_append

lemma answered_eq_nil {calls : List Call} (h : ∀ call ∈ calls, call.command.answers? = none) :
    answered calls = [] :=
  List.filterMap_eq_nil_iff.mpr h

/-- A response without a body declines an invitation in one of two ways only: the user is busy, or
the invitation has been taken back. -/
def Command.declines : Command → Prop
  | .respond r status => r.method = .invite → status = 486 ∨ status = 487
  | _ => True

/-- The request that an event brings, if it demands a response. -/
def SessionEvent.demands : SessionEvent → List ServerTransaction
  | .request r => if r.method.answered then [r.serverTransaction] else []
  | _ => []

lemma SessionEvent.demands_eq_nil {e : SessionEvent}
    (h : ∀ r, e = .request r → r.method.answered = false) : e.demands = [] := by
  cases e with
  | request r => simp [demands, h r rfl]
  | _ => rfl

/-- The events that make a session forget an invitation that it has not answered. -/
def SessionEvent.drops : SessionEvent → Prop
  | .request r => r.method = .bye
  | .timeout _ | .dialogTerminated _ | .connectionLost => True
  | _ => False

/-- A command neither brings a request nor makes a session forget one. -/
lemma SessionEvent.quiet_of_isCommand {e : SessionEvent} (h : e.isCommand) :
    e.demands = [] ∧ ¬ e.drops := by
  cases e <;> first | exact ⟨rfl, id⟩ | cases h

namespace Session

variable {σ : Type} {profile : Profile} {s : Session} {e : SessionEvent}

/-- The invitation that a session has taken in and still has to answer. -/
def owed (s : Session) : List ServerTransaction :=
  match s.state, s.invite with
  | .incomingCall, some invite => [invite.serverTransaction]
  | _, _ => []

lemma owed_of_ringing {invite : Request} (hs : s.state = .incomingCall)
    (hinvite : s.invite = some invite) : s.owed = [invite.serverTransaction] := by
  simp only [owed, hs, hinvite]

lemma owed_eq_nil (hs : s.state ≠ .incomingCall) : s.owed = [] := by
  unfold owed
  split
  · next h _ => exact absurd h hs
  · rfl

lemma ringing_of_owed {t : ServerTransaction} (h : t ∈ s.owed) :
    s.state = .incomingCall ∧ ∃ r, s.invite = some r ∧ r.serverTransaction = t := by
  unfold owed at h
  split at h
  · next r hs hr => exact ⟨hs, r, hr, (List.mem_singleton.mp h).symm⟩
  · cases h

@[simp] lemma attaching_owed (s : Session) (e : SessionEvent) :
    (s.attaching e).owed = s.owed := by
  unfold attaching; split <;> rfl

/-- What becomes of a debt and of a request that demands a response. -/
inductive Dealing (s : Session) (e : SessionEvent) (o : Outcome) : List ServerTransaction → Prop where
  /-- The request is answered, and a debt stays. -/
  | keeps (howed : o.session.owed = s.owed) (hspawned : o.spawned = none) : Dealing s e o e.demands
  /-- The debt is paid. -/
  | pays (howed : o.session.owed = []) (hspawned : o.spawned = none) :
      Dealing s e o (e.demands ++ s.owed)
  /-- The debt is forgotten. -/
  | drops (he : e.drops) (ho : o.session = s.cleared) (hspawned : o.spawned = none) :
      Dealing s e o e.demands
  /-- A new session owes the response. -/
  | takes (r : Request) {t : Session} (he : e = .request r) (hm : r.method = .invite)
      (howed : o.session.owed = s.owed) (hspawned : o.spawned = some t)
      (ht : t.state = .incomingCall) (hinvite : t.invite = some r) : Dealing s e o []

/-! ### Events about which nothing is answered -/

/-- A debt stays, or is forgotten; and a session that fails has none. -/
def Keeping (s : Session) (e : SessionEvent) : Except TransportError Outcome → Prop
  | .ok o => o.spawned = none ∧ (o.session.owed = s.owed ∨ e.drops ∧ o.session = s.cleared)
  | .error _ => s.owed = []

/-- Only requests and the user make a session pay its debt. -/
lemma Silent.keeping {o : Outcome} (h : s.Silent profile e o) (hcommand : e ≠ .endCall)
    (hcancel : ∀ r, e = .request r → r.method ≠ .cancel) : s.Keeping e (.ok o) := by
  have hsame : ∀ {state : SessionState}, s.state = state → state ≠ .incomingCall →
      o.session.state ≠ .incomingCall → o.session.owed = s.owed := by
    rintro state rfl hs ho
    rw [owed_eq_nil hs, owed_eq_nil ho]
  refine ⟨Reaction.spawned_eq_none h, ?_⟩
  cases h with
  | refused | consumed => exact .inl rfl
  | ended h =>
    by_cases hs : s.state = .incomingCall
    · refine .inr ⟨?_, rfl⟩
      cases h with
      | hungUp => exact absurd rfl hcommand
      | withdrawn r _ hm => exact absurd hm (hcancel r rfl)
      | bye r _ hm => exact hm
      | callTimedOut | dialogTerminated | connectionLost => trivial
      | granted r hreg | registrationRejected r code hreg | registrationTimedOut t hreg =>
        rw [hs] at hreg; cases hreg
      | badCredentials r hown | foreignRealm r realm hown => rw [hs] at hown; cases hown
      | undescribed r hown | cancelled r hown => rw [hs] at hown; cases hown
      | rejected r hown => rw [hs] at hown; rcases hown with hown | hown | hown <;> cases hown
      | transactionTerminated t hown => rw [hs] at hown; cases hown
    · exact .inl (owed_eq_nil hs).symm
  | registers _ _ _ _ _ _ _ h | calls _ _ _ _ _ _ _ h | challenged _ _ _ _ _ _ h
  | accepts _ _ _ _ _ _ _ h | acceptsChange _ _ _ _ _ _ h | startsChange _ _ _ _ _ _ h =>
    exact h.elim
  | alerted r hs | changeConfirmed r hs | cancelsChange hs | keepsCall r hs | confirmed r hs =>
    exact .inl (hsame hs (by decide) nofun)
  | answered r hs | changed r hs | cancelsCall hs =>
    rcases hs with hs | hs <;> exact .inl (hsame hs (by decide) nofun)

lemma Reaction.not_ringing {R : Promise} {o : Outcome} (h : Reaction R profile s e o)
    (hs : s.state ≠ .incomingCall) : o.session.state ≠ .incomingCall := by
  cases h with
  | refused | consumed | challenged => exact hs
  | registers _ next _ _ _ _ hnext =>
    rintro rfl
    cases hnext
  | accepts _ _ _ _ hring => exact absurd hring hs
  | _ => nofun

lemma request?_of_isRegistration (h : e.isRegistration) : e.request? = none := by
  cases e <;> first | rfl | cases h

lemma not_ringing_of_awaits (hs : s.state.awaitsFinalResponse) : s.state ≠ .incomingCall := by
  intro hring
  rw [hring] at hs
  cases hs

/-! ### One step -/

section Runs

variable [Transport σ] {script : Script Outcome} {net : σ}

/-- The network refuses nothing that a script asks for. -/
def Unrefused (script : Script Outcome) (net : σ) : Prop :=
  ∀ call ∈ script.calls net, call.refused = none

/-- A command that is not refused is answered, and the script goes on. -/
lemma unrefused_send {c : Command} {next : c.Reply → Script Outcome}
    (h : Unrefused (.send c next) net) :
    ∃ (reply : c.Reply) (net' : σ), Unrefused (next reply) net' ∧
      (Script.send c next).calls net = ⟨c, none⟩ :: (next reply).calls net' ∧
      ((Script.send c next).run net).1 = ((next reply).run net').1 := by
  unfold Unrefused at h
  rcases hresult : Transport.perform c net with ⟨cause | reply, net'⟩
  · simp [Script.calls, hresult] at h
  · simp only [Script.calls, Script.run, hresult, List.forall_mem_cons] at h ⊢
    exact ⟨reply, net', h.2, rfl, rfl⟩

lemma unrefused_withLocalTag {next : Tag → Script Outcome}
    (h : Unrefused (s.withLocalTag next) net) :
    ∃ (tag : Tag) (net' : σ), Unrefused (next tag) net' ∧
      (s.withLocalTag next).calls net = (next tag).calls net' ∧
      ((s.withLocalTag next).run net).1 = ((next tag).run net').1 := by
  unfold Session.withLocalTag at h ⊢
  split at h
  · exact ⟨_, net, h, rfl, rfl⟩
  · exact ⟨_, _, h, rfl, rfl⟩

/-- How a session has dealt with an event when its script has run. -/
abbrev Deals (s : Session) (e : SessionEvent) (script : Script Outcome) (net : σ) : Prop :=
  s.Dealing e (s.conclusion e (script.run net).1) (answered (script.calls net))

/-- A script that answers nothing, about an event that demands nothing. -/
lemma deals_of_quiet (he : e.demands = [])
    (hgives : script.Gives .nothing (·.answers? = none) (·.answers? = none))
    (hkeeping : script.Meets .nothing (s.Keeping e)) : s.Deals e script net := by
  have hnothing : answered (script.calls net) = [] :=
    answered_eq_nil (hgives.calls (Promise.nothing_keptBy σ) net)
  have hkept := hkeeping.run (Promise.nothing_keptBy σ) net
  unfold Deals
  rw [hnothing, ← he]
  cases hrun : (script.run net).1 with
  | ok o =>
    rw [hrun] at hkept
    obtain ⟨hspawned, howed | ⟨hdrops, hcleared⟩⟩ := hkept
    · exact .keeps howed hspawned
    · exact .drops hdrops hcleared hspawned
  | error cause =>
    rw [hrun] at hkept
    exact .keeps (Eq.symm hkept) rfl

/-- A plan that answers nothing, of a session that owes nothing. -/
lemma Plan.deals_of_quiet (h : Plan profile s e script) (he : e.demands = [])
    (hs : s.state ≠ .incomingCall)
    (hgives : script.Gives .nothing (·.answers? = none) (·.answers? = none)) :
    s.Deals e script net := by
  have hnothing : answered (script.calls net) = [] :=
    answered_eq_nil (hgives.calls (Promise.nothing_keptBy σ) net)
  have hreacts := h.reacts.run (Promise.nothing_keptBy σ) net
  unfold Deals
  rw [hnothing, ← he]
  cases hrun : (script.run net).1 with
  | ok o =>
    rw [hrun] at hreacts
    refine .keeps ?_ (Reaction.spawned_eq_none hreacts)
    exact (owed_eq_nil (Reaction.not_ringing hreacts hs)).trans (owed_eq_nil hs).symm
  | error cause => exact .keeps (owed_eq_nil hs).symm rfl

lemma deals_respond {r : Request} {status : UInt16} {o : Outcome}
    (h : Unrefused (respond r status (.done o)) net)
    (hdealing : s.Dealing e o [r.serverTransaction]) :
    s.Deals e (respond r status (.done o)) net := by
  obtain ⟨reply, net', -, hcalls, hrun⟩ := unrefused_send (c := .respond r status) h
  unfold Deals
  rw [respond, hcalls, hrun]
  exact hdealing

/-- Every plan deals with the event and the debt as the list says, if the network refuses nothing;
only an invitation to an idle session is let down. -/
lemma Plan.deals (h : Plan profile s e script) (hnet : Unrefused script net)
    (hbusy : ∀ r, e = .request r → r.method = .invite → s.state ≠ .ready) :
    s.Deals e script net := by
  have hplan := h
  have hdemands : ∀ r, e = .request r → r.method.answered → e.demands = [r.serverTransaction] := by
    rintro r rfl hm
    exact if_pos hm
  have hplain : e.request? = none → e.demands = [] := fun he =>
    SessionEvent.demands_eq_nil fun r hr => absurd hr (SessionEvent.ne_request he r)
  cases h with
  | refuses h =>
    refine Session.deals_of_quiet (SessionEvent.demands_eq_nil fun r he => ?_) trivial
      ⟨rfl, .inl rfl⟩
    cases hm : r.method.answered with
    | false => rfl
    | true =>
      obtain ⟨hinvite, hready⟩ := h r he hm
      exact absurd hready (hbusy r he hinvite)
  | still hcommand hrequest h =>
    refine Session.deals_of_quiet (SessionEvent.demands_eq_nil hrequest) trivial (h.keeping ?_ ?_)
    · rintro rfl
      cases hcommand
    · rintro r he hm
      have hnot := hrequest r he
      rw [hm] at hnot
      cases hnot
  | settles r status he hm =>
    exact deals_respond hnet (hdemands r he hm ▸ .keeps rfl rfl)
  | byes r he hm =>
    refine deals_respond hnet (hdemands r he (by rw [hm]; rfl) ▸ .drops ?_ rfl rfl)
    subst he
    exact hm
  | rejects invite hs hinvite he =>
    refine deals_respond hnet ?_
    rw [← owed_of_ringing hs hinvite]
    subst he
    exact .pays rfl rfl
  | withdraws r invite hs hinvite he hm =>
    obtain ⟨_, net₁, hnet, hcalls, hrun⟩ := unrefused_send (c := .respond r 200) hnet
    obtain ⟨_, net₂, -, hcalls', hrun'⟩ := unrefused_send (c := .respond invite 487) hnet
    unfold Deals
    rw [respond, hcalls, hrun, respond, hcalls', hrun']
    change Dealing s e _ ([r.serverTransaction] ++ [invite.serverTransaction])
    rw [← hdemands r he (by rw [hm]; rfl), ← owed_of_ringing hs hinvite]
    exact .pays rfl rfl
  | accepts invite answer hs hinvite he =>
    unfold acceptCall at hnet ⊢
    obtain ⟨tag, net₁, hnet, hcalls, hrun⟩ := unrefused_withLocalTag hnet
    obtain ⟨d, net₂, -, hcalls', hrun'⟩ := unrefused_send hnet
    unfold Deals
    rw [hcalls, hrun, hcalls', hrun']
    change Dealing s e _ ([] ++ [invite.serverTransaction])
    rw [← owed_of_ringing hs hinvite, ← hplain (he ▸ rfl)]
    exact .pays rfl rfl
  | acceptsChange r hs he hm =>
    unfold acceptChange at hnet ⊢
    obtain ⟨tag, net₁, hnet, hcalls, hrun⟩ := unrefused_withLocalTag hnet
    obtain ⟨d, net₂, -, hcalls', hrun'⟩ := unrefused_send hnet
    unfold Deals
    rw [hcalls, hrun, hcalls', hrun']
    change Dealing s e _ [r.serverTransaction]
    rw [← hdemands r he (by rw [hm]; rfl)]
    refine .keeps (.trans ?_ (owed_eq_nil (by rw [hs]; decide)).symm) rfl
    exact owed_eq_nil nofun
  | registers expiry next hs he =>
    refine hplan.deals_of_quiet (hplain ?_) (by rw [hs]; decide) fun _ => ⟨rfl, fun _ _ => trivial⟩
    exact request?_of_isRegistration he
  | calls callee offer hs he =>
    refine hplan.deals_of_quiet (hplain (he ▸ rfl)) (by rw [hs]; decide) fun _ => ?_
    exact ⟨rfl, fun _ _ => trivial⟩
  | startsChange offer hs he hscript =>
    refine hplan.deals_of_quiet (hplain ?_) (by rw [hs]; decide) ?_
    · rcases he with rfl | ⟨_, rfl⟩ <;> rfl
    · unfold startChange at hscript
      split at hscript
      · cases hscript
      · cases hscript
        exact ⟨rfl, fun _ _ => trivial⟩
  | challenged r hs he =>
    refine hplan.deals_of_quiet (hplain (he ▸ rfl)) ?_ ?_
    · rintro hring
      rw [hring] at hs
      cases hs
    · unfold authenticate
      split
      · trivial
      · split
        · trivial
        · exact ⟨rfl, fun _ _ => trivial⟩
  | acknowledges r hs he =>
    refine hplan.deals_of_quiet (hplain (he ▸ rfl)) (not_ringing_of_awaits hs) ?_
    exact gives_acknowledge (by trivial) s r fun _ _ => rfl
  | endsAnswered r hs he =>
    refine hplan.deals_of_quiet (hplain (he ▸ rfl)) (not_ringing_of_awaits hs) ?_
    refine gives_acknowledge ?_ s r fun _ _ => rfl
    exact gives_hangUp (by trivial) s fun _ _ => rfl
  | hangsUp hs hring he =>
    refine hplan.deals_of_quiet (hplain (he ▸ rfl)) hring ?_
    exact gives_hangUp (by trivial) s fun _ _ => rfl
  | cancels hs he =>
    refine hplan.deals_of_quiet (hplain (he ▸ rfl)) (not_ringing_of_awaits hs) ?_
    exact gives_cancelRequest (by trivial) s fun _ _ => rfl
  | abandons hcommand hrequest h =>
    have hno := SessionEvent.ne_request hrequest
    have hkeeping := h.keeping (by rintro rfl; cases hcommand) fun r he => absurd he (hno r)
    refine Session.deals_of_quiet (hplain hrequest) ?_ (meets_abandonDialog (by exact hkeeping) s)
    exact gives_abandonDialog (by trivial) s fun _ _ => rfl

/-- A receiver answers at once, or lets a new session owe the response. -/
lemma deals_receiverScript (s : Session) (fresh : SessionId) (e : SessionEvent)
    (hnet : Unrefused (s.receiverScript fresh e) net) :
    s.Deals e (s.receiverScript fresh e) net := by
  have hrefuses : e.demands = [] → s.Deals e (.done s.refused) net := fun he =>
    deals_of_quiet he trivial ⟨rfl, .inl rfl⟩
  unfold receiverScript at hnet ⊢
  split at hnet
  · next r =>
    have hdemands : r.method.answered → (SessionEvent.request r).demands = [r.serverTransaction] :=
      fun hm => if_pos hm
    split at hnet
    · next hm =>
      obtain ⟨t, net', -, hcalls, hrun⟩ := unrefused_send (c := .ringing r _) hnet
      unfold Deals
      change Dealing s _ (s.conclusion _ ((Script.send _ _).run _).1)
        (answered ((Script.send (.ringing r _) _).calls _))
      rw [hcalls, hrun]
      exact .takes r rfl hm rfl rfl rfl rfl
    · next hm => exact deals_respond hnet (hdemands (by rw [hm]; rfl) ▸ .keeps rfl rfl)
    · next hm => exact deals_respond hnet (hdemands (by rw [hm]; rfl) ▸ .keeps rfl rfl)
    · next hm => exact deals_respond hnet (hdemands (by rw [hm]; rfl) ▸ .keeps rfl rfl)
    · next hm => exact hrefuses (if_neg (by rw [hm]; decide))
    · next hm => exact hrefuses (if_neg (by rw [hm]; decide))
  · next he => exact hrefuses (SessionEvent.demands_eq_nil fun r hr => absurd hr (he r))

lemma attaching_transportFailed (s : Session) (e : SessionEvent) (cause : TransportError) :
    (s.attaching e).transportFailed e cause = s.transportFailed e cause := by
  simp only [transportFailed, finished, attaching_cleared, attaching_unbound, attaching_id,
    attaching_state]

/-- The dialog that a message carries is no matter of debts. -/
lemma Deals.of_attaching (h : (s.attaching e).Deals e script net) : s.Deals e script net := by
  have hconclusion : (s.attaching e).conclusion e (script.run net).1 =
      s.conclusion e (script.run net).1 := by
    cases (script.run net).1 with
    | ok o => rfl
    | error cause => exact attaching_transportFailed s e cause
  unfold Deals at h ⊢
  rw [hconclusion] at h
  generalize answered (script.calls net) = done at h ⊢
  cases h with
  | keeps howed hspawned => exact .keeps (howed.trans (attaching_owed s e)) hspawned
  | pays howed hspawned => exact attaching_owed s e ▸ .pays howed hspawned
  | drops he ho hspawned => exact .drops he (ho.trans (attaching_cleared s e)) hspawned
  | takes r he hm howed hspawned ht hinvite =>
    exact .takes r he hm (howed.trans (attaching_owed s e)) hspawned ht hinvite

/-- Whoever is fed an event, and whatever the network replies, as long as it refuses nothing: the
event and the debts are dealt with as the list says. No invitation is fed to an idle session that
owns a dialog. -/
theorem dealing_process (profile : Profile) (fresh : SessionId) (s : Session) (e : SessionEvent)
    (hnet : Unrefused (s.script profile fresh e) net)
    (hbusy : s.role = .dialog → ∀ r, e = .request r → r.method = .invite → s.state ≠ .ready) :
    s.Dealing e (s.process profile fresh e net).1
      (answered ((s.script profile fresh e).calls net)) := by
  rw [process_fst]
  unfold script at hnet ⊢
  split at hnet
  · next hrole =>
    refine Deals.of_attaching ((plan_dialogScript profile s e).deals hnet ?_)
    rw [attaching_state]
    exact hbusy hrole
  · exact deals_receiverScript s fresh e hnet

end Runs

/-! ### How invitations are declined -/

lemma declines_script (profile : Profile) (fresh : SessionId) (s : Session) (e : SessionEvent) :
    (s.script profile fresh e).Gives .nothing Command.declines Command.declines := by
  refine (gives_script profile fresh s e).mono (fun c hc => ?_) ?_
  · cases hc with
    | responds r status hr hstatus => exact hstatus
    | _ => trivial
  · rintro c ⟨d, -, rfl⟩
    trivial

end Session

end SipAgent
