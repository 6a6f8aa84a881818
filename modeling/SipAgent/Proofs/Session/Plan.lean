import Mathlib.Tactic.SplitIfs
import SipAgent.Proofs.Session.Reaction

/-!
# What a session sets out to do

`Session.Plan` lists the scripts of a session that owns a dialog: what it asks of the network about
an event, and what becomes of it if the network complies. The theorem `Session.plan_dialogScript`
says that there is no other script. It is the only place where the rules of the machine are opened;
what a step does, whom it addresses and what it answers are case analyses on this list.
-/

namespace SipAgent

/-- Requests that never go without a response once somebody has consumed them. -/
def Method.answered : Method → Bool
  | .invite | .cancel | .bye | .options => true
  | .ack | .register => false

/-- The request that an event brings. -/
def SessionEvent.request? : SessionEvent → Option Request
  | .request r => some r
  | _ => none

lemma SessionEvent.ne_request {e : SessionEvent} (h : e.request? = none) (r : Request) :
    e ≠ .request r := by
  rintro rfl
  cases h

namespace Session

variable {profile : Profile} {s : Session} {e : SessionEvent}

/-- What a session that owns a dialog sets out to do about an event, once the dialog that the event
carries has been attached to it. -/
inductive Plan (profile : Profile) (s : Session) (e : SessionEvent) : Script Outcome → Prop where
  /-- There is no rule for the event. Only an invitation to an idle session is let down so. -/
  | refuses (h : ∀ r, e = .request r → r.method.answered → r.method = .invite ∧ s.state = .ready) :
      Plan profile s e (.done s.refused)
  /-- Nothing is asked of the network. -/
  | still {o : Outcome} (hcommand : e.isCommand = false)
      (hrequest : ∀ r, e = .request r → r.method.answered = false)
      (h : s.Silent profile e o) : Plan profile s e (.done o)
  /-- A request gets its final response, and nothing comes of it. -/
  | settles (r : Request) (status : UInt16) (he : e = .request r) (hm : r.method.answered)
      (hstatus : r.method = .invite → status = 486) :
      Plan profile s e (respond r status (.done s.consumed))
  /-- The peer hangs up. -/
  | byes (r : Request) (he : e = .request r) (hm : r.method = .bye) (hs : s.state.isCall) :
      Plan profile s e (respond r 200 (.done (s.finished .callEnded)))
  /-- The user rejects the invitation. -/
  | rejects (invite : Request) (hs : s.state = .incomingCall) (hinvite : s.invite = some invite)
      (he : e = .endCall) :
      Plan profile s e (respond invite 486 (.done (s.finished .callEnded)))
  /-- The peer takes its invitation back. -/
  | withdraws (r invite : Request) (hs : s.state = .incomingCall)
      (hinvite : s.invite = some invite) (he : e = .request r) (hm : r.method = .cancel) :
      Plan profile s e (respond r 200 (respond invite 487 (.done (s.finished .callEnded))))
  | accepts (invite : Request) (answer : Octets) (hs : s.state = .incomingCall)
      (hinvite : s.invite = some invite) (he : e = .answerCall answer) :
      Plan profile s e (s.acceptCall profile invite answer)
  | acceptsChange (r : Request) (hs : s.state = .inCall) (he : e = .request r)
      (hm : r.method = .invite) : Plan profile s e (s.acceptChange profile r)
  | registers (expiry : UInt32) (next : SessionState) (hs : s.state = .ready)
      (he : e.isRegistration) (hnext : next.isRegistration) :
      Plan profile s e (s.startRegistration profile expiry next)
  | calls (callee : Uri) (offer : Octets) (hs : s.state = .ready) (he : e = .makeCall callee offer) :
      Plan profile s e (s.startCall profile callee offer)
  | startsChange (offer : Octets) {script : Script Outcome} (hs : s.state = .inCall)
      (he : e = .changeCall offer ∨ ∃ peer, e = .makeCall peer offer)
      (hscript : s.startChange offer = some script) : Plan profile s e script
  | challenged (r : Response) (hs : s.state.challengeable = some r.method) (he : e = .response r)
      (hr : isChallenge r.status) : Plan profile s e (s.authenticate profile r)
  | acknowledges (r : Response) {o : Outcome} (hs : s.state.awaitsFinalResponse)
      (he : e = .response r) (h : s.Silent profile e o) :
      Plan profile s e (s.acknowledge r (.done o))
  /-- A call that came up in spite of its cancellation is acknowledged and ended. -/
  | endsAnswered (r : Response) {o : Outcome} (hs : s.state.awaitsFinalResponse)
      (he : e = .response r) (h : s.Silent profile e o) :
      Plan profile s e (s.acknowledge r (s.hangUp (.done o)))
  | hangsUp (hs : s.state.endsOnHangUp) (hring : s.state ≠ .incomingCall) (he : e = .endCall) :
      Plan profile s e (s.hangUp (.done (s.finished .callEnded)))
  | cancels {o : Outcome} (hs : s.state.awaitsFinalResponse) (he : e = .endCall)
      (h : s.Silent profile e o) : Plan profile s e (s.cancelRequest (.done o))
  | abandons {o : Outcome} (hcommand : e.isCommand = false) (hrequest : e.request? = none)
      (h : s.Silent profile e o) : Plan profile s e (s.abandonDialog (.done o))

/-! ### Steps that rules share -/

/-- No command is asked for, about an event that is neither a command nor a request. -/
lemma plan_done {o : Outcome} (hcommand : e.isCommand = false) (hrequest : e.request? = none)
    (h : s.Silent profile e o) : Plan profile s e (.done o) :=
  .still hcommand (fun r he => absurd he (SessionEvent.ne_request hrequest r)) h

/-- Any response will do for a request that is no invitation. -/
lemma plan_settles {r : Request} (hm : r.method.answered) (hinvite : r.method ≠ .invite)
    (status : UInt16) : Plan profile s (.request r) (respond r status (.done s.consumed)) :=
  .settles r status rfl hm fun h => absurd h hinvite

lemma plan_completeChange {r : Response}
    (hs : s.state = .inCallChanging ∨ s.state = .inCallChangingCanceling)
    (hr : isSuccess r.status) : Plan profile s (.response r) (s.completeChange r) := by
  have hawaits : s.state.awaitsFinalResponse := by rcases hs with hs | hs <;> rw [hs] <;> rfl
  exact .acknowledges r hawaits rfl (.changed r hs rfl hr)

lemma silent_failedWith {r : Response}
    (hs : s.state.isOutgoing ∨ s.state = .inCallChanging ∨ s.state = .inCallChangingCanceling) :
    s.Silent profile (.response r) (s.failedWith r) := by
  rw [failedWith_eq_finished]
  exact .ended (.rejected r hs)

/-! ### Rules by state -/

lemma plan_readyRule (hs : s.state = .ready) {script : Script Outcome}
    (h : s.readyRule profile e = some script) : Plan profile s e script := by
  cases e with
  | makeCall peer offer => cases h; exact .calls peer offer hs rfl
  | register expiry => cases h; exact .registers expiry .registering hs rfl rfl
  | deregister => cases h; exact .registers 0 .deregistering hs rfl rfl
  | _ => cases h

lemma plan_registeringRule (hs : s.state.isRegistration) {script : Script Outcome}
    (h : s.registeringRule profile e = some script) : Plan profile s e script := by
  have hchallenge : s.state.challengeable = some .register := by
    revert hs; cases s.state <;> simp [SessionState.isRegistration, SessionState.challengeable]
  unfold registeringRule at h
  split at h
  · next r =>
    split at h
    · next hm =>
      cases h
      have hfailed : ∀ code, s.failed code r.summary =
          s.finished (.registrationFailed code r.summary) := by
        intro code
        simp [failed, failureNotice, hs]
      simp only [registrationResponse, hfailed]
      split
      · exact plan_done rfl rfl .consumed
      split
      · next hok => exact plan_done rfl rfl (.ended (.granted r hs hm hok))
      split
      · next hr => exact .challenged r (hm ▸ hchallenge) rfl hr
      · refine plan_done rfl rfl (.ended (.registrationRejected r _ hs hm ?_))
        split
        · nofun
        · exact ErrorCode.ofStatus_ne_dataConnectionLost r.status
    · cases h
  · cases h

lemma plan_incomingCallRule (hs : s.state = .incomingCall) {script : Script Outcome}
    (h : s.incomingCallRule profile e = some script) : Plan profile s e script := by
  unfold incomingCallRule at h
  split at h
  · next invite answer hinvite => cases h; exact .accepts invite answer hs hinvite rfl
  · next invite hinvite => cases h; exact .rejects invite hs hinvite rfl
  · next invite r hinvite =>
    split at h
    · next hm => cases h; exact .withdraws r invite hs hinvite rfl hm
    · cases h
  · cases h

lemma silent_confirmCall {r : Request} (hs : s.state = .incomingCallAnswering)
    (hm : r.method = .ack) : s.Silent profile (.request r) (s.confirmCall r) := by
  simp only [confirmCall]
  split
  · have hfailed : (s.capturing r.body).failed .clientError "peer sdp is empty" =
        s.finished (.error .clientError "peer sdp is empty") := by
      unfold capturing
      split <;> simp [failed, failureNotice, hs, SessionState.isRegistration, finished,
        cleared, unbound]
    rw [hfailed]
    exact .ended (.undescribed r hs hm)
  · next hdescribed => exact .confirmed r hs rfl hm hdescribed

lemma plan_incomingCallAnsweringRule (hs : s.state = .incomingCallAnswering)
    {script : Script Outcome} (h : s.incomingCallAnsweringRule e = some script) :
    Plan profile s e script := by
  unfold incomingCallAnsweringRule at h
  split at h
  · next r =>
    split_ifs at h with hm hcancel
    · cases h
      refine .still rfl ?_ (silent_confirmCall hs hm)
      rintro _ ⟨⟩
      rw [hm]
      rfl
    · cases h
      exact plan_settles (by rw [hcancel]; rfl) (by rw [hcancel]; decide) 200
  · cases h
    exact .hangsUp (by rw [hs]; rfl) (by rw [hs]; decide) rfl
  · cases h

lemma plan_outgoingCallRule (hs : s.state = .outgoingCall ∨ s.state = .outgoingCallRingBack)
    {script : Script Outcome} (h : s.outgoingCallRule profile e = some script) :
    Plan profile s e script := by
  have hchallenge : s.state.challengeable = some .invite := by
    rcases hs with hs | hs <;> rw [hs] <;> rfl
  have hout : s.state.isOutgoing := by rcases hs with hs | hs <;> rw [hs] <;> rfl
  have hawaits : s.state.awaitsFinalResponse := by rcases hs with hs | hs <;> rw [hs] <;> rfl
  unfold outgoingCallRule at h
  split at h
  · next r =>
    split at h
    · next hm =>
      cases h
      unfold inviteResponse
      split_ifs with halert hstate _ hok hr
      · exact plan_done rfl rfl (.alerted r hstate rfl)
      · exact plan_done rfl rfl .consumed
      · exact plan_done rfl rfl .consumed
      · exact .acknowledges r hawaits rfl (.answered r hs rfl hok)
      · exact .challenged r (hm ▸ hchallenge) rfl hr
      · exact plan_done rfl rfl .consumed
      · exact plan_done rfl rfl (silent_failedWith (.inl hout))
    · cases h
  · cases h
    exact .cancels hawaits rfl (.cancelsCall hs rfl)
  · cases h

lemma plan_outgoingCallCancelingRule (hs : s.state = .outgoingCallCanceling)
    {script : Script Outcome} (h : s.outgoingCallCancelingRule e = some script) :
    Plan profile s e script := by
  have hout : s.state.isOutgoing := by rw [hs]; rfl
  unfold outgoingCallCancelingRule at h
  split at h
  · next r =>
    split_ifs at h with hcancel _ hm
    · cases h; exact plan_done rfl rfl (silent_failedWith (.inl hout))
    · cases h; exact plan_done rfl rfl .consumed
    · cases h
      unfold cancelledInviteResponse
      split_ifs with _ hok hdone
      · exact plan_done rfl rfl .consumed
      · exact .endsAnswered r (by rw [hs]; rfl) rfl (.ended (.cancelled r hs hm (.inl hok)))
      · exact plan_done rfl rfl (.ended (.cancelled r hs hm (.inr hdone)))
      · exact plan_done rfl rfl (silent_failedWith (.inl hout))
  · cases h

lemma plan_inCallRule (hs : s.state = .inCall) {script : Script Outcome}
    (h : s.inCallRule profile e = some script) : Plan profile s e script := by
  unfold inCallRule at h
  split at h
  · cases h
    exact .hangsUp (by rw [hs]; rfl) (by rw [hs]; decide) rfl
  · next r =>
    split_ifs at h with hm hbye
    · cases h
      exact .acceptsChange r hs rfl hm
    · cases h
      exact .byes r rfl hbye (by rw [hs]; rfl)
  · next peer offer => exact .startsChange offer hs (.inr ⟨peer, rfl⟩) h
  · next offer => exact .startsChange offer hs (.inl rfl) h
  · cases h

lemma plan_inCallAnsweringRule (hs : s.state = .inCallAnswering) {script : Script Outcome}
    (h : s.inCallAnsweringRule e = some script) : Plan profile s e script := by
  unfold inCallAnsweringRule at h
  split at h
  · next r =>
    split at h
    · next hm =>
      cases h
      refine .still rfl ?_ (.changeConfirmed r hs rfl hm)
      rintro _ ⟨⟩
      rw [hm]
      rfl
    · cases h
  · cases h
    exact .hangsUp (by rw [hs]; rfl) (by rw [hs]; decide) rfl
  · cases h

lemma plan_inCallChangingRule (hs : s.state = .inCallChanging) {script : Script Outcome}
    (h : s.inCallChangingRule profile e = some script) : Plan profile s e script := by
  have hchallenge : s.state.challengeable = some .invite := by rw [hs]; rfl
  unfold inCallChangingRule at h
  split at h
  · next r =>
    split at h
    · next hm =>
      cases h
      unfold changeResponse
      split_ifs with _ hok hr _
      · exact plan_done rfl rfl .consumed
      · exact plan_completeChange (.inl hs) hok
      · exact .challenged r (hm ▸ hchallenge) rfl hr
      · exact .abandons rfl rfl (silent_failedWith (.inr (.inl hs)))
      · exact plan_done rfl rfl (silent_failedWith (.inr (.inl hs)))
    · cases h
  · cases h
    exact .cancels (by rw [hs]; rfl) rfl (.cancelsChange hs rfl)
  · cases h

lemma plan_inCallChangingCancelingRule (hs : s.state = .inCallChangingCanceling)
    {script : Script Outcome} (h : s.inCallChangingCancelingRule e = some script) :
    Plan profile s e script := by
  unfold inCallChangingCancelingRule at h
  split at h
  · next r =>
    split_ifs at h with hcancel hm
    · cases h; exact plan_done rfl rfl .consumed
    · cases h
      unfold cancelledChangeResponse
      split_ifs with _ hok _
      · exact plan_done rfl rfl .consumed
      · exact plan_completeChange (.inr hs) hok
      · exact .abandons rfl rfl (silent_failedWith (.inr (.inr hs)))
      · exact plan_done rfl rfl (.keepsCall r hs rfl)
  · cases h

/-- Every rule of the state in which the session is stands on the list. -/
lemma plan_stateRule {script : Script Outcome} (h : s.stateRule profile e = some script) :
    Plan profile s e script := by
  unfold stateRule at h
  split at h
  · next hs => exact plan_readyRule hs h
  · next hs => exact plan_registeringRule (by rw [hs]; rfl) h
  · next hs => exact plan_registeringRule (by rw [hs]; rfl) h
  · next hs => exact plan_incomingCallRule hs h
  · next hs => exact plan_incomingCallAnsweringRule hs h
  · next hs => exact plan_outgoingCallRule (.inl hs) h
  · next hs => exact plan_outgoingCallRule (.inr hs) h
  · next hs => exact plan_outgoingCallCancelingRule hs h
  · next hs => exact plan_inCallRule hs h
  · next hs => exact plan_inCallAnsweringRule hs h
  · next hs => exact plan_inCallChangingRule hs h
  · next hs => exact plan_inCallChangingCancelingRule hs h

/-! ### Rules for every state -/

lemma plan_strayRequest {r : Request} {script : Script Outcome}
    (h : s.strayRequest r = some script) : Plan profile s (.request r) script := by
  unfold strayRequest at h
  split at h
  · next hm =>
    split at h
    · next hcall => cases h; exact .byes r rfl hm hcall
    · cases h; exact plan_settles (by rw [hm]; rfl) (by rw [hm]; decide) 481
  · next hm => cases h; exact plan_settles (by rw [hm]; rfl) (by rw [hm]; decide) 481
  · next hm => cases h; exact plan_settles (by rw [hm]; rfl) (by rw [hm]; decide) 200
  · next hm =>
    split at h
    · cases h
    · cases h; exact .settles r 486 rfl (by rw [hm]; rfl) fun _ => rfl
  · cases h
  · cases h

lemma silent_timedOut {t : TransactionEnd}
    (ht : s.isCurrentClient t.transaction ∨ s.isCurrentServer t.transaction) :
    s.Silent profile (.timeout t) s.timedOut := by
  unfold timedOut
  split_ifs with hreg hready
  · exact .ended (.registrationTimedOut t hreg ht)
  · exact .consumed
  · have hfailed : s.failed .timeOut "timed out" = s.finished (.error .timeOut "timed out") := by
      simp [failed, failureNotice, hreg]
    rw [hfailed]
    exact .ended (.callTimedOut t (SessionState.isCall_of_not hreg hready) ht)

lemma plan_commonRule {script : Script Outcome} (h : s.commonRule e = some script) :
    Plan profile s e script := by
  unfold commonRule at h
  split at h
  · exact plan_strayRequest h
  · next t =>
    split at h
    · next ht =>
      cases h
      rw [Bool.or_eq_true] at ht
      exact .abandons rfl rfl (silent_timedOut ht)
    · cases h
  · next t =>
    split_ifs at h with ht hwaits
    · cases h
      rw [Bool.and_eq_true, Bool.not_eq_true'] at ht
      exact plan_done rfl rfl (.ended (.transactionTerminated t hwaits ht.1 ht.2))
    · cases h; exact plan_done rfl rfl .consumed
  · next d =>
    split at h
    · next hd =>
      cases h
      rw [Bool.and_eq_true, decide_eq_true_eq] at hd
      exact plan_done rfl rfl (.ended (.dialogTerminated d hd.2 hd.1))
    · cases h; exact plan_done rfl rfl .consumed
  · split at h
    · cases h
    · next hs => cases h; exact plan_done rfl rfl (.ended (.connectionLost hs))
  · cases h

/-- A request that gets a response falls through all rules only in an idle session. -/
lemma of_commonRule_eq_none (h : s.commonRule e = none) :
    ∀ r, e = .request r → r.method.answered → r.method = .invite ∧ s.state = .ready := by
  rintro r rfl hm
  simp only [commonRule, strayRequest] at h
  split at h
  · split at h <;> cases h
  · cases h
  · cases h
  · next hinvite =>
    split at h
    · next hs => exact ⟨hinvite, hs⟩
    · cases h
  · next hack => rw [hack] at hm; cases hm
  · next hregister => rw [hregister] at hm; cases hm

/-- A session that owns a dialog sets out to do nothing but what the list says. -/
theorem plan_dialogScript (profile : Profile) (s : Session) (e : SessionEvent) :
    Plan profile (s.attaching e) e (s.dialogScript profile e) := by
  simp only [dialogScript]
  split
  · next script h => exact plan_stateRule h
  · split
    · next script h => exact plan_commonRule h
    · next h => exact .refuses (of_commonRule_eq_none h)

end Session

end SipAgent
