import Mathlib.Tactic.SplitIfs
import SipAgent.Proofs.Session.Script
import SipAgent.Session.Step

/-!
# What a session does with one event

`Session.Reaction` lists everything that a session which owns a dialog can do with one event: the
state in which it does it, the event that makes it, and what becomes of the session. The theorem
`Session.reaction_process` says that the machine does nothing else, over any network. Every property
of the outcome of single steps is a case analysis on this list.
-/

namespace SipAgent

/-- The method of the own request for which credentials can still be asked. -/
def SessionState.challengeable : SessionState → Option Method
  | .registering | .deregistering => some .register
  | .outgoingCall | .outgoingCallRingBack | .inCallChanging => some .invite
  | _ => none

/-- The call has been offered or answered, and hanging up ends it at once. -/
def SessionState.endsOnHangUp : SessionState → Bool
  | .incomingCall | .incomingCallAnswering | .inCall | .inCallAnswering => true
  | _ => false

lemma SessionState.isCall_of_not {state : SessionState} (hreg : ¬ state.isRegistration)
    (hready : state ≠ .ready) : state.isCall := by
  cases state <;> first | rfl | contradiction

/-- No final response says that the own connection is gone. -/
lemma ErrorCode.ofStatus_ne_dataConnectionLost (status : UInt16) :
    ofStatus status ≠ .dataConnectionLost := by
  unfold ofStatus
  split_ifs <;> nofun

namespace Session

variable {σ : Type} {R : Promise} {profile : Profile} {s : Session} {e : SessionEvent}

/-! ### Status classes -/

lemma not_isProvisional_of_isSuccess {status : UInt16} (h : isSuccess status) :
    isProvisional status = false := by
  simp only [isSuccess, Bool.and_eq_true, decide_eq_true_eq] at h
  simp only [isProvisional, Bool.and_eq_false_imp, decide_eq_true_eq, decide_eq_false_iff_not]
  exact fun _ hlt => absurd h.1 (UInt16.not_le.mpr hlt)

lemma not_isAlerting_of_isSuccess {status : UInt16} (h : isSuccess status) :
    isAlerting status = false := by
  simp only [isSuccess, Bool.and_eq_true, decide_eq_true_eq] at h
  simp only [isAlerting, Bool.and_eq_false_imp, decide_eq_true_eq, decide_eq_false_iff_not]
  exact fun _ hle => absurd (UInt16.le_trans h.1 hle) (by decide)

/-! ### The ways in which a session ends what it does -/

/-- What the listener is told of a final response that rejects the own invitation. -/
def rejectionNotice (s : Session) (r : Response) : Notice :=
  if !s.state.isInCall && r.status = 486 then .callBusy
  else failureNotice s.state.isRegistration (.ofStatus r.status) r.summary

lemma failedWith_eq_finished (s : Session) (r : Response) :
    s.failedWith r = s.finished (s.rejectionNotice r) := by
  unfold failedWith rejectionNotice failed
  split <;> rfl

/-- The ways in which a session goes back to its idle state, and what its listener is told then. -/
inductive Ending (profile : Profile) (s : Session) : SessionEvent → Notice → Prop where
  | granted (r : Response) (hs : s.state.isRegistration) (hm : r.method = .register)
      (hr : isSuccess r.status) :
      Ending profile s (.response r) (.registrationDone (s.grantedDuration r))
  | registrationRejected (r : Response) (code : ErrorCode) (hs : s.state.isRegistration)
      (hm : r.method = .register) (hcode : code ≠ .dataConnectionLost) :
      Ending profile s (.response r) (.registrationFailed code r.summary)
  | badCredentials (r : Response) (hs : s.state.challengeable = some r.method)
      (hr : isChallenge r.status) (hretries : maxAuthRetries ≤ s.authRetries) :
      Ending profile s (.response r)
        (failureNotice s.state.isRegistration .invalidCredentials "incorrect username or password")
  | foreignRealm (r : Response) (realm : String) (hs : s.state.challengeable = some r.method)
      (hr : isChallenge r.status) (hrealm : foreignRealm? profile r = some realm) :
      Ending profile s (.response r)
        (failureNotice s.state.isRegistration .crossDomainAuthentication realm)
  | hungUp (hs : s.state.endsOnHangUp) : Ending profile s .endCall .callEnded
  /-- The peer takes its invitation back. -/
  | withdrawn (r : Request) (hs : s.state = .incomingCall) (hm : r.method = .cancel) :
      Ending profile s (.request r) .callEnded
  | bye (r : Request) (hs : s.state.isCall) (hm : r.method = .bye) :
      Ending profile s (.request r) .callEnded
  /-- The acknowledgement arrives, and the peer has never described its media. -/
  | undescribed (r : Request) (hs : s.state = .incomingCallAnswering) (hm : r.method = .ack) :
      Ending profile s (.request r) (.error .clientError "peer sdp is empty")
  /-- The own invitation is settled after it was cancelled. -/
  | cancelled (r : Response) (hs : s.state = .outgoingCallCanceling) (hm : r.method = .invite)
      (hr : isSuccess r.status ∨ r.status = 487) :
      Ending profile s (.response r) .callEnded
  | rejected (r : Response)
      (hs : s.state.isOutgoing ∨ s.state = .inCallChanging ∨ s.state = .inCallChangingCanceling) :
      Ending profile s (.response r) (s.rejectionNotice r)
  | registrationTimedOut (t : TransactionEnd) (hs : s.state.isRegistration)
      (ht : s.isCurrentClient t.transaction ∨ s.isCurrentServer t.transaction) :
      Ending profile s (.timeout t) .registrationTimeout
  | callTimedOut (t : TransactionEnd) (hs : s.state.isCall)
      (ht : s.isCurrentClient t.transaction ∨ s.isCurrentServer t.transaction) :
      Ending profile s (.timeout t) (.error .timeOut "timed out")
  | transactionTerminated (t : TransactionEnd) (hs : s.state.awaitsFinalResponse)
      (hserver : t.isServer = false) (ht : s.isCurrentClient t.transaction) :
      Ending profile s (.transactionTerminated t)
        (failureNotice s.state.isRegistration .transactionTerminated "transaction terminated")
  | dialogTerminated (d : Dialog) (hs : s.state ≠ .ready) (hd : s.isCurrentDialog d) :
      Ending profile s (.dialogTerminated d)
        (failureNotice s.state.isRegistration .clientError "dialog terminated")
  | connectionLost (hs : s.state ≠ .ready) :
      Ending profile s .connectionLost
        (failureNotice s.state.isRegistration .dataConnectionLost "data connection lost")

/-- What a session that owns a dialog can do with an event, once the dialog that the event carries
has been attached to it. -/
inductive Reaction (R : Promise) (profile : Profile) (s : Session) (e : SessionEvent) :
    Outcome → Prop where
  | refused : Reaction R profile s e s.refused
  | consumed : Reaction R profile s e s.consumed
  | ended {notice : Notice} (h : s.Ending profile e notice) :
      Reaction R profile s e (s.finished notice)
  | registers (expiry : UInt32) (next : SessionState) (tag : Tag) (t : ClientTransaction)
      (hs : s.state = .ready) (he : e.isRegistration) (hnext : next.isRegistration)
      (ht : R (.register profile tag expiry) t) :
      Reaction R profile s e
        ⟨{ s.withKey t.callId with clientTransaction := some t, authRetries := 0, state := next },
          true, [⟨s.id, .registering⟩], s.rebound t.callId, none⟩
  | calls (callee : Uri) (offer : Octets) (tag : Tag) (t : ClientTransaction) (d : Dialog)
      (hs : s.state = .ready) (he : e = .makeCall callee offer)
      (ht : R (.invite profile callee offer tag) (t, d)) :
      Reaction R profile s e
        ⟨{ s.withKey t.callId with
            peer := some (.ofUri callee), localDescription := some offer, dialog := some d,
            clientTransaction := some t, authRetries := 0, state := .outgoingCall },
          true, [⟨s.id, .calling⟩], s.rebound t.callId, none⟩
  | challenged (r : Response) (t : ClientTransaction)
      (hs : s.state.challengeable = some r.method) (he : e = .response r)
      (hr : isChallenge r.status) (hretries : s.authRetries < maxAuthRetries)
      (ht : R (.authenticate r profile.credentials) t) :
      Reaction R profile s e
        ⟨{ s.withKey t.callId with
            authRetries := s.authRetries + 1, clientTransaction := some t },
          true, [], s.rebound t.callId, none⟩
  | alerted (r : Response) (hs : s.state = .outgoingCall) (he : e = .response r) :
      Reaction R profile s e
        (({ s with state := .outgoingCallRingBack } : Session).telling .ringingBack)
  | answered (r : Response)
      (hs : s.state = .outgoingCall ∨ s.state = .outgoingCallRingBack) (he : e = .response r)
      (hr : isSuccess r.status) :
      Reaction R profile s e ({ s with peerDescription := some r.body } : Session).established
  | cancelsCall (hs : s.state = .outgoingCall ∨ s.state = .outgoingCallRingBack)
      (he : e = .endCall) :
      Reaction R profile s e ({ s with state := .outgoingCallCanceling } : Session).consumed
  | accepts (invite : Request) (answer : Octets) (tag : Tag) (d : Dialog)
      (hs : s.state = .incomingCall) (hinvite : s.invite = some invite)
      (he : e = .answerCall answer)
      (hd : R (.acceptInvite invite profile answer tag
        (s.serverTransaction.getD invite.serverTransaction)) d) :
      Reaction R profile s e
        ({ s with
            dialog := some d,
            serverTransaction := some (s.serverTransaction.getD invite.serverTransaction),
            localDescription := some answer, state := .incomingCallAnswering } : Session).consumed
  | confirmed (r : Request) (hs : s.state = .incomingCallAnswering) (he : e = .request r)
      (hm : r.method = .ack) (hr : (s.capturing r.body).peerDescription ≠ none) :
      Reaction R profile s e (s.capturing r.body).established
  | acceptsChange (r : Request) (tag : Tag) (d : Dialog) (hs : s.state = .inCall)
      (he : e = .request r) (hm : r.method = .invite)
      (hd : R (.acceptInvite r profile (s.localDescription.getD []) tag r.serverTransaction) d) :
      Reaction R profile s e
        (({ s.capturing r.body with
            dialog := some d, invite := some r, serverTransaction := some r.serverTransaction,
            state := .inCallAnswering } : Session).telling (.callChanged r.body))
  | changeConfirmed (r : Request) (hs : s.state = .inCallAnswering) (he : e = .request r)
      (hm : r.method = .ack) :
      Reaction R profile s e
        ({ s.capturing r.body with invite := none, state := .inCall } : Session).consumed
  | startsChange (offer : Octets) (dialog : Dialog) (t : ClientTransaction)
      (hs : s.state = .inCall) (hd : s.dialog = some dialog)
      (he : e = .changeCall offer ∨ ∃ peer, e = .makeCall peer offer)
      (ht : R (.reinvite dialog offer) t) :
      Reaction R profile s e
        ({ s with
            clientTransaction := some t, authRetries := 0, localDescription := some offer,
            state := .inCallChanging } : Session).consumed
  | changed (r : Response)
      (hs : s.state = .inCallChanging ∨ s.state = .inCallChangingCanceling)
      (he : e = .response r) (hr : isSuccess r.status) :
      Reaction R profile s e (s.capturing r.body).established
  | cancelsChange (hs : s.state = .inCallChanging) (he : e = .endCall) :
      Reaction R profile s e ({ s with state := .inCallChangingCanceling } : Session).consumed
  | keepsCall (r : Response) (hs : s.state = .inCallChangingCanceling) (he : e = .response r) :
      Reaction R profile s e ({ s with state := .inCall } : Session).consumed

/-- A reaction to replies of one kind is a reaction to replies of a wider kind. -/
lemma Reaction.mono {R' : Promise} (hR : ∀ c reply, R c reply → R' c reply) {o : Outcome}
    (h : Reaction R profile s e o) : Reaction R' profile s e o := by
  cases h with
  | refused => exact .refused
  | consumed => exact .consumed
  | ended h => exact .ended h
  | registers expiry next tag t hs he hnext ht =>
    exact .registers expiry next tag t hs he hnext (hR _ _ ht)
  | calls callee offer tag t d hs he ht => exact .calls callee offer tag t d hs he (hR _ _ ht)
  | challenged r t hs he hr hretries ht => exact .challenged r t hs he hr hretries (hR _ _ ht)
  | alerted r hs he => exact .alerted r hs he
  | answered r hs he hr => exact .answered r hs he hr
  | cancelsCall hs he => exact .cancelsCall hs he
  | accepts invite answer tag d hs hinvite he hd =>
    exact .accepts invite answer tag d hs hinvite he (hR _ _ hd)
  | confirmed r hs he hm hr => exact .confirmed r hs he hm hr
  | acceptsChange r tag d hs he hm hd => exact .acceptsChange r tag d hs he hm (hR _ _ hd)
  | changeConfirmed r hs he hm => exact .changeConfirmed r hs he hm
  | startsChange offer dialog t hs hd he ht =>
    exact .startsChange offer dialog t hs hd he (hR _ _ ht)
  | changed r hs he hr => exact .changed r hs he hr
  | cancelsChange hs he => exact .cancelsChange hs he
  | keepsCall r hs he => exact .keepsCall r hs he

/-- What becomes of a session when it has heard nothing from the network. -/
abbrev Silent (profile : Profile) (s : Session) (e : SessionEvent) (o : Outcome) : Prop :=
  Reaction (fun _ _ => False) profile s e o

lemma Silent.reaction {o : Outcome} (h : Silent profile s e o) : Reaction R profile s e o :=
  Reaction.mono (fun _ _ h => h.elim) h

/-! ### The dialog that an event carries -/

@[simp] lemma attaching_id (s : Session) (e : SessionEvent) : (s.attaching e).id = s.id := by
  unfold attaching; split <;> rfl

@[simp] lemma attaching_role (s : Session) (e : SessionEvent) :
    (s.attaching e).role = s.role := by
  unfold attaching; split <;> rfl

@[simp] lemma attaching_state (s : Session) (e : SessionEvent) :
    (s.attaching e).state = s.state := by
  unfold attaching; split <;> rfl

@[simp] lemma attaching_key (s : Session) (e : SessionEvent) : (s.attaching e).key = s.key := by
  unfold attaching; split <;> rfl

/-! ### What no reaction changes -/

section Capturing

variable (s : Session) (body : Octets)

@[simp] lemma capturing_id : (s.capturing body).id = s.id := by unfold capturing; split <;> rfl

@[simp] lemma capturing_role : (s.capturing body).role = s.role := by
  unfold capturing; split <;> rfl

@[simp] lemma capturing_state : (s.capturing body).state = s.state := by
  unfold capturing; split <;> rfl

@[simp] lemma capturing_key : (s.capturing body).key = s.key := by unfold capturing; split <;> rfl

end Capturing

lemma Reaction.session_id {o : Outcome} (h : Reaction R profile s e o) : o.session.id = s.id := by
  cases h with
  | confirmed | acceptsChange | changeConfirmed | changed => exact capturing_id s _
  | _ => rfl

lemma Reaction.session_role {o : Outcome} (h : Reaction R profile s e o) :
    o.session.role = s.role := by
  cases h with
  | confirmed | acceptsChange | changeConfirmed | changed => exact capturing_role s _
  | _ => rfl

lemma Reaction.spawned_eq_none {o : Outcome} (h : Reaction R profile s e o) : o.spawned = none := by
  cases h <;> rfl

lemma Reaction.reports_session {o : Outcome} (h : Reaction R profile s e o) :
    ∀ report ∈ o.reports, report.session = s.id := by
  have hone : ∀ notice, ∀ report ∈ [(⟨s.id, notice⟩ : Report)], report.session = s.id := by
    rintro notice report (_ | ⟨_, ⟨⟩⟩)
    rfl
  cases h with
  | refused | consumed | challenged | cancelsCall | accepts | changeConfirmed | startsChange
  | cancelsChange | keepsCall => nofun
  | ended | registers | calls | alerted | answered => exact hone _
  | confirmed r | acceptsChange r | changed r =>
    have hid := capturing_id s r.body
    rw [← hid] at hone
    exact hid ▸ hone _

end Session

end SipAgent
