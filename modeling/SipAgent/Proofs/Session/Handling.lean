import SipAgent.Proofs.Session.Enacting

/-!
# Events handled in place follow the rules

`Workspace.handle` overwrites fields, gathers effects and gives commands in one go;
`Session.process` runs a script and takes its outcome. The theorem `Workspace.handle_eq` says that
they do the same: for every rule, whenever a command is refused, the session is still what it was,
and nothing has been gathered yet.
-/

namespace SipAgent

variable {σ : Type} [Transport σ] {w : Workspace σ} {profile : Profile} {e : SessionEvent}

namespace Procedure

variable {α : Type} {value : α}

/-! ### Steps that rules share -/

lemma enacts_handleAuthentication (r : Response) :
    Enacts w (w.session.authenticate profile r) () (handleAuthentication profile r w) := by
  rw [handleAuthentication, session_bind_apply, Session.authenticate]
  split
  · exact enacts_done rfl (Workspace.fail_eq _ _)
  rcases Session.foreignRealm? profile r with _ | realm
  · apply enacts_command
    intro reply net
    apply enacts_done rfl
    simp only [Workspace.bindKey_eq]
    exact Workspace.eq_after rfl (List.append_nil _).symm rfl (List.append_nil _).symm
  · exact enacts_done rfl (Workspace.fail_eq _ _)

lemma enacts_startRegistration (expiry : UInt32) (next : SessionState) :
    Enacts w (w.session.startRegistration profile expiry next) ()
      (startRegistration profile expiry next w) := by
  apply enacts_freshTag
  intro tag net
  apply enacts_command
  intro reply net
  apply enacts_done rfl
  simp only [Workspace.bindKey_eq]
  exact Workspace.eq_after rfl rfl rfl (List.append_nil _).symm

lemma enacts_failWith (r : Response) :
    Enacts w (.done (w.session.failedWith r)) () (.ok () (w.failWith r)) := by
  refine enacts_done ?_ (Workspace.failWith_eq r)
  unfold Session.failedWith
  split <;> rfl

lemma enacts_terminate (r : Response) :
    Enacts w (w.session.abandonDialog (.done (w.session.failedWith r))) ()
      (.ok () (w.terminate r)) :=
  enacts_giveUpDialog fun _ => enacts_failWith r

lemma enacts_completeChange (r : Response) :
    Enacts w (w.session.completeChange r) () (completeChange r w) := by
  apply enacts_sendAck
  intro net
  apply enacts_done rfl
  simp only [Workspace.capture_eq]
  exact Workspace.eq_after rfl rfl (List.append_nil _).symm (List.append_nil _).symm

/-! ### Rules by state -/

lemma follows_ready : Follows w (w.session.readyRule profile e) (ready profile e w) := by
  cases e with
  | makeCall callee offer =>
    apply enacts_freshTag
    intro tag net
    apply enacts_command
    intro reply net
    apply enacts_done rfl
    simp only [Workspace.bindKey_eq]
    exact Workspace.eq_after rfl rfl rfl (List.append_nil _).symm
  | register expiry => exact (enacts_startRegistration expiry .registering).consumed
  | deregister => exact (enacts_startRegistration 0 .deregistering).consumed
  | _ => rfl

lemma enacts_registrationResponse (r : Response) :
    Enacts w (w.session.registrationResponse profile r) () (registrationResponse profile r w) := by
  rw [registrationResponse, Session.registrationResponse]
  split_ifs
  · exact enacts_done rfl (Workspace.eq_after_consumed rfl rfl)
  · exact enacts_done rfl (Workspace.reset_notify _)
  · exact enacts_handleAuthentication r
  · exact enacts_done rfl (Workspace.fail_eq _ _)
  · exact enacts_done rfl (Workspace.fail_eq _ _)

lemma follows_registering :
    Follows w (w.session.registeringRule profile e) (registering profile e w) := by
  cases e with
  | response r =>
    rw [registering, Session.registeringRule]
    split
    · exact (enacts_registrationResponse r).consumed
    · rfl
  | _ => rfl

lemma enacts_answerCall (invite : Request) (answer : Octets) :
    Enacts w (w.session.acceptCall profile invite answer) ()
      (answerCall profile invite answer w) := by
  rw [answerCall, session_bind_apply]
  unfold Session.acceptCall
  apply enacts_localTag
  intro tag net
  apply enacts_command
  intro reply net
  exact enacts_done rfl (Workspace.eq_after_consumed rfl rfl)

lemma enacts_endCall : Enacts w (.done (w.session.finished .callEnded)) true (.ok true w.endCall) :=
  enacts_done rfl Workspace.endCall_eq

lemma follows_incomingCall :
    Follows w (w.session.incomingCallRule profile e) (incomingCall profile e w) := by
  rw [incomingCall, session_bind_apply]
  unfold Session.incomingCallRule
  rcases w.session.invite with _ | invite
  · rfl
  cases e with
  | answerCall answer => exact (enacts_answerCall invite answer).consumed
  | endCall =>
    apply enacts_sendResponse
    intro net
    exact enacts_endCall
  | request r =>
    dsimp only
    split
    · apply enacts_sendResponse
      intro net
      apply enacts_sendResponse
      intro net
      exact enacts_endCall
    · rfl
  | _ => rfl

lemma enacts_confirmCall (r : Request) :
    Enacts w (.done (w.session.confirmCall r)) () (confirmCall r w) := by
  rw [confirmCall, modify_bind_apply, session_bind_apply, Workspace.capture_eq,
    Session.confirmCall]
  dsimp only
  split
  · exact enacts_done rfl (Workspace.fail_eq _ _)
  · exact enacts_done rfl Workspace.establishCall_eq

lemma enacts_hangUp : Enacts w (w.session.hangUp (.done (w.session.finished .callEnded))) true
    ((do sendBye; modify Workspace.endCall; return true) w) := by
  apply enacts_sendBye
  intro net
  exact enacts_endCall

/-- A request is answered, and nothing else happens. -/
lemma enacts_settle (r : Request) (status : UInt16) :
    Enacts w (Session.respond r status (.done w.session.consumed)) true
      ((do sendResponse r status; return true) w) := by
  apply enacts_sendResponse
  intro net
  exact enacts_done rfl (Workspace.eq_after_consumed rfl rfl)

lemma follows_incomingCallAnswering :
    Follows w (w.session.incomingCallAnsweringRule e) (incomingCallAnswering e w) := by
  cases e with
  | request r =>
    rw [incomingCallAnswering, Session.incomingCallAnsweringRule]
    split_ifs
    · exact (enacts_confirmCall r).consumed
    · exact enacts_settle r 200
    · rfl
  | endCall => exact enacts_hangUp
  | _ => rfl

/-- An event is consumed, and nothing else happens. -/
lemma enacts_nothing : Enacts w (.done w.session.consumed) value (.ok value w) :=
  enacts_done rfl (Workspace.eq_after_consumed rfl rfl)

lemma enacts_inviteResponse (r : Response) :
    Enacts w (w.session.inviteResponse profile r) () (inviteResponse profile r w) := by
  unfold inviteResponse Session.inviteResponse
  split
  · rw [session_bind_apply]
    split
    · exact enacts_done rfl
        (Workspace.eq_after rfl rfl (List.append_nil _).symm (List.append_nil _).symm)
    · exact enacts_nothing
  split
  · exact enacts_nothing
  split
  · apply enacts_sendAck
    intro net
    exact enacts_done rfl Workspace.establishCall_eq
  split
  · exact enacts_handleAuthentication r
  split
  · exact enacts_nothing
  · exact enacts_failWith r

lemma follows_outgoingCall :
    Follows w (w.session.outgoingCallRule profile e) (outgoingCall profile e w) := by
  cases e with
  | response r =>
    rw [outgoingCall, Session.outgoingCallRule]
    split
    · exact (enacts_inviteResponse r).consumed
    · rfl
  | endCall =>
    apply enacts_sendCancel
    intro net
    exact enacts_done rfl (Workspace.eq_after_consumed rfl rfl)
  | _ => rfl

lemma enacts_cancelledInviteResponse (r : Response) :
    Enacts w (w.session.cancelledInviteResponse r) () (cancelledInviteResponse r w) := by
  unfold cancelledInviteResponse Session.cancelledInviteResponse
  split
  · exact enacts_nothing
  split
  · apply enacts_sendAck
    intro net
    apply enacts_sendBye
    intro net
    exact enacts_done rfl Workspace.endCall_eq
  split
  · exact enacts_done rfl Workspace.endCall_eq
  · exact enacts_failWith r

lemma follows_cancelResponse (r : Response) :
    Follows w (if 400 ≤ r.status then some (.done (w.session.failedWith r))
      else some (.done w.session.consumed)) ((do cancelResponse r; return true) w) := by
  unfold cancelResponse
  split
  · have hfails : Enacts w (.done (w.session.failedWith r)) ()
        ((modify (Workspace.failWith r) : Procedure σ Unit) w) := enacts_failWith r
    exact hfails.consumed
  · exact enacts_nothing

lemma follows_outgoingCallCanceling :
    Follows w (w.session.outgoingCallCancelingRule e) (outgoingCallCanceling e w) := by
  cases e with
  | response r =>
    rw [outgoingCallCanceling, Session.outgoingCallCancelingRule]
    split
    · exact follows_cancelResponse r
    split
    · exact (enacts_cancelledInviteResponse r).consumed
    · rfl
  | _ => rfl

lemma enacts_acceptChange (r : Request) :
    Enacts w (w.session.acceptChange profile r) () (acceptChange profile r w) := by
  rw [acceptChange, session_bind_apply]
  unfold Session.acceptChange
  apply enacts_localTag
  intro tag net
  apply enacts_command
  intro reply net
  apply enacts_done rfl
  simp only [Workspace.capture_eq]
  exact Workspace.eq_after rfl rfl (List.append_nil _).symm (List.append_nil _).symm

lemma follows_startChange (offer : Octets) :
    Follows w (w.session.startChange offer) (startChange offer w) := by
  rw [startChange, session_bind_apply, Session.startChange]
  cases hdialog : w.session.dialog with
  | none => rfl
  | some dialog =>
    apply enacts_command
    intro reply net
    exact enacts_done rfl (Workspace.eq_after_consumed (by rw [← hdialog]; rfl) rfl)

lemma follows_inCall : Follows w (w.session.inCallRule profile e) (inCall profile e w) := by
  cases e with
  | endCall => exact enacts_hangUp
  | request r =>
    rw [inCall, Session.inCallRule]
    split_ifs
    · exact (enacts_acceptChange r).consumed
    · apply enacts_sendResponse
      intro net
      exact enacts_endCall
    · rfl
  | makeCall peer offer => exact follows_startChange offer
  | changeCall offer => exact follows_startChange offer
  | _ => rfl

lemma follows_inCallAnswering :
    Follows w (w.session.inCallAnsweringRule e) (inCallAnswering e w) := by
  cases e with
  | request r =>
    rw [inCallAnswering, Session.inCallAnsweringRule]
    split
    · apply enacts_done rfl
      simp only [Workspace.capture_eq]
      exact Workspace.eq_after_consumed rfl rfl
    · rfl
  | endCall => exact enacts_hangUp
  | _ => rfl

lemma enacts_changeResponse (r : Response) :
    Enacts w (w.session.changeResponse profile r) () (changeResponse profile r w) := by
  unfold changeResponse Session.changeResponse
  split
  · exact enacts_nothing
  split
  · exact enacts_completeChange r
  split
  · exact enacts_handleAuthentication r
  split
  · exact enacts_terminate r
  · exact enacts_failWith r

lemma follows_inCallChanging :
    Follows w (w.session.inCallChangingRule profile e) (inCallChanging profile e w) := by
  cases e with
  | response r =>
    rw [inCallChanging, Session.inCallChangingRule]
    split
    · exact (enacts_changeResponse r).consumed
    · rfl
  | endCall =>
    apply enacts_sendCancel
    intro net
    exact enacts_done rfl (Workspace.eq_after_consumed rfl rfl)
  | _ => rfl

lemma enacts_cancelledChangeResponse (r : Response) :
    Enacts w (w.session.cancelledChangeResponse r) () (cancelledChangeResponse r w) := by
  unfold cancelledChangeResponse Session.cancelledChangeResponse
  split
  · exact enacts_nothing
  split
  · exact enacts_completeChange r
  split
  · exact enacts_terminate r
  · exact enacts_done rfl (Workspace.eq_after_consumed rfl rfl)

lemma follows_inCallChangingCanceling :
    Follows w (w.session.inCallChangingCancelingRule e) (inCallChangingCanceling e w) := by
  cases e with
  | response r =>
    rw [inCallChangingCanceling, Session.inCallChangingCancelingRule]
    split
    · exact enacts_nothing
    split
    · exact (enacts_cancelledChangeResponse r).consumed
    · rfl
  | _ => rfl

/-- The rules of every state are followed in place. -/
lemma follows_inState : Follows w (w.session.stateRule profile e) (inState profile e w) := by
  rw [inState, session_bind_apply, Session.stateRule]
  cases w.session.state with
  | ready => exact follows_ready
  | registering => exact follows_registering
  | deregistering => exact follows_registering
  | incomingCall => exact follows_incomingCall
  | incomingCallAnswering => exact follows_incomingCallAnswering
  | outgoingCall => exact follows_outgoingCall
  | outgoingCallRingBack => exact follows_outgoingCall
  | outgoingCallCanceling => exact follows_outgoingCallCanceling
  | inCall => exact follows_inCall
  | inCallAnswering => exact follows_inCallAnswering
  | inCallChanging => exact follows_inCallChanging
  | inCallChangingCanceling => exact follows_inCallChangingCanceling

/-! ### Rules for every state -/

lemma follows_strayRequest (r : Request) :
    Follows w (w.session.strayRequest r) (strayRequest r w) := by
  unfold strayRequest Session.strayRequest
  cases r.method with
  | bye =>
    dsimp only
    rw [session_bind_apply]
    split
    · apply enacts_sendResponse
      intro net
      exact enacts_endCall
    · exact enacts_settle r 481
  | cancel => exact enacts_settle r 481
  | options => exact enacts_settle r 200
  | invite =>
    dsimp only
    rw [session_bind_apply]
    split
    · rfl
    · exact enacts_settle r 486
  | ack => rfl
  | register => rfl

lemma enacts_timedOut : Enacts w (.done w.session.timedOut) value (.ok value
    (if w.session.state.isRegistration then w.reset.notify .registrationTimeout
      else if w.session.state = .ready then w
      else w.fail .timeOut "timed out")) := by
  unfold Session.timedOut
  split
  · exact enacts_done rfl (Workspace.reset_notify _)
  split
  · exact enacts_nothing
  · exact enacts_done rfl (Workspace.fail_eq _ _)

lemma enacts_timeOut :
    Enacts w (w.session.abandonDialog (.done w.session.timedOut)) () (.ok () w.timeOut) := by
  apply enacts_giveUpDialog
    (f := fun w => if w.session.state.isRegistration then w.reset.notify .registrationTimeout
      else if w.session.state = .ready then w
      else w.fail .timeOut "timed out")
  intro net
  exact enacts_timedOut

lemma follows_endTransaction :
    Follows w (if w.session.state.awaitsFinalResponse
      then some (.done (w.session.failed .transactionTerminated "transaction terminated"))
      else some (.done w.session.consumed)) ((do endTransaction; return true) w) := by
  rw [endTransaction, bind_assoc, session_bind_apply]
  split
  · exact enacts_done rfl (Workspace.fail_eq _ _)
  · exact enacts_nothing

lemma follows_endDialog (d : Dialog) :
    Follows w (if w.session.isCurrentDialog d && w.session.state ≠ .ready
      then some (.done (w.session.failed .clientError "dialog terminated"))
      else some (.done w.session.consumed)) ((do endDialog d; return true) w) := by
  rw [endDialog, bind_assoc, session_bind_apply]
  split
  · exact enacts_done rfl (Workspace.fail_eq _ _)
  · exact enacts_nothing

/-- The rules that hold in every state are followed in place. -/
lemma follows_exceptions : Follows w (w.session.commonRule e) (exceptions e w) := by
  cases e with
  | request r => exact follows_strayRequest r
  | timeout t =>
    rw [exceptions, session_bind_apply, Session.commonRule]
    split
    · exact enacts_timeOut.consumed
    · rfl
  | transactionTerminated t =>
    rw [exceptions, session_bind_apply, Session.commonRule]
    split
    · exact follows_endTransaction
    · rfl
  | dialogTerminated d => exact follows_endDialog d
  | connectionLost =>
    rw [exceptions, session_bind_apply, Session.commonRule]
    split
    · rfl
    · exact enacts_done rfl (Workspace.fail_eq _ _)
  | _ => rfl

/-! ### The machine -/

omit [Transport σ] in
lemma attach_apply : attach e w = .ok () (w.assign (·.attaching e)) := by
  unfold attach Session.attaching
  cases e.dialog? <;> rfl

lemma realizes_inDialog : Realizes (w.assign (·.attaching e)) (w.session.dialogScript profile e)
    (inDialog profile e w) := by
  have hstate : Follows (w.assign (·.attaching e))
      ((w.session.attaching e).stateRule profile e)
      (inState profile e (w.assign (·.attaching e))) := follows_inState
  have hcommon : Follows (w.assign (·.attaching e)) ((w.session.attaching e).commonRule e)
      (exceptions e (w.assign (·.attaching e))) := follows_exceptions
  have hscript : w.session.dialogScript profile e =
      (((w.session.attaching e).stateRule profile e).or
        ((w.session.attaching e).commonRule e)).getD
          (.done (w.session.attaching e).refused) := by
    unfold Session.dialogScript
    dsimp only
    cases (w.session.attaching e).stateRule profile e with
    | some script => rfl
    | none => cases (w.session.attaching e).commonRule e <;> rfl
  rw [hscript]
  have hattach : inDialog profile e w =
      (do if ← inState profile e then return true else exceptions e)
        (w.assign (·.attaching e)) := by
    change EStateM.bind (attach e) _ w = _
    rw [EStateM.bind, attach_apply]
  rw [hattach]
  exact (hstate.or hcommon).realizes

lemma enacts_onSession_freshTag {s : Session} {next : Tag → Script Outcome}
    {p : Tag → Procedure σ Unit} {k : Session → Procedure σ α}
    (h : ∀ tag net, Enacts (w.on net) (next tag) value ((onSession s (p tag) >>= k) (w.on net))) :
    Enacts w (.freshTag next) value ((onSession s (freshTag >>= p) >>= k) w) :=
  h _ _

/-- A command that another session gives is refused or carried out like an own one. -/
lemma enacts_onSession_command {s : Session} {c : Command} {next : c.Reply → Script Outcome}
    {p : c.Reply → Procedure σ Unit} {k : Session → Procedure σ α}
    (h : ∀ reply net,
      Enacts (w.on net) (next reply) value ((onSession s (p reply) >>= k) (w.on net))) :
    Enacts w (.send c next) value ((onSession s (command c >>= p) >>= k) w) := by
  have hbind : (onSession s (command c >>= p) >>= k) w =
      (command c >>= fun reply => onSession s (p reply) >>= k) w := by
    change EStateM.bind (onSession s (EStateM.bind (command c) p)) k w =
      EStateM.bind (command c) (fun reply => EStateM.bind (onSession s (p reply)) k) w
    simp only [EStateM.bind, onSession, command]
    rcases Transport.perform c w.network with ⟨cause | reply, net⟩ <;> rfl
  rw [hbind]
  exact enacts_command h

/-- A receiver is what it was after a new session has taken an invitation in. -/
lemma enacts_takeIn (fresh : SessionId) (r : Request) :
    Enacts w (w.session.takeIn fresh r) true
      ((do
        let incoming ← onSession (Session.idle fresh .dialog) (acceptInvite r)
        modify (Workspace.spawn incoming)
        return true) w) := by
  rw [acceptInvite]
  apply enacts_onSession_freshTag
  intro tag net
  apply enacts_onSession_command
  intro reply net
  apply enacts_done rfl
  simp only [Workspace.capture_eq, Workspace.bindKey_eq, Session.takingIn, Session.capturing]
  split <;> exact Workspace.eq_after rfl rfl rfl rfl

lemma realizes_asReceiver (fresh : SessionId) :
    Realizes w (w.session.receiverScript fresh e) (asReceiver fresh e w) := by
  cases e with
  | request r =>
    rw [Session.receiverScript, asReceiver]
    cases r.method with
    | invite => exact (enacts_takeIn fresh r).realizes
    | options => exact (enacts_settle r 200).realizes
    | cancel => exact (enacts_settle r 481).realizes
    | bye => exact (enacts_settle r 481).realizes
    | ack => exact realizes_refused
    | register => exact realizes_refused
  | _ => exact realizes_refused

/-- Whatever a session is for, it does in place what its script says. The dialog that a message
carries is attached to it first. -/
lemma realizes_inRole (fresh : SessionId) :
    ∃ w' : Workspace σ, (w' = w ∨ w' = w.assign (·.attaching e)) ∧
      Realizes w' (w.session.script profile fresh e) (inRole profile fresh e w) := by
  rw [inRole, session_bind_apply, Session.script]
  cases w.session.role with
  | dialog => exact ⟨_, .inr rfl, realizes_inDialog⟩
  | receiver => exact ⟨_, .inl rfl, realizes_asReceiver fresh⟩

end Procedure

namespace Workspace

omit [Transport σ] in
/-- The dialog that a message carries is of no concern when a command fails. -/
lemma failTransport_attaching (cause : TransportError) (net : σ) :
    ((w.assign (·.attaching e)).on net).failTransport e cause =
      w.after (w.session.transportFailed e cause) net := by
  rw [failTransport_eq]
  unfold assign Session.attaching
  cases e.dialog? <;> rfl

/-- A session that handles an event in place is where its script leads it, and what it has told,
changed and spawned is what the script ends with. -/
theorem handle_eq (profile : Profile) (fresh : SessionId) (e : SessionEvent) (w : Workspace σ) :
    w.handle profile fresh e =
      ((w.session.process profile fresh e w.network).1.processed,
        w.after (w.session.process profile fresh e w.network).1
          (w.session.process profile fresh e w.network).2) := by
  obtain ⟨w', hw, h⟩ : ∃ w' : Workspace σ, (w' = w ∨ w' = w.assign (·.attaching e)) ∧
      Procedure.Realizes w' (w.session.script profile fresh e)
        (Procedure.inRole profile fresh e w) :=
    Procedure.realizes_inRole fresh
  have hnetwork : w'.network = w.network := by rcases hw with rfl | rfl <;> rfl
  have hafter : ∀ o net, w'.after o net = w.after o net := by
    intro o net
    rcases hw with rfl | rfl <;> rfl
  have hfail : ∀ cause net, (w'.on net).failTransport e cause =
      w.after (w.session.transportFailed e cause) net := by
    intro cause net
    rcases hw with rfl | rfl
    · exact failTransport_eq cause
    · exact failTransport_attaching cause net
  unfold Procedure.Realizes at h
  rw [hnetwork] at h
  unfold handle Session.process
  rcases hrun : (w.session.script profile fresh e).run w.network with ⟨cause | o, net⟩ <;>
    rw [hrun] at h
  · rw [show Procedure.inRole profile fresh e w = .error cause (w'.on net) from h]
    exact congrArg (Prod.mk true) (hfail cause net)
  · rw [show Procedure.inRole profile fresh e w = .ok o.processed (w'.after o net) from h]
    exact congrArg (Prod.mk o.processed) (hafter o net)

end Workspace

end SipAgent
