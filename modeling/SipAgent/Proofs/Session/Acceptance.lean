import SipAgent.Proofs.Session.Process

/-!
# The commands that a session accepts

Which commands a session accepts depends on its state only, `SessionEvent.acceptingStates`, as long
as the session has what its state is about: a call has a dialog, and an invitation that waits for
the user is kept. No event ever takes these away, `Equipped.process`, whatever the network replies.
A command that is not accepted asks nothing of the network and leaves the session alone,
`process_of_not_accepts`; one that is accepted counts as consumed even if the network fails.
-/

namespace SipAgent

/-- The states in which a session accepts a command. -/
def SessionEvent.acceptingStates : SessionEvent → List SessionState
  | .makeCall .. => [.ready, .inCall]
  | .answerCall _ => [.incomingCall]
  | .changeCall _ => [.inCall]
  | .register _ => [.ready]
  | .deregister => [.ready]
  | .endCall =>
    [.incomingCall, .incomingCallAnswering, .outgoingCall, .outgoingCallRingBack, .inCall,
      .inCallAnswering, .inCallChanging]
  | _ => []

/-- A registration is no call. -/
lemma SessionState.not_isCall_of {state : SessionState} (h : state.isRegistration) :
    ¬ state.isCall := by
  revert h
  cases state <;> decide

namespace Session

variable {σ : Type} {R : Promise} {profile : Profile} {fresh : SessionId} {s t : Session}
  {e : SessionEvent}

/-- The session accepts the command: it owns a dialog, and its state is one that the table lists. -/
def Accepts (s : Session) (e : SessionEvent) : Prop :=
  s.role = .dialog ∧ s.state ∈ e.acceptingStates

instance (s : Session) (e : SessionEvent) : Decidable (s.Accepts e) :=
  inferInstanceAs (Decidable (_ ∧ _))

/-! ### What a state cannot do without -/

/-- A call has a dialog, and an invitation that waits for the user is kept. -/
structure Equipped (s : Session) : Prop where
  dialog : s.state.isCall → s.dialog.isSome
  invite : s.state = .incomingCall → s.invite.isSome

lemma equipped_idle (id : SessionId) (role : Role) : (idle id role).Equipped :=
  ⟨nofun, nofun⟩

/-- A session in a state without an invitation that waits needs nothing but a dialog. -/
lemma Equipped.of_dialog (hdialog : s.dialog.isSome) (hstate : s.state ≠ .incomingCall) :
    s.Equipped :=
  ⟨fun _ => hdialog, fun h => absurd h hstate⟩

/-- The dialog of a call goes on with it. -/
lemma Equipped.dialog_of (hs : s.Equipped) {state : SessionState} (hstate : s.state = state)
    (hcall : state.isCall) : s.dialog.isSome :=
  hs.dialog (hstate ▸ hcall)

@[simp] lemma capturing_dialog (s : Session) (body : Octets) :
    (s.capturing body).dialog = s.dialog := by
  unfold capturing
  split <;> rfl

lemma Equipped.attaching (hs : s.Equipped) (e : SessionEvent) : (s.attaching e).Equipped := by
  unfold Session.attaching
  split
  · exact ⟨fun _ => rfl, hs.invite⟩
  · exact hs

/-- No reaction takes away what the next state is about. -/
lemma Reaction.equipped {o : Outcome} (h : Reaction R profile s e o) (hs : s.Equipped) :
    o.session.Equipped := by
  cases h with
  | refused | consumed => exact hs
  | ended => exact equipped_idle _ _
  | registers expiry next tag t hstate he hnext =>
    refine ⟨fun hcall => absurd hcall (SessionState.not_isCall_of hnext), fun hcoming => ?_⟩
    obtain rfl : next = .incomingCall := hcoming
    cases hnext
  | calls | accepts | acceptsChange => exact .of_dialog rfl nofun
  | challenged => exact ⟨hs.dialog, hs.invite⟩
  | alerted r hstate => exact .of_dialog (hs.dialog_of hstate rfl) nofun
  | answered r hstate | cancelsCall hstate =>
    rcases hstate with hstate | hstate <;> exact .of_dialog (hs.dialog_of hstate rfl) nofun
  | confirmed r hstate | changeConfirmed r hstate =>
    exact .of_dialog ((capturing_dialog s r.body).symm ▸ hs.dialog_of hstate rfl) nofun
  | startsChange offer dialog t hstate | cancelsChange hstate | keepsCall r hstate =>
    exact .of_dialog (hs.dialog_of hstate rfl) nofun
  | changed r hstate =>
    rcases hstate with hstate | hstate <;>
      exact .of_dialog ((capturing_dialog s r.body).symm ▸ hs.dialog_of hstate rfl) nofun

/-- No event takes away what the next state is about, whatever the network replies. -/
theorem Equipped.process [Transport σ] (hs : s.Equipped) (hrole : s.role = .dialog)
    (profile : Profile) (fresh : SessionId) (e : SessionEvent) (net : σ) :
    (s.process profile fresh e net).1.session.Equipped := by
  rcases reaction_process (Promise.nothing_keptBy σ) profile fresh hrole e net with h | ⟨cause, h⟩
  · exact h.equipped (hs.attaching e)
  · rw [h]
    exact equipped_idle _ _

/-- A session that takes an invitation in keeps it, and has a dialog. -/
lemma equipped_takingIn (fresh : SessionId) (r : Request) (tag : Tag) (t : ServerTransaction) :
    (takingIn fresh r tag t).Equipped :=
  ⟨fun _ => rfl, fun _ => rfl⟩

/-! ### Commands that are accepted -/

/-- Whoever gets through has consumed the event. -/
def Consumes : Except TransportError Outcome → Prop
  | .ok o => o.processed
  | .error _ => True

lemma consumes_refused (cause : TransportError) : Consumes (.error cause) :=
  trivial

lemma attaching_of_isCommand (he : e.isCommand) : s.attaching e = s := by
  cases e <;> first | rfl | cases he

/-- The rules of every state are not about commands. -/
lemma commonRule_of_isCommand (he : e.isCommand) : s.commonRule e = none := by
  cases e <;> first | rfl | cases he

/-- A session that has what its state is about has a rule for a command exactly in the states that
the table lists. -/
lemma isSome_stateRule (hs : s.Equipped) (he : e.isCommand) :
    (s.stateRule profile e).isSome = e.acceptingStates.elem s.state := by
  have hinvite := fun h => Option.isSome_iff_exists.mp (hs.invite h)
  have hdialog := fun h => Option.isSome_iff_exists.mp (hs.dialog h)
  unfold stateRule
  cases hstate : s.state with
  | incomingCall =>
    obtain ⟨invite, hinvite⟩ := hinvite hstate
    unfold incomingCallRule
    rw [hinvite]
    cases e with
    | makeCall | answerCall | changeCall | endCall | register | deregister => rfl
    | _ => cases he
  | inCall =>
    obtain ⟨dialog, hdialog⟩ := hdialog (by rw [hstate]; rfl)
    unfold inCallRule startChange
    rw [hdialog]
    cases e with
    | makeCall | answerCall | changeCall | endCall | register | deregister => rfl
    | _ => cases he
  | _ =>
    cases e with
    | makeCall | answerCall | changeCall | endCall | register | deregister => rfl
    | _ => cases he

lemma isSome_stateRule_iff (hs : s.Equipped) (he : e.isCommand) :
    (s.stateRule profile e).isSome ↔ s.state ∈ e.acceptingStates := by
  rw [isSome_stateRule hs he, List.elem_iff]

lemma consumes_done {o : Outcome} (h : o.processed) : (Script.done o).Meets R Consumes :=
  h

lemma consumes_acceptCall (invite : Request) (answer : Octets) :
    (s.acceptCall profile invite answer).Meets R Consumes := by
  unfold acceptCall
  exact meets_withLocalTag (fun tag => .send consumes_refused fun d _ => consumes_done rfl) s

lemma consumes_startChange {offer : Octets} {script : Script Outcome}
    (h : s.startChange offer = some script) : script.Meets R Consumes := by
  unfold startChange at h
  split at h
  · cases h
  · cases h
    exact .send consumes_refused fun _ _ => consumes_done rfl

lemma consumes_hangUp : (s.hangUp (.done (s.finished .callEnded))).Meets R Consumes :=
  meets_hangUp consumes_refused (consumes_done rfl) s

lemma consumes_cancelRequest (state : SessionState) :
    (s.cancelRequest (.done ({ s with state := state } : Session).consumed)).Meets R Consumes :=
  meets_cancelRequest consumes_refused (consumes_done rfl) s

/-- A rule for a command never refuses it. -/
lemma consumes_stateRule (he : e.isCommand) {script : Script Outcome}
    (h : s.stateRule profile e = some script) : script.Meets R Consumes := by
  cases hstate : s.state with
  | ready =>
    simp only [stateRule, hstate] at h
    cases e with
    | makeCall | register | deregister =>
      cases h
      exact fun tag => .send consumes_refused fun _ _ => consumes_done rfl
    | _ => cases h
  | registering | deregistering | outgoingCallCanceling | inCallChangingCanceling =>
    simp only [stateRule, hstate] at h
    cases e with
    | response => cases he
    | _ => cases h
  | outgoingCall | outgoingCallRingBack | inCallChanging =>
    simp only [stateRule, hstate] at h
    cases e with
    | endCall =>
      cases h
      exact consumes_cancelRequest _
    | response => cases he
    | _ => cases h
  | incomingCallAnswering | inCallAnswering =>
    simp only [stateRule, hstate] at h
    cases e with
    | endCall =>
      cases h
      exact consumes_hangUp
    | request => cases he
    | _ => cases h
  | incomingCall =>
    cases hinvite : s.invite with
    | none => simp [stateRule, hstate, incomingCallRule, hinvite] at h
    | some invite =>
      simp only [stateRule, hstate, incomingCallRule, hinvite] at h
      cases e with
      | answerCall answer =>
        cases h
        exact consumes_acceptCall invite answer
      | endCall =>
        cases h
        exact meets_respond consumes_refused (consumes_done rfl) invite 486
      | request => cases he
      | _ => cases h
  | inCall =>
    simp only [stateRule, hstate, inCallRule] at h
    cases e with
    | makeCall | changeCall => exact consumes_startChange h
    | endCall =>
      cases h
      exact consumes_hangUp
    | request => cases he
    | _ => cases h

/-! ### What becomes of a command -/

lemma dialogScript_of_isCommand (he : e.isCommand) :
    s.dialogScript profile e = (s.stateRule profile e).getD (.done s.refused) := by
  simp only [dialogScript, attaching_of_isCommand he, commonRule_of_isCommand he]
  cases s.stateRule profile e <;> rfl

/-- A command that is not accepted asks nothing of the network, and the session refuses it. -/
theorem script_of_not_accepts (hs : s.role = .dialog → s.Equipped) (he : e.isCommand)
    (h : ¬ s.Accepts e) : s.script profile fresh e = .done s.refused := by
  cases hrole : s.role with
  | receiver =>
    rw [script_of_receiver hrole]
    cases e with
    | request => cases he
    | _ => rfl
  | dialog =>
    have hnone : s.stateRule profile e = none := by
      rw [← Option.not_isSome_iff_eq_none, isSome_stateRule_iff (hs hrole) he]
      exact fun hstate => h ⟨hrole, hstate⟩
    rw [script_of_dialog hrole, dialogScript_of_isCommand he, hnone]
    rfl

/-- A command that is accepted counts as consumed, even if the network fails. -/
theorem processed_of_accepts [Transport σ] (hs : s.role = .dialog → s.Equipped)
    (he : e.isCommand) (h : s.Accepts e) (net : σ) :
    (s.process profile fresh e net).1.processed := by
  obtain ⟨hrole, hstate⟩ := h
  have hsome : (s.stateRule profile e).isSome := (isSome_stateRule_iff (hs hrole) he).mpr hstate
  obtain ⟨script, hscript⟩ := Option.isSome_iff_exists.mp hsome
  have hconsumes := (consumes_stateRule he hscript).run (Promise.nothing_keptBy σ) net
  rw [process_fst, script_of_dialog hrole, dialogScript_of_isCommand he, hscript, Option.getD_some]
  cases hrun : (script.run net).1 with
  | error cause => rfl
  | ok o =>
    rw [hrun] at hconsumes
    exact hconsumes

end Session

end SipAgent
