import SipAgent.Proofs.Session.Registration
import SipAgent.Proofs.Session.Run

/-!
# Calls that are cancelled

The caller may hang up before the peer has answered, and then the cancellation races with whatever
the peer, the network and the user come up with. `cancelled_call_never_established` says that it
makes no difference who wins: the call never comes up, its listener is told once that it is over,
and a peer who has accepted it all the same is acknowledged and hung up on.
-/

namespace SipAgent

/-- The notice is the last one of a call. -/
def Notice.endsCall : Notice → Bool
  | .callEnded | .callBusy | .error .. => true
  | _ => false

namespace Session

variable {σ : Type} [Transport σ] {profile : Profile} {s : Session} {e : SessionEvent}
  {turn : Turn σ} {turns : List (Turn σ)}

/-- A call is over, and its listener is told so, once. -/
structure Closes (s : Session) (o : Outcome) : Prop where
  session : o.session = s.cleared
  told : ∃ notice, notice.endsCall ∧ o.reports = [⟨s.id, notice⟩]

/-- A call is still being cancelled, and nobody is told anything. -/
structure Lingers (s : Session) (o : Outcome) : Prop where
  state : o.session.state = .outgoingCallCanceling
  key : o.session.key = s.key
  told : o.reports = []

/-! ### One turn -/

lemma endsCall_failureNotice (code : ErrorCode) (message : String) :
    (failureNotice false code message).endsCall := rfl

/-- What ends a call is told as the end of a call. -/
lemma Ending.endsCall {notice : Notice} (h : s.Ending profile e notice)
    (hs : s.state.isRegistration = false) : notice.endsCall := by
  have hnever : ¬ s.state.isRegistration := by simp [hs]
  cases h with
  | granted r hreg | registrationRejected r code hreg | registrationTimedOut t hreg =>
    exact absurd hreg hnever
  | badCredentials | foreignRealm | transactionTerminated | dialogTerminated | connectionLost =>
    rw [hs]
    exact endsCall_failureNotice _ _
  | rejected r =>
    unfold rejectionNotice
    split
    · rfl
    · rw [hs]
      exact endsCall_failureNotice _ _
  | hungUp | withdrawn | bye | undescribed | cancelled | callTimedOut => rfl

lemma closes_finished {notice : Notice} (h : notice.endsCall) : s.Closes (s.finished notice) :=
  ⟨rfl, notice, h, rfl⟩

/-- The dialog that an event brings has no part in the end of a call. -/
lemma Closes.of_attaching {o : Outcome} (h : (s.attaching e).Closes o) : s.Closes o where
  session := by simpa [cleared] using h.session
  told := by simpa using h.told

lemma Lingers.of_attaching {o : Outcome} (h : (s.attaching e).Lingers o) : s.Lingers o where
  state := h.state
  key := h.key.trans (attaching_key s e)
  told := h.told

/-- Whatever happens to it, a call that is being cancelled goes on being cancelled, or is over. -/
lemma Reaction.lingers_or_closes {R : Promise} {o : Outcome} (h : Reaction R profile s e o)
    (hs : s.state = .outgoingCallCanceling) : s.Lingers o ∨ s.Closes o := by
  cases h with
  | refused | consumed => exact .inl ⟨hs, rfl, rfl⟩
  | ended hend => exact .inr (closes_finished (hend.endsCall (by rw [hs]; rfl)))
  | challenged r t hstate => rw [hs] at hstate; cases hstate
  | registers _ _ _ _ hstate | calls _ _ _ _ _ hstate | alerted _ hstate
  | accepts _ _ _ _ hstate | confirmed _ hstate | acceptsChange _ _ _ hstate
  | changeConfirmed _ hstate | startsChange _ _ _ hstate | cancelsChange hstate
  | keepsCall _ hstate =>
    rw [hs] at hstate
    cases hstate
  | answered _ hstate | cancelsCall hstate | changed _ hstate =>
    rw [hs] at hstate
    rcases hstate with hstate | hstate <;> cases hstate

/-- The same of a turn, even if the network refuses what the session asks for. -/
lemma lingers_or_closes (profile : Profile) (hrole : s.role = .dialog)
    (hs : s.state = .outgoingCallCanceling) (turn : Turn σ) :
    s.Lingers (s.outcome profile turn) ∨ s.Closes (s.outcome profile turn) := by
  rcases reacts_turn (Promise.nothing_keptBy σ) profile hrole turn with h | ⟨hidle, cause, h⟩
  · exact (h.lingers_or_closes ((attaching_state s turn.event).trans hs)).imp
      Lingers.of_attaching Closes.of_attaching
  · -- only a registration would fail in other words, and none is sent while a call is under way
    have hcall : turn.event.isRegistration = false := by
      rw [← Bool.not_eq_true]
      intro he
      rw [hidle he] at hs
      cases hs
    obtain ⟨code, message, hfailed⟩ := transportFailed_of_idle (by rw [hs, hcall]; rfl) cause
    rw [h, hfailed]
    exact .inr (closes_finished rfl)

/-- As long as it is not idle, a session that cancels its call goes on doing so under its key. -/
lemma after_lingering (hrole : s.role = .dialog) (hs : s.state = .outgoingCallCanceling)
    (h : s.Along profile (fun s turn => (s.outcome profile turn).session.state ≠ .ready) turns) :
    (s.after profile turns).state = .outgoingCallCanceling ∧
      (s.after profile turns).key = s.key := by
  have hkept := h.invariant
    (P := fun t => t.role = .dialog ∧ t.state = .outgoingCallCanceling ∧ t.key = s.key)
    ⟨hrole, hs, rfl⟩ ?_
  · exact hkept.2
  rintro t turn ⟨hrole, hs, hkey⟩ hready
  rcases lingers_or_closes profile hrole hs turn with h | h
  · exact ⟨after_role hrole profile [turn], h.state, h.key.trans hkey⟩
  · rw [h.session] at hready
    exact absurd rfl hready

/-! ### The peer accepts all the same -/

/-- A session whose call comes up although it is being cancelled acknowledges it and hangs up. -/
lemma dialogScript_of_lateSuccess (profile : Profile) (hs : s.state = .outgoingCallCanceling)
    {r : Response} (hm : r.method = .invite) (hr : isSuccess r.status) {d : Dialog}
    (hd : (s.attaching (.response r)).dialog = some d) :
    s.dialogScript profile (.response r) =
      .send (.acknowledge r d) fun _ => .send (.bye d) fun _ =>
        .done ((s.attaching (.response r)).finished .callEnded) := by
  simp [dialogScript, stateRule, hs, outgoingCallCancelingRule, hm, cancelledInviteResponse,
    not_isProvisional_of_isSuccess hr, hr, acknowledge, hangUp, hd]

/-- On a network that takes both commands, the session is idle again, and its listener knows. -/
lemma turn_of_lateSuccess (hrole : s.role = .dialog) (hs : s.state = .outgoingCallCanceling)
    {r : Response} (he : turn.event = .response r) (hm : r.method = .invite)
    (hr : isSuccess r.status) {d : Dialog}
    (hd : (s.attaching (.response r)).dialog = some d)
    (hnet : ∀ call ∈ s.asked profile turn, call.refused = none) :
    s.asked profile turn = [⟨.acknowledge r d, none⟩, ⟨.bye d, none⟩] ∧
      (s.outcome profile turn).session = s.cleared ∧
      (s.outcome profile turn).reports = [⟨s.id, .callEnded⟩] := by
  have hscript := dialogScript_of_lateSuccess profile hs hm hr hd
  have hnet' : Unrefused (s.script profile turn.fresh turn.event) turn.net := hnet
  unfold asked outcome
  rw [process_fst]
  rw [he, script_of_dialog hrole, hscript] at hnet' ⊢
  obtain ⟨_, _, hnet₁, hcalls₁, hrun₁⟩ := unrefused_send hnet'
  obtain ⟨_, _, -, hcalls₂, hrun₂⟩ := unrefused_send hnet₁
  rw [hcalls₁, hrun₁, hcalls₂, hrun₂]
  refine ⟨rfl, ?_, ?_⟩
  · exact (closes_finished (by rfl)).of_attaching.session
  · exact congrArg (fun id => [(⟨id, .callEnded⟩ : Report)]) (attaching_id s _)

/-! ### The race -/

lemma turn_of_cancel (profile : Profile) (hrole : s.role = .dialog)
    (hs : s.state = .outgoingCall ∨ s.state = .outgoingCallRingBack) (he : turn.event = .endCall)
    (hnet : ∀ call ∈ s.asked profile turn, call.refused = none) :
    s.outcome profile turn = ({ s with state := .outgoingCallCanceling } : Session).consumed := by
  have hscript : s.script profile turn.fresh turn.event =
      s.cancelRequest (.done ({ s with state := .outgoingCallCanceling } : Session).consumed) := by
    rw [he, script_of_dialog hrole]
    rcases hs with hs | hs <;> simp [dialogScript, attaching, SessionEvent.dialog?, stateRule, hs,
      outgoingCallRule]
  have hnet' : Unrefused (s.script profile turn.fresh turn.event) turn.net := hnet
  unfold outcome
  rw [process_fst]
  rw [hscript] at hnet' ⊢
  unfold cancelRequest at hnet' ⊢
  split at hnet'
  · obtain ⟨_, _, -, -, hrun⟩ := unrefused_send hnet'
    rw [hrun]
    rfl
  · rfl

/-- A caller hangs up before the call is up, and the network takes the cancellation. From then on
the session cancels its call until it is idle again, whatever happens, and in whatever order:

- each turn either leaves the session cancelling and is not heard of, or makes it idle and is heard
  of once, as the end of the call; so neither ringing back nor an established call is heard of any
  more;
- if the peer accepts the invitation all the same, and messages and the dialogs that they carry have
  reached the session under its own key, then it asks the network for two things and no more, an
  acknowledgement and the end of the dialog, which has the Call-ID of the session, and the call has
  ended. -/
theorem cancelled_call_never_established (hR : Recorder.promise.KeptBy σ)
    (h : Reachable σ profile s) (hs : s.state = .outgoingCall ∨ s.state = .outgoingCallRingBack)
    (cancel : Turn σ) (hcancel : cancel.event = .endCall)
    (haccepted : ∀ call ∈ s.asked profile cancel, call.refused = none)
    (before : List (Turn σ)) (turn : Turn σ) :
    let cancelling := (s.outcome profile cancel).session
    cancelling.state = .outgoingCallCanceling ∧ (s.outcome profile cancel).reports = [] ∧
    (cancelling.Along profile (fun s turn => (s.outcome profile turn).session.state ≠ .ready)
        before →
      let t := cancelling.after profile before
      let o := t.outcome profile turn
      t.state = .outgoingCallCanceling ∧
      (o.session.state = .outgoingCallCanceling ∧ o.reports = [] ∨
        o.session = idle s.id .dialog ∧
          ∃ notice, notice.endsCall ∧ o.reports = [⟨s.id, notice⟩]) ∧
      (cancelling.Along profile (fun s turn => s.Receives turn.event) (before ++ [turn]) →
        ∀ r, turn.event = .response r → r.method = .invite → isSuccess r.status →
        (∀ call ∈ t.asked profile turn, call.refused = none) →
        ∃ d, (t.attaching turn.event).dialog = some d ∧ s.key = some d.callId ∧
          t.asked profile turn = [⟨.acknowledge r d, none⟩, ⟨.bye d, none⟩] ∧
          o.session = idle s.id .dialog ∧ o.reports = [⟨s.id, .callEnded⟩])) := by
  intro cancelling
  obtain ⟨key, hbusy⟩ := h.busy hR (by rcases hs with hs | hs <;> rw [hs] <;> decide)
  have hcancelled := turn_of_cancel profile hbusy.role hs hcancel haccepted
  have hrole : cancelling.role = .dialog := after_role hbusy.role profile [cancel]
  have hid : cancelling.id = s.id := after_id hbusy.role profile [cancel]
  have hstate : cancelling.state = .outgoingCallCanceling := by
    rw [show cancelling = _ from congrArg Outcome.session hcancelled]
    rfl
  have hkey : cancelling.key = s.key := by
    rw [show cancelling = _ from congrArg Outcome.session hcancelled]
    rfl
  refine ⟨hstate, congrArg Outcome.reports hcancelled, fun hbefore => ?_⟩
  intro t o
  obtain ⟨hstate', hkey'⟩ : t.state = _ ∧ t.key = _ := after_lingering hrole hstate hbefore
  have hrole' : t.role = .dialog := after_role hrole profile before
  have hid' : t.id = s.id := (after_id hrole profile before).trans hid
  have hcleared : t.cleared = idle s.id .dialog := by
    unfold cleared
    rw [hrole', hid']
  refine ⟨hstate', ?_, ?_⟩
  · rcases lingers_or_closes profile hrole' hstate' turn with hturn | hturn
    · exact .inl ⟨hturn.state, hturn.told⟩
    · exact .inr ⟨hturn.session.trans hcleared, hid' ▸ hturn.told⟩
  · intro hroute r he hm hr hnet
    obtain ⟨hroute, hrecv, -⟩ := Along.append_iff.mp hroute
    have hreachable : Reachable σ profile cancelling :=
      h.step cancel (receives_of_isCommand (by rw [hcancel]; rfl))
    have hreachable' : Reachable σ profile t :=
      hroute.invariant hreachable fun s turn hs he => hs.step turn he
    obtain ⟨d, hd, hcallId⟩ := ((hreachable'.shaped hR).attaching hrecv).exists_dialog
      (by rw [attaching_state, hstate']; rfl)
    rw [attaching_key, hkey', hkey] at hcallId
    have hdialog := hd
    rw [he] at hdialog
    obtain ⟨hasked, hsession, hreports⟩ :=
      turn_of_lateSuccess hrole' hstate' he hm hr hdialog hnet
    exact ⟨d, hd, hcallId, hasked, hsession.trans hcleared, hid' ▸ hreports⟩

/-- The caller hangs up, the peer is alerted, and then accepts the call. -/
theorem cancelled_call_never_established_of_race :
    let profile := Profile.ofUri ⟨some "alice", "localhost", none⟩ ""
    let call := Turn.recorded (.makeCall ⟨some "bob", "localhost", none⟩ [])
    let s := ((idle 0 .dialog).outcome profile call).session
    let cancelling := (s.outcome profile (.recorded .endCall)).session.after profile [.answered 180]
    s.state = .outgoingCall ∧ cancelling.state = .outgoingCallCanceling ∧
      ∃ r d, s.key = some d.callId ∧
        cancelling.asked profile (.answered 200) = [⟨.acknowledge r d, none⟩, ⟨.bye d, none⟩] ∧
        (cancelling.outcome profile (.answered 200)).reports = [⟨0, .callEnded⟩] := by
  intro profile call s cancelling
  have hs : Reachable Recorder profile s :=
    (Reachable.created 0).step call (receives_of_isCommand rfl)
  have hstate : s.state = .outgoingCall := by decide +kernel
  obtain ⟨-, -, hrace⟩ := cancelled_call_never_established Recorder.keeps_promise hs (.inl hstate)
    (.recorded .endCall) rfl (by decide +kernel) [.answered 180] (.answered 200)
  obtain ⟨hcancelling, -, hsuccess⟩ := hrace ⟨by decide +kernel, trivial⟩
  have hroute : (s.outcome profile (.recorded .endCall)).session.Along profile
      (fun s turn => s.Receives turn.event) [.answered 180, .answered 200] := by
    refine ⟨Turn.receives_answered ?_ 180, Turn.receives_answered ?_ 200, trivial⟩
    all_goals decide +kernel
  obtain ⟨d, -, hkey, hasked, -, hreports⟩ := hsuccess hroute _ rfl rfl rfl (by decide +kernel)
  exact ⟨hstate, hcancelling, _, d, hkey, hasked, hreports⟩

end Session

end SipAgent
