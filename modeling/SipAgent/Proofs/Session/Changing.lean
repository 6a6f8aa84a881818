import SipAgent.Proofs.Session.Run

/-!
# Changes that are taken back

A call can be changed while it is up. If the user hangs up before the peer has answered the change,
and the peer then refuses it, the call stays up. `refused_change_keeps_offer` says what it stays
like: the peer, what the peer described and what it asked for last are untouched, but the refused
offer takes the place of the description that was in force, and
`refused_change_replaces_description` shows a peer that is answered with it.
-/

namespace SipAgent

namespace SessionState

/-- The call is up, and no request of the peer is being answered. -/
def holdsCall : SessionState → Bool
  | .inCall | .inCallChanging | .inCallChangingCanceling => true
  | _ => false

/-- An own change is under way. -/
def isChanging : SessionState → Bool
  | .inCallChanging | .inCallChangingCanceling => true
  | _ => false

lemma holdsCall_of_isChanging {state : SessionState} (h : state.isChanging) :
    state.holdsCall ∧ state ≠ .inCall := by
  revert h
  cases state <;> decide

end SessionState

namespace Session

variable {σ : Type} [Transport σ] {profile : Profile} {s t u : Session} {e : SessionEvent}
  {offer : Octets} {turn : Turn σ} {turns : List (Turn σ)}

/-- Both sessions have the same peer, the same descriptions on both sides, and the same last
invitation of the peer. -/
structure SameCall (s t : Session) : Prop where
  peer : t.peer = s.peer
  peerDescription : t.peerDescription = s.peerDescription
  localDescription : t.localDescription = s.localDescription
  serverTransaction : t.serverTransaction = s.serverTransaction
  invite : t.invite = s.invite

lemma SameCall.refl (s : Session) : SameCall s s :=
  ⟨rfl, rfl, rfl, rfl, rfl⟩

lemma SameCall.trans (h : SameCall s t) (h' : SameCall t u) : SameCall s u where
  peer := h'.peer.trans h.peer
  peerDescription := h'.peerDescription.trans h.peerDescription
  localDescription := h'.localDescription.trans h.localDescription
  serverTransaction := h'.serverTransaction.trans h.serverTransaction
  invite := h'.invite.trans h.invite

lemma SameCall.of_attaching (h : SameCall (s.attaching e) t) : SameCall s t := by
  unfold attaching at h
  split at h <;>
    exact ⟨h.peer, h.peerDescription, h.localDescription, h.serverTransaction, h.invite⟩

/-! ### One turn -/

/-- A step from one state to another in which the call is held, and neither is a change of the own
sent nor does one take effect. -/
structure StaysUp (s : Session) (e : SessionEvent) (t : Session) : Prop where
  before : s.state.holdsCall
  after : t.state.holdsCall
  sends : s.state = .inCall → t.state = .inCall
  settles : s.state ≠ .inCall → t.state = .inCall → ∀ r, e = .response r → ¬ isSuccess r.status

lemma StaysUp.attaching (h : s.StaysUp e t) : (s.attaching e).StaysUp e t := by
  constructor
  · simpa using h.before
  · exact h.after
  · simpa using h.sends
  · simpa using h.settles

/-- A session that holds its call changes nothing about it but the dialog, and that only to the one
that a message carries. -/
lemma Reaction.sameCall {R : Promise} {o : Outcome} (h : Reaction R profile s e o)
    (hs : s.StaysUp e o.session) : SameCall s o.session ∧ o.session.dialog = s.dialog := by
  obtain ⟨hbefore, hafter, hsends, hsettles⟩ := hs
  cases h with
  | refused | consumed | challenged | cancelsChange | keepsCall =>
    exact ⟨⟨rfl, rfl, rfl, rfl, rfl⟩, rfl⟩
  | ended | acceptsChange => cases hafter
  | startsChange _ _ _ hstate =>
    have hwrong := hsends hstate
    cases hwrong
  | changed r hstate he hr =>
    have hchanging : s.state ≠ .inCall := by
      rcases hstate with hstate | hstate <;> rw [hstate] <;> decide
    exact absurd hr (hsettles hchanging rfl r he)
  | registers _ _ _ _ hstate | calls _ _ _ _ _ hstate | alerted _ hstate
  | accepts _ _ _ _ hstate | confirmed _ hstate | changeConfirmed _ hstate =>
    rw [hstate] at hbefore
    cases hbefore
  | answered _ hstate | cancelsCall hstate =>
    rcases hstate with hstate | hstate <;> rw [hstate] at hbefore <;> cases hbefore

lemma sameCall_turn (hrole : s.role = .dialog)
    (hs : s.StaysUp turn.event (s.outcome profile turn).session) :
    SameCall s (s.outcome profile turn).session ∧
      (s.outcome profile turn).session.dialog = (s.attaching turn.event).dialog := by
  rcases reacts_turn (Promise.nothing_keptBy σ) profile hrole turn with h | ⟨-, cause, h⟩
  · exact (h.sameCall hs.attaching).imp_left SameCall.of_attaching
  · have hafter := hs.after
    rw [h] at hafter
    cases hafter

lemma dialog_attaching (hdialog : ∀ d, e.dialog? = some d → s.dialog = some d) :
    (s.attaching e).dialog = s.dialog := by
  unfold attaching
  split
  · next d hd => exact (hdialog d hd).symm
  · rfl

/-- The same of whole runs. -/
lemma sameCall_after (hrole : s.role = .dialog)
    (h : s.Along profile (fun s turn => s.StaysUp turn.event (s.outcome profile turn).session)
      turns) :
    SameCall s (s.after profile turns) ∧
      ((∀ turn ∈ turns, ∀ d, turn.event.dialog? = some d → s.dialog = some d) →
        (s.after profile turns).dialog = s.dialog) := by
  induction turns generalizing s with
  | nil => exact ⟨.refl s, fun _ => rfl⟩
  | cons turn later ih =>
    obtain ⟨hsame, hdialog⟩ := sameCall_turn hrole h.1
    obtain ⟨hsame', hdialog'⟩ := ih (s := (s.outcome profile turn).session)
      (after_role hrole profile [turn]) h.2
    refine ⟨hsame.trans hsame', fun hown => ?_⟩
    rw [List.forall_mem_cons] at hown
    have hkept := hdialog.trans (dialog_attaching hown.1)
    refine (hdialog' ?_).trans hkept
    rw [hkept]
    exact hown.2

/-- As long as the change is under way, the call is held. -/
lemma along_holds (hs : s.state.isChanging)
    (h : s.Along profile (fun s turn => (s.outcome profile turn).session.state.isChanging) turns) :
    s.Along profile (fun s turn => s.StaysUp turn.event (s.outcome profile turn).session)
      turns := by
  induction turns generalizing s with
  | nil => trivial
  | cons turn later ih =>
    obtain ⟨hbefore, hnot⟩ := SessionState.holdsCall_of_isChanging hs
    obtain ⟨hafter, hnot'⟩ := SessionState.holdsCall_of_isChanging h.1
    refine ⟨⟨hbefore, hafter, fun hcall => absurd hcall hnot, ?_⟩, ih h.1 h.2⟩
    exact fun _ hcall => absurd hcall hnot'

/-- And it is held while nothing happens to it. -/
lemma after_idling (hrole : s.role = .dialog) (hs : s.state = .inCall)
    (h : s.Along profile (fun s turn => (s.outcome profile turn).session.state = .inCall) turns) :
    (s.after profile turns).state = .inCall ∧ SameCall s (s.after profile turns) := by
  induction turns generalizing s with
  | nil => exact ⟨hs, .refl s⟩
  | cons turn later ih =>
    obtain ⟨hturn, hlater⟩ := h
    have hstays : s.StaysUp turn.event (s.outcome profile turn).session :=
      ⟨by rw [hs]; rfl, by rw [hturn]; rfl, fun _ => hturn, fun hnot => absurd hs hnot⟩
    obtain ⟨hsame, -⟩ := sameCall_turn hrole hstays
    obtain ⟨hstate, hsame'⟩ := ih (after_role hrole profile [turn]) hturn hlater
    exact ⟨hstate, hsame.trans hsame'⟩

/-! ### Sending a change, and having it refused -/

/-- A change that is sent puts its offer in the place of the description in force. -/
lemma sameCall_of_started (hrole : s.role = .dialog) (hs : s.state = .inCall)
    (hstart : turn.event = .changeCall offer ∨ ∃ peer, turn.event = .makeCall peer offer)
    (haccepted : (s.outcome profile turn).session.state = .inCallChanging) :
    SameCall { s with localDescription := some offer } (s.outcome profile turn).session ∧
      (s.outcome profile turn).session.dialog = s.dialog := by
  have hattached : s.attaching turn.event = s := by
    rcases hstart with he | ⟨peer, he⟩ <;> rw [he] <;> rfl
  rcases reacts_turn (Promise.nothing_keptBy σ) profile hrole turn with h | ⟨-, cause, h⟩
  · rw [hattached] at h
    generalize s.outcome profile turn = o at h haccepted ⊢
    cases h with
    | startsChange offer' dialog t hstate hd he =>
      have hoffer : offer' = offer := by
        rcases hstart with hstart | ⟨peer, hstart⟩ <;> rw [hstart] at he <;>
          rcases he with he | ⟨_, he⟩ <;> cases he <;> rfl
      subst hoffer
      exact ⟨⟨rfl, rfl, rfl, rfl, rfl⟩, rfl⟩
    | refused | consumed | challenged =>
      have hwrong := hs.symm.trans haccepted
      cases hwrong
    | registers _ _ _ _ hstate =>
      rw [hs] at hstate
      cases hstate
    | ended | calls | alerted | answered | cancelsCall | accepts | confirmed
    | acceptsChange | changeConfirmed | changed | cancelsChange | keepsCall => cases haccepted
  · rw [h] at haccepted
    cases haccepted

/-- The peer refuses a change that is being cancelled: the call is up again, and held meanwhile. -/
lemma holds_of_refusal (profile : Profile) (hrole : s.role = .dialog)
    (hs : s.state = .inCallChangingCanceling) {r : Response} (he : turn.event = .response r)
    (hm : r.method = .invite) (hr : 300 ≤ r.status) (hdialog : endsDialog r.status = false) :
    (s.outcome profile turn).session.state = .inCall ∧
      s.StaysUp turn.event (s.outcome profile turn).session := by
  have hfinal : isProvisional r.status = false ∧ isSuccess r.status = false := by
    have hlate : ¬ r.status < 200 ∧ ¬ r.status < 300 := by
      rw [UInt16.not_lt, UInt16.not_lt]
      exact ⟨UInt16.le_trans (by decide) hr, hr⟩
    simp [isProvisional, isSuccess, hlate]
  have hscript : s.dialogScript profile (.response r) =
      .done ({ s.attaching (.response r) with state := .inCall } : Session).consumed := by
    simp [dialogScript, stateRule, hs, inCallChangingCancelingRule, hm, cancelledChangeResponse,
      hfinal, hdialog]
  have hstate : (s.outcome profile turn).session.state = .inCall := by
    unfold outcome
    rw [process_fst, he, script_of_dialog hrole, hscript]
    rfl
  refine ⟨hstate, by rw [hs]; rfl, by rw [hstate]; rfl, fun _ => hstate, ?_⟩
  intro _ _ r' he'
  rw [he] at he'
  cases he'
  simp [hfinal]

/-- A change by the peer is answered with the description in force. -/
lemma asked_of_reinvite (profile : Profile) (hrole : s.role = .dialog) (hs : s.state = .inCall)
    {r : Request} (he : turn.event = .request r) (hm : r.method = .invite) :
    ∃ tag, (s.asked profile turn).map (·.command) =
      [.acceptInvite r profile (s.localDescription.getD []) tag r.serverTransaction] := by
  have hdescription : (s.attaching (.request r)).localDescription = s.localDescription := by
    unfold attaching
    split <;> rfl
  have hscript : s.dialogScript profile (.request r) =
      (s.attaching (.request r)).acceptChange profile r := by
    simp [dialogScript, stateRule, hs, inCallRule, hm]
  unfold asked
  rw [he, script_of_dialog hrole, hscript, acceptChange, hdescription, withLocalTag]
  split
  · exact ⟨_, Script.map_command_calls_send _ _ _⟩
  · exact ⟨_, Script.map_command_calls_send _ _ _⟩

/-! ### The call afterwards -/

/-- A call is up, the user offers a change, hangs up while the change is pending, and then the peer
refuses it. The call is up again, and all that has changed about it is the own description: it is
the refused offer, so the call is as it was exactly when the offer said nothing new. The dialog is
the same unless a message has brought another one. As long as the call stays up like this, a change
by the peer is answered with the refused offer. -/
theorem refused_change_keeps_offer (profile : Profile) (hrole : s.role = .dialog)
    (hs : s.state = .inCall) (start : Turn σ)
    (hstart : start.event = .changeCall offer ∨ ∃ peer, start.event = .makeCall peer offer)
    (haccepted : (s.outcome profile start).session.state = .inCallChanging)
    (pending : List (Turn σ))
    (hpending : (s.outcome profile start).session.Along profile
      (fun s turn => (s.outcome profile turn).session.state.isChanging) pending)
    (hcancelled : (s.after profile (start :: pending)).state = .inCallChangingCanceling)
    (refusal : Turn σ) {r : Response} (he : refusal.event = .response r) (hm : r.method = .invite)
    (hr : 300 ≤ r.status) (hr' : r.status ≠ 408 ∧ r.status ≠ 481) :
    let turns := start :: (pending ++ [refusal])
    let t := s.after profile turns
    t.state = .inCall ∧ t.peer = s.peer ∧ t.peerDescription = s.peerDescription ∧
      t.serverTransaction = s.serverTransaction ∧ t.invite = s.invite ∧
      t.localDescription = some offer ∧
      (t.localDescription = s.localDescription ↔ s.localDescription = some offer) ∧
      ((∀ turn ∈ turns, ∀ d, turn.event.dialog? = some d → s.dialog = some d) →
        t.dialog = s.dialog) ∧
      ∀ later : List (Turn σ),
        t.Along profile (fun s turn => (s.outcome profile turn).session.state = .inCall) later →
        ∀ (turn : Turn σ) (change : Request), turn.event = .request change →
          change.method = .invite → ∃ tag,
            ((t.after profile later).asked profile turn).map (·.command) =
              [.acceptInvite change profile offer tag change.serverTransaction] := by
  intro turns t
  obtain ⟨hstarted, hdialog⟩ := sameCall_of_started hrole hs hstart haccepted
  have hrole₁ : (s.outcome profile start).session.role = .dialog := after_role hrole profile [start]
  obtain ⟨hstate, hrefused⟩ := holds_of_refusal profile
    (after_role hrole profile (start :: pending)) hcancelled he hm hr
    (by simpa [endsDialog] using hr')
  -- from the moment the change is sent to its refusal, the call is held
  have hheld : (s.outcome profile start).session.Along profile
      (fun s turn => s.StaysUp turn.event (s.outcome profile turn).session)
      (pending ++ [refusal]) :=
    Along.append_iff.mpr ⟨along_holds (by rw [haccepted]; rfl) hpending, hrefused, trivial⟩
  obtain ⟨hkept, hdialog'⟩ := sameCall_after hrole₁ hheld
  have hsame : SameCall { s with localDescription := some offer } t := hstarted.trans hkept
  have ht : t.state = .inCall := by simpa [t, turns] using hstate
  refine ⟨ht, hsame.peer, hsame.peerDescription, hsame.serverTransaction, hsame.invite,
    hsame.localDescription, ?_, ?_, ?_⟩
  · rw [hsame.localDescription]
    exact eq_comm
  · intro hown
    rw [List.forall_mem_cons] at hown
    exact (hdialog' (hdialog ▸ hown.2)).trans hdialog
  · intro later hlater turn change hchange hmethod
    obtain ⟨hstate', hsame'⟩ := after_idling (after_role hrole profile turns) ht hlater
    obtain ⟨tag, hasked⟩ := asked_of_reinvite profile
      (after_role (after_role hrole profile turns) profile later) hstate' hchange hmethod
    refine ⟨tag, ?_⟩
    rw [hasked, (hsame.trans hsame').localDescription]
    rfl

/-- A call between Alice, who has described her media as 1, and Bob. -/
def answeredCall (profile : Profile) : Session :=
  (idle 0 .dialog).after profile
    [.recorded (.makeCall ⟨some "bob", "localhost", none⟩ [1]), .answered 200]

/-- Alice offers 2, changes her mind, and Bob takes nothing of it. -/
theorem refused_change_keeps_offer_of_cancellation :
    let profile := Profile.ofUri ⟨some "alice", "localhost", none⟩ ""
    let s := answeredCall profile
    let t := s.after profile [.recorded (.changeCall [2]), .recorded .endCall, .answered 487]
    s.state = .inCall ∧ t.state = .inCall ∧ t.dialog = s.dialog ∧
      t.localDescription = some [2] := by
  intro profile s t
  have hs : s.state = .inCall := by decide +kernel
  obtain ⟨hstate, -, -, -, -, hoffer, -, hdialog, -⟩ := refused_change_keeps_offer profile
    (by decide +kernel) hs (.recorded (.changeCall [2])) (.inl rfl) (by decide +kernel)
    [.recorded .endCall] ⟨by decide +kernel, trivial⟩ (by decide +kernel) (.answered 487) rfl rfl
    (by decide) (by decide)
  refine ⟨hs, hstate, hdialog ?_, hoffer⟩
  simp [Turn.recorded, Turn.answered, SessionEvent.dialog?, Response.answering]

/-- Before the refused change, Alice described her media as 1; when Bob changes the call later on,
she answers with what he has refused. -/
theorem refused_change_replaces_description :
    let profile := Profile.ofUri ⟨some "alice", "localhost", none⟩ ""
    let s := answeredCall profile
    let t := s.after profile [.recorded (.changeCall [2]), .recorded .endCall, .answered 487]
    let change : Request :=
      ⟨.invite, Turn.recordedCallId, ⟨"branch"⟩, .ofUri ⟨some "bob", "localhost", none⟩, [], none⟩
    Reachable Recorder profile s ∧ s.state = .inCall ∧ s.localDescription = some [1] ∧
      t.state = .inCall ∧ t.localDescription = some [2] ∧
      ∃ tag, t.asked profile (.recorded (.request change)) =
        [⟨.acceptInvite change profile [2] tag change.serverTransaction, none⟩] := by
  intro profile s t change
  refine ⟨?_, by decide +kernel, by decide +kernel, by decide +kernel, by decide +kernel,
    (t.dialog.map (·.localTag)).getD "", by decide +kernel⟩
  have hcalled : Reachable Recorder profile ((idle 0 .dialog).outcome profile
      (.recorded (.makeCall ⟨some "bob", "localhost", none⟩ [1]))).session :=
    (Reachable.created 0).step _ (receives_of_isCommand rfl)
  exact hcalled.step (.answered 200) (Turn.receives_answered (by decide +kernel) 200)

end Session

end SipAgent
