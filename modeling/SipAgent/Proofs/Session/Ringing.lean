import SipAgent.Proofs.Session.Run

/-!
# The tag of an invitation that is answered

The peer learns the tag of this side when it is told that the user is alerted, and again when the
invitation is accepted. `accepted_in_dialog` says where the second one comes from: from the last
dialog that the invitation, or a message since then, has brought along, and only without such a
dialog from the first one. So both are the same exactly when the last dialog brought has the tag
that the peer was told, and `carried_dialog_changes_tag` shows an invitation that breaks this.
-/

namespace SipAgent

/-- The last dialog that a number of events brought. -/
def lastDialog? (events : List SessionEvent) : Option Dialog :=
  (events.filterMap SessionEvent.dialog?).getLast?

lemma lastDialog?_cons (e : SessionEvent) (later : List SessionEvent) :
    lastDialog? (e :: later) = (lastDialog? later).or e.dialog? := by
  unfold lastDialog?
  rw [List.filterMap_cons]
  split
  · next h => rw [h, Option.or_none]
  · next d h =>
    rw [h, List.getLast?_cons]
    cases (later.filterMap SessionEvent.dialog?).getLast? <;> rfl

namespace Session

variable {σ : Type} [Transport σ] {profile : Profile} {receiver s : Session} {e : SessionEvent}
  {r : Request} {fresh : SessionId} {net : σ} {turn : Turn σ} {turns : List (Turn σ)}

/-! ### Taking an invitation in -/

/-- A receiver that takes an invitation in tells the peer a fresh tag, and nothing else is asked of
the network. -/
lemma calls_of_spawned (hr : receiver.role = .receiver)
    (hs : (receiver.process profile fresh (.request r) net).1.spawned = some s) :
    ∃ tag t, (receiver.script profile fresh (.request r)).calls net = [⟨.ringing r tag, none⟩] ∧
      s = takingIn fresh r tag t := by
  obtain ⟨hm, -⟩ := takingIn_of_spawned (Promise.nothing_keptBy σ) hr hs
  have hscript : receiver.script profile fresh (.request r) = receiver.takeIn fresh r := by
    rw [script_of_receiver hr, receiverScript, hm]
  rw [process_fst, hscript] at hs
  rw [hscript]
  cases hrun : ((receiver.takeIn fresh r).run net).1 with
  | error cause =>
    rw [hrun] at hs
    cases hs
  | ok o =>
    obtain ⟨t, net', hrung, hdone⟩ := Script.perform_of_run_send hrun
    rw [hrun] at hs
    cases hdone
    cases hs
    exact ⟨_, t, Script.calls_send_of_perform hrung, rfl⟩

/-! ### As long as it rings -/

/-- A session whose user is being alerted afterwards has not changed at all. -/
lemma Reaction.eq_of_ringing {R : Promise} {o : Outcome} (h : Reaction R profile s e o)
    (ho : o.session.state = .incomingCall) : o.session = s := by
  cases h with
  | refused | consumed => rfl
  | ended | calls | alerted | answered | cancelsCall | accepts | confirmed | acceptsChange
  | changeConfirmed | startsChange | changed | cancelsChange | keepsCall => cases ho
  | registers _ next _ _ _ _ hnext =>
    obtain rfl : next = .incomingCall := ho
    cases hnext
  | challenged r t hstate =>
    rw [show s.state = .incomingCall from ho] at hstate
    cases hstate

/-- The user of a session is alerted from its first moment on, if at all, and until then nothing but
the dialog changes: it is the one that the last message brought. -/
lemma outcome_of_ringing (hrole : s.role = .dialog)
    (h : (s.outcome profile turn).session.state = .incomingCall) :
    (s.outcome profile turn).session = { s with dialog := turn.event.dialog?.or s.dialog } := by
  have hattached :
      s.attaching turn.event = { s with dialog := turn.event.dialog?.or s.dialog } := by
    unfold attaching
    split
    · next d hd => rw [hd, Option.some_or]
    · next hnone => rw [hnone, Option.none_or]
  rcases reacts_turn (Promise.nothing_keptBy σ) profile hrole turn with hturn | ⟨-, cause, hfailed⟩
  · rw [← hattached]
    exact hturn.eq_of_ringing h
  · rw [hfailed] at h
    cases h

/-- The same of a whole run. -/
lemma after_ringing (hrole : s.role = .dialog)
    (h : (s.after profile turns).state = .incomingCall) :
    s.after profile turns =
      { s with dialog := (lastDialog? (turns.map (·.event))).or s.dialog } := by
  induction turns generalizing s with
  | nil => rfl
  | cons turn later ih =>
    have hlater := @ih (s.outcome profile turn).session (after_role hrole profile [turn]) h
    have hturn : (s.outcome profile turn).session.state = .incomingCall := by
      have hstate := congrArg Session.state hlater
      exact hstate.symm.trans h
    rw [after_cons, hlater, outcome_of_ringing hrole hturn, List.map_cons, lastDialog?_cons,
      Option.or_assoc]

/-! ### Accepting the invitation -/

/-- An invitation is accepted with the own tag of the dialog. -/
lemma asked_of_answer (hrole : s.role = .dialog) (hs : s.state = .incomingCall)
    (hinvite : s.invite = some r) {d : Dialog} (hd : s.dialog = some d) {answer : Octets}
    (he : turn.event = .answerCall answer) :
    (s.asked profile turn).map (·.command) = [.acceptInvite r profile answer d.localTag
      (s.serverTransaction.getD r.serverTransaction)] := by
  have hscript : s.dialogScript profile (.answerCall answer) = s.acceptCall profile r answer := by
    simp [dialogScript, attaching, SessionEvent.dialog?, stateRule, hs, incomingCallRule, hinvite]
  unfold asked
  rw [he, script_of_dialog hrole, hscript, acceptCall, withLocalTag, hd]
  exact Script.map_command_calls_send _ _ _

/-- A receiver has taken an invitation in. The peer has been told a tag then, and as long as the
user has not decided, whatever else happens to the session:

- its dialog is the last one that the invitation or a later message brought, and if none did, one
  with the tag that the peer was told;
- so the dialog has that tag if and only if the last dialog brought, if there is any, has it;
- answering accepts this invitation, with the tag of the dialog. -/
theorem accepted_in_dialog (profile : Profile) (fresh : SessionId) (hr : receiver.role = .receiver)
    (hs : (receiver.process profile fresh (.request r) net).1.spawned = some s) :
    ∃ tag t, (receiver.script profile fresh (.request r)).calls net = [⟨.ringing r tag, none⟩] ∧
      ∀ turns : List (Turn σ), (s.after profile turns).state = .incomingCall →
        let brought := lastDialog? (.request r :: turns.map (·.event))
        ∃ d, (s.after profile turns).dialog = some d ∧
          d = brought.getD ⟨r.callId, tag, none⟩ ∧
          (d.localTag = tag ↔ ∀ other, brought = some other → other.localTag = tag) ∧
          ∀ (turn : Turn σ) (answer : Octets), turn.event = .answerCall answer →
            ((s.after profile turns).asked profile turn).map (·.command) =
              [.acceptInvite r profile answer d.localTag t] := by
  obtain ⟨tag, t, hcalls, rfl⟩ := calls_of_spawned hr hs
  refine ⟨tag, t, hcalls, fun turns hringing => ?_⟩
  have hafter := after_ringing (takingIn_role fresh r tag t) hringing
  have hdialog : ((takingIn fresh r tag t).after profile turns).dialog =
      some ((lastDialog? (.request r :: turns.map (·.event))).getD ⟨r.callId, tag, none⟩) := by
    rw [hafter, lastDialog?_cons]
    cases lastDialog? (turns.map (·.event)) <;> rfl
  refine ⟨_, hdialog, rfl, ?_, fun turn answer he => ?_⟩
  · cases lastDialog? (.request r :: turns.map (·.event)) with
    | none => exact ⟨nofun, fun _ => rfl⟩
    | some other =>
      refine ⟨?_, fun h => h other rfl⟩
      rintro h _ ⟨⟩
      exact h
  · have hrole := after_role (takingIn_role fresh r tag t) profile turns
    have hinvite : ((takingIn fresh r tag t).after profile turns).invite = some r := by
      rw [hafter]
      rfl
    rw [asked_of_answer hrole hringing hinvite hdialog he, hafter]
    rfl

/-- An invitation over a new recorder, with the dialog that it brings. -/
def invitation (dialog : Option Dialog) : Request :=
  ⟨.invite, ⟨"call"⟩, ⟨"branch"⟩, .ofUri ⟨some "carol", "localhost", none⟩, [], dialog⟩

/-- Carol calls, and asks in a message without a dialog what can be done while it rings: the call is
accepted with the tag that she was told. -/
theorem accepted_in_dialog_of_fresh_call :
    let profile := Profile.ofUri ⟨some "alice", "localhost", none⟩ ""
    let receiver := idle 0 .receiver
    let r := invitation none
    let options : Turn Recorder := .recorded (.request { r with method := .options })
    let net := Recorder.ofHost "localhost"
    ∃ s tag t, (receiver.process profile 1 (.request r) net).1.spawned = some s ∧
      (receiver.script profile 1 (.request r)).calls net = [⟨.ringing r tag, none⟩] ∧
      ((s.after profile [options]).asked profile (.recorded (.answerCall []))).map (·.command) =
        [.acceptInvite r profile [] tag t] := by
  intro profile receiver r options net
  have hspawned : (receiver.process profile 1 (.request r) net).1.spawned = some _ := rfl
  obtain ⟨tag, t, hcalls, hrings⟩ := accepted_in_dialog profile 1 rfl hspawned
  obtain ⟨d, -, rfl, -, hanswer⟩ := hrings [options] (by decide +kernel)
  exact ⟨_, tag, t, rfl, hcalls, hanswer (.recorded (.answerCall [])) [] rfl⟩

/-- Carol invites Alice in a dialog that is still known to the network. The invitation is accepted
with the tag of that dialog, and the tag that Carol was told first is another one. -/
theorem carried_dialog_changes_tag :
    let profile := Profile.ofUri ⟨some "alice", "localhost", none⟩ ""
    let receiver := idle 0 .receiver
    let r := invitation (some ⟨⟨"call"⟩, "own", some "theirs"⟩)
    let net := Recorder.ofHost "localhost"
    ∃ s tag t, (receiver.process profile 1 (.request r) net).1.spawned = some s ∧
      (receiver.script profile 1 (.request r)).calls net = [⟨.ringing r tag, none⟩] ∧
      (s.asked profile (.recorded (.answerCall []) : Turn Recorder)).map (·.command) =
        [.acceptInvite r profile [] "own" t] ∧
      tag ≠ "own" := by
  intro profile receiver r net
  exact ⟨_, _, _, rfl, rfl, rfl, by decide +kernel⟩

end Session

end SipAgent
