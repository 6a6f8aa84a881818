import SipAgent.Proofs.Session.Process
import SipAgent.Transport.Recorder

/-!
# Events that a session has no use for

A session refuses an event when it does not consume it, or when all that it does about it is to
decline a request with a final response. `refused_signal_keeps_call` says what that does to the
session: no field changes, nobody is told and no key moves, with one exception. A message that
carries a dialog puts that dialog in the place of the session's own, even if the session then
refuses the message. So a refused signal leaves the call intact exactly when it carries no dialog or
the session's own, and `declined_request_diverts_call` shows a request from elsewhere that does not.
-/

namespace SipAgent

/-- The final response that declines a request for which there is no use. -/
def Method.declined? : Method → Option UInt16
  | .bye | .cancel => some 481
  | .invite => some 486
  | .options => some 200
  | .ack | .register => none

namespace Session

variable {σ : Type} [Transport σ] {profile : Profile} {fresh : SessionId} {s : Session}
  {e : SessionEvent} {r : Request} {status : UInt16} {net : σ}

/-- All that a session does about an event is to decline it: the request gets its final response,
the network takes it, and no other command is given. -/
def Declines (profile : Profile) (fresh : SessionId) (s : Session) (e : SessionEvent) (net : σ) :
    Prop :=
  ∃ (r : Request) (status : UInt16), e = .request r ∧ r.method.declined? = some status ∧
    (s.script profile fresh e).commands net = [.respond r status] ∧
    (Transport.perform (.respond r status) net).1 = .ok ()

/-! ### Requests that a state has a rule for -/

lemma head?_respond_ne (hm : r.method = .cancel ∨ r.method = .bye)
    (h : r.method.declined? = some status) (next : Script Outcome) :
    ((respond r 200 next).commands net).head? ≠ some (.respond r status) := by
  intro hhead
  cases Script.eq_of_head?_commands hhead
  rcases hm with hm | hm <;> rw [hm] at h <;> cases h

lemma head?_acceptChange_ne :
    ((s.acceptChange profile r).commands net).head? ≠ some (.respond r status) := by
  intro hhead
  unfold acceptChange withLocalTag at hhead
  split at hhead <;> cases Script.eq_of_head?_commands hhead

lemma head?_done_ne (o : Outcome) :
    ((Script.done o).commands net).head? ≠ some (.respond r status) := by
  simp

/-- Whatever the rules of a state do about a request, they do not decline it. -/
lemma head?_stateRule_ne {script : Script Outcome}
    (hrule : s.stateRule profile (.request r) = some script)
    (h : r.method.declined? = some status) :
    (script.commands net).head? ≠ some (.respond r status) := by
  cases hstate : s.state with
  | incomingCall =>
    cases hinvite : s.invite with
    | none => simp [stateRule, hstate, incomingCallRule, hinvite] at hrule
    | some invite =>
      simp only [stateRule, hstate, incomingCallRule, hinvite] at hrule
      split_ifs at hrule with hm
      cases hrule
      exact head?_respond_ne (.inl hm) h _
  | incomingCallAnswering =>
    simp only [stateRule, hstate, incomingCallAnsweringRule] at hrule
    split_ifs at hrule with hack hm
    · cases hrule; exact head?_done_ne _
    · cases hrule; exact head?_respond_ne (.inl hm) h _
  | inCall =>
    simp only [stateRule, hstate, inCallRule] at hrule
    split_ifs at hrule with hm hm
    · cases hrule; exact head?_acceptChange_ne
    · cases hrule; exact head?_respond_ne (.inr hm) h _
  | inCallAnswering =>
    simp only [stateRule, hstate, inCallAnsweringRule] at hrule
    split_ifs at hrule
    cases hrule
    exact head?_done_ne _
  | _ => simp only [stateRule, hstate] at hrule; cases hrule

/-! ### What a refusal leaves -/

lemma run_respond (hok : (Transport.perform (.respond r status) net).1 = .ok ()) (o : Outcome) :
    ((respond r status (.done o)).run net).1 = .ok o := by
  simp only [respond, Script.run]
  split
  · rfl
  · next hperform =>
    rw [hperform] at hok
    cases hok

lemma run_strayRequest {script : Script Outcome} (hrule : s.strayRequest r = some script)
    (h : r.method.declined? = some status)
    (hcommands : script.commands net = [.respond r status])
    (hok : (Transport.perform (.respond r status) net).1 = .ok ()) :
    (script.run net).1 = .ok s.consumed := by
  have hhead : (script.commands net).head? = some (.respond r status) := by rw [hcommands]; rfl
  unfold strayRequest at hrule
  split at hrule
  · next hm =>
    split_ifs at hrule
    · cases hrule
      exact absurd hhead (head?_respond_ne (.inr hm) h _)
    · cases hrule
      cases Script.eq_of_head?_commands hhead
      exact run_respond hok _
  · cases hrule
    cases Script.eq_of_head?_commands hhead
    exact run_respond hok _
  · cases hrule
    cases Script.eq_of_head?_commands hhead
    exact run_respond hok _
  · split_ifs at hrule
    cases hrule
    cases Script.eq_of_head?_commands hhead
    exact run_respond hok _
  · cases hrule
  · cases hrule

lemma run_dialogScript (h : r.method.declined? = some status)
    (hcommands : (s.dialogScript profile (.request r)).commands net = [.respond r status])
    (hok : (Transport.perform (.respond r status) net).1 = .ok ()) :
    ((s.dialogScript profile (.request r)).run net).1 =
      .ok (s.attaching (.request r)).consumed := by
  simp only [dialogScript] at hcommands ⊢
  split at hcommands
  · next script hrule =>
    have hhead : (script.commands net).head? = some (.respond r status) := by rw [hcommands]; rfl
    exact absurd hhead (head?_stateRule_ne hrule h)
  · split at hcommands
    · next script hrule => exact run_strayRequest hrule h hcommands hok
    · cases hcommands

lemma run_receiverScript (h : r.method.declined? = some status)
    (hcommands : (s.receiverScript fresh (.request r)).commands net = [.respond r status])
    (hok : (Transport.perform (.respond r status) net).1 = .ok ()) :
    ((s.receiverScript fresh (.request r)).run net).1 = .ok s.consumed := by
  have hhead : ((s.receiverScript fresh (.request r)).commands net).head? =
      some (.respond r status) := by
    rw [hcommands]
    rfl
  simp only [receiverScript] at hhead ⊢
  split at hhead
  · cases Script.eq_of_head?_commands hhead
  · cases Script.eq_of_head?_commands hhead
    exact run_respond hok _
  · cases Script.eq_of_head?_commands hhead
    exact run_respond hok _
  · cases Script.eq_of_head?_commands hhead
    exact run_respond hok _
  · cases hhead
  · cases hhead

/-- The dialog that an event brings to a session; receivers own none. -/
def carried? (s : Session) (e : SessionEvent) : Option Dialog :=
  match s.role with
  | .dialog => e.dialog?
  | .receiver => none

/-- The session after an event that it refuses. -/
def afterRefusal (s : Session) (e : SessionEvent) : Session :=
  { s with dialog := (s.carried? e).or s.dialog }

lemma afterRefusal_of_dialog (hs : s.role = .dialog) (e : SessionEvent) :
    s.afterRefusal e = s.attaching e := by
  unfold afterRefusal carried? attaching
  rw [hs]
  cases e.dialog? <;> simp [← hs]

lemma afterRefusal_of_receiver (hs : s.role = .receiver) (e : SessionEvent) :
    s.afterRefusal e = s := by
  unfold afterRefusal carried?
  rw [hs]
  simp [← hs]

lemma afterRefusal_eq_self_iff :
    s.afterRefusal e = s ↔ ∀ d, s.carried? e = some d → s.dialog = some d := by
  constructor
  · intro h d hd
    have hdialog := congrArg Session.dialog h
    simpa [afterRefusal, hd] using hdialog.symm
  · intro h
    unfold afterRefusal
    cases hd : s.carried? e with
    | none => rfl
    | some d => rw [Option.some_or, ← h d hd]

lemma process_of_declines (h : s.Declines profile fresh e net) :
    (s.process profile fresh e net).1 = (s.afterRefusal e).consumed := by
  obtain ⟨r, status, rfl, hm, hcommands, hok⟩ := h
  rw [process_fst]
  cases hrole : s.role with
  | dialog =>
    rw [script_of_dialog hrole] at hcommands ⊢
    rw [run_dialogScript hm hcommands hok, afterRefusal_of_dialog hrole]
    rfl
  | receiver =>
    rw [script_of_receiver hrole] at hcommands ⊢
    rw [run_receiverScript hm hcommands hok, afterRefusal_of_receiver hrole]
    rfl

lemma process_of_not_processed (h : (s.process profile fresh e net).1.processed = false) :
    (s.process profile fresh e net).1 = (s.afterRefusal e).refused := by
  have hR := Promise.nothing_keptBy σ
  cases hrole : s.role with
  | dialog =>
    rw [afterRefusal_of_dialog hrole]
    rcases reaction_process hR profile fresh hrole e net with hreaction | ⟨cause, hfailed⟩
    · generalize (s.process profile fresh e net).1 = o at h hreaction ⊢
      cases hreaction with
      | refused => rfl
      | _ => cases h
    · rw [hfailed] at h
      cases h
  | receiver =>
    rw [afterRefusal_of_receiver hrole]
    rcases intake_process hR profile fresh hrole e net with hintake | ⟨cause, hfailed⟩
    · generalize (s.process profile fresh e net).1 = o at h hintake ⊢
      cases hintake with
      | refused => rfl
      | _ => cases h
    · rw [hfailed] at h
      cases h

/-- A refused signal changes no field but the dialog, which it replaces by the one it carries;
nobody is told, no key moves and no session comes up. So the session is what it was exactly when the
signal carries no dialog other than its own. -/
theorem refused_signal_keeps_call (profile : Profile) (fresh : SessionId) (s : Session)
    (m : Signal) (net : σ)
    (h : (s.process profile fresh (.ofSignal m) net).1.processed = false ∨
      s.Declines profile fresh (.ofSignal m) net) :
    let o := (s.process profile fresh (.ofSignal m) net).1
    o.session = { s with dialog := (s.carried? (.ofSignal m)).or s.dialog } ∧
      o.reports = [] ∧ o.keyChanges = [] ∧ o.spawned = none ∧
      (o.session = s ↔ ∀ d, s.carried? (.ofSignal m) = some d → s.dialog = some d) := by
  intro o
  have ho : o.session = s.afterRefusal (.ofSignal m) ∧ o.reports = [] ∧ o.keyChanges = [] ∧
      o.spawned = none := by
    rcases h with h | h
    · rw [show o = _ from process_of_not_processed h]
      exact ⟨rfl, rfl, rfl, rfl⟩
    · rw [show o = _ from process_of_declines h]
      exact ⟨rfl, rfl, rfl, rfl⟩
  obtain ⟨hsession, hreports, hchanges, hspawned⟩ := ho
  refine ⟨hsession, hreports, hchanges, hspawned, ?_⟩
  rw [hsession]
  exact afterRefusal_eq_self_iff

/-- A call under way, and a question about its options under its Call-ID, from another dialog:
the question is answered, and the call is left as it was when the question carries no dialog. -/
theorem refused_signal_keeps_call_of_options :
    let profile := Profile.ofUri ⟨some "alice", "localhost", none⟩ ""
    let net := Recorder.ofHost "localhost"
    let called := (Session.idle 0 .dialog).process profile 1
      (.makeCall ⟨some "bob", "localhost", none⟩ []) net
    let s := called.1.session
    let options : Request :=
      ⟨.options, (s.key.getD ⟨""⟩), ⟨"branch"⟩, .ofUri ⟨some "bob", "localhost", none⟩, [], none⟩
    s.Declines profile 1 (.request options) called.2 ∧
      (s.process profile 1 (.request options) called.2).1.session = s := by
  intro profile net called s options
  have hdeclines : s.Declines profile 1 (.request options) called.2 :=
    ⟨options, 200, rfl, rfl, rfl, rfl⟩
  refine ⟨hdeclines, ?_⟩
  obtain ⟨-, -, -, -, hsame⟩ :=
    refused_signal_keeps_call profile 1 s (.request options) called.2 (.inr hdeclines)
  exact hsame.mpr nofun

/-- A caller declines a question about its options that comes under the Call-ID of its call and from
another dialog. From then on the call goes on in that other dialog. -/
theorem declined_request_diverts_call :
    let profile := Profile.ofUri ⟨some "alice", "localhost", none⟩ ""
    let net := Recorder.ofHost "localhost"
    let called := (Session.idle 0 .dialog).process profile 1
      (.makeCall ⟨some "bob", "localhost", none⟩ []) net
    let s := called.1.session
    ∃ key, s.key = some key ∧
      let elsewhere : Dialog := ⟨key, "other", some "stranger"⟩
      let options : Request :=
        ⟨.options, key, ⟨"branch"⟩, .ofUri ⟨some "bob", "localhost", none⟩, [], some elsewhere⟩
      s.Declines profile 1 (.request options) called.2 ∧ s.dialog ≠ some elsewhere ∧
        (s.process profile 1 (.request options) called.2).1.session.dialog = some elsewhere := by
  intro profile net called s
  refine ⟨_, rfl, ⟨_, 200, rfl, rfl, rfl, rfl⟩, ?_, rfl⟩
  decide +kernel

end Session

end SipAgent
