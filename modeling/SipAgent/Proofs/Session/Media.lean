import SipAgent.Proofs.Session.Run

/-!
# The media of an established call

When a call comes up, and whenever a change of it takes effect, the listener is told how the peer
describes its media. Four kinds of messages bring such a description: the invitation that comes in,
the changes that the peer offers, its acknowledgements, and its positive answers to own invitations.
A `CallRecord` collects what they say in the course of a call. `established_describes_latest` says
that the listener is always told the latest of it, and that a call that came in does not come up
before the peer has described its media.
-/

namespace SipAgent

/-- The network has accepted an invitation on behalf of the session. -/
def Call.accepts (call : Call) (r : Request) : Bool :=
  match call.command with
  | .acceptInvite accepted .. => accepted = r && call.refused.isNone
  | _ => false

/-- The listener is told that a call is up. -/
def Outcome.Establishes (o : Outcome) (description : Octets) : Prop :=
  ∃ id, (⟨id, .callEstablished description⟩ : Report) ∈ o.reports

/-- What is on record of the current call of a session: whether it came in, and the bodies of the
messages that describe the media of the peer, oldest first. -/
structure CallRecord where
  inbound : Bool
  bodies : List Octets

namespace CallRecord

/-- There is no call, or nothing has been said in it yet. -/
def blank : CallRecord :=
  ⟨false, []⟩

/-- The last body that says anything. -/
def latest (record : CallRecord) : Octets :=
  (record.bodies.filter (· ≠ [])).getLast?.getD []

/-- One more message has come. -/
def adding (record : CallRecord) (body? : Option Octets) : CallRecord :=
  { record with bodies := record.bodies ++ body?.toList }

@[simp] lemma latest_blank : blank.latest = [] := rfl

@[simp] lemma adding_inbound (record : CallRecord) (body? : Option Octets) :
    (record.adding body?).inbound = record.inbound := rfl

@[simp] lemma adding_none (record : CallRecord) : record.adding none = record := by
  simp [adding]

lemma latest_adding (record : CallRecord) (body : Octets) :
    (record.adding (some body)).latest = if body = [] then record.latest else body := by
  simp only [latest, adding, Option.toList_some, List.filter_append]
  split
  · next h => simp [h]
  · next h => simp [h]

end CallRecord

namespace Session

variable {σ : Type} [Transport σ] {profile : Profile} {s : Session} {turn : Turn σ}
  {record : CallRecord} {o : Outcome} {e : SessionEvent}

/-! ### Messages that describe media -/

/-- The body of a message that describes the media of the peer and that the session takes: an
acknowledgement that it consumes, an invitation that it has accepted at once, or a positive answer
to an own invitation that it consumes. -/
def described? (profile : Profile) (s : Session) (turn : Turn σ) : Option Octets :=
  match turn.event with
  | .request r =>
    match r.method with
    | .ack => if (s.outcome profile turn).processed then some r.body else none
    | .invite => if (s.asked profile turn).any (·.accepts r) then some r.body else none
    | _ => none
  | .response r =>
    if r.method = .invite ∧ isSuccess r.status ∧ (s.outcome profile turn).processed then
      some r.body
    else none
  | _ => none

/-- The record after a turn of the session. Nothing of it outlasts the call. -/
def recording (profile : Profile) (s : Session) (turn : Turn σ) (record : CallRecord) :
    CallRecord :=
  if (s.outcome profile turn).session.state = .ready then .blank
  else record.adding (s.described? profile turn)

/-- The lives of a session, with the record of its current call: it was created idle, or a receiver
took an invitation in, and since then anything may have happened to it. -/
inductive OnRecord (σ : Type) [Transport σ] (profile : Profile) : Session → CallRecord → Prop where
  | created (id : SessionId) : OnRecord σ profile (.idle id .dialog) .blank
  | spawned {receiver s : Session} (hr : receiver.role = .receiver) (fresh : SessionId)
      (r : Request) (net : σ)
      (hs : (receiver.process profile fresh (.request r) net).1.spawned = some s) :
      OnRecord σ profile s ⟨true, [r.body]⟩
  | step {s : Session} {record : CallRecord} (h : OnRecord σ profile s record) (turn : Turn σ) :
      OnRecord σ profile (s.outcome profile turn).session (s.recording profile turn record)

/-! ### What becomes of a description -/

/-- What a turn does to the description that the session holds, given the one that a message
brought. -/
inductive Learns (s : Session) : Option Octets → Outcome → Prop where
  /-- The session is idle again. -/
  | forgets {brought : Option Octets} {o : Outcome} (hidle : o.session.state = .ready)
      (hnone : o.session.peerDescription = none) (htold : ∀ d, ¬ o.Establishes d) :
      Learns s brought o
  | keeps {o : Outcome} (hsame : o.session.peerDescription = s.peerDescription)
      (hidle : o.session.state = .ready → s.state = .ready)
      (hout : o.session.state.isOutgoing → s.state = .ready ∨ s.state.isOutgoing)
      (hup : o.session.state.isInCall → s.state.isInCall)
      (htold : ∀ d, ¬ o.Establishes d) : Learns s none o
  /-- The answer to the own invitation replaces what the session holds, even if it is empty. -/
  | replaces (body : Octets) {o : Outcome} (hs : s.state.isOutgoing)
      (hup : o.session.state = .inCall) (hnew : o.session.peerDescription = some body)
      (htold : ∀ d, o.Establishes d → d = body) : Learns s (some body) o
  /-- Any other message does so only if it says anything. -/
  | captures (body : Octets) {o : Outcome} (hup : o.session.state.isInCall)
      (hs : s.state.isInCall ∨ o.session.peerDescription ≠ none)
      (hnew : o.session.peerDescription = if body = [] then s.peerDescription else some body)
      (htold : ∀ d, o.Establishes d → d = o.session.peerDescription.getD []) :
      Learns s (some body) o

/-- An idle session has no rule for messages of the peer. -/
@[simp] lemma readyRule_request (profile : Profile) (s : Session) (r : Request) :
    s.readyRule profile (.request r) = none := rfl

@[simp] lemma readyRule_response (profile : Profile) (s : Session) (r : Response) :
    s.readyRule profile (.response r) = none := rfl

@[simp] lemma attaching_peerDescription (s : Session) (e : SessionEvent) :
    (s.attaching e).peerDescription = s.peerDescription := by
  unfold attaching
  split <;> rfl

@[simp] lemma capturing_peerDescription (s : Session) (body : Octets) :
    (s.capturing body).peerDescription = if body = [] then s.peerDescription else some body := by
  unfold capturing
  split <;> rfl

/-- The dialog that a message brings has nothing to do with media. -/
lemma Learns.of_attaching {brought : Option Octets} (h : (s.attaching e).Learns brought o) :
    s.Learns brought o := by
  have hstate := attaching_state s e
  have hdescription := attaching_peerDescription s e
  cases h with
  | forgets hidle hnone htold => exact .forgets hidle hnone htold
  | keeps hsame hidle hout hup htold =>
    exact .keeps (hdescription ▸ hsame) (hstate ▸ hidle) (hstate ▸ hout) (hstate ▸ hup) htold
  | replaces body hs hup hnew htold => exact .replaces body (hstate ▸ hs) hup hnew htold
  | captures body hup hs hnew htold =>
    exact .captures body hup (hstate ▸ hs) (hdescription ▸ hnew) htold

/-! ### What the listener is told -/

lemma not_establishes_of_silent (h : o.reports = []) (d : Octets) : ¬ o.Establishes d := by
  rintro ⟨id, hmem⟩
  rw [h] at hmem
  cases hmem

lemma establishes_of_reports {id : SessionId} {notice : Notice} (h : o.reports = [⟨id, notice⟩])
    {d : Octets} (hd : o.Establishes d) : notice = .callEstablished d := by
  obtain ⟨id', hmem⟩ := hd
  rw [h, List.mem_singleton] at hmem
  cases hmem
  rfl

lemma failureNotice_ne_callEstablished (registration : Bool) (code : ErrorCode) (message : String)
    (d : Octets) : failureNotice registration code message ≠ .callEstablished d := by
  unfold failureNotice
  split <;> nofun

/-- No call ends by coming up. -/
lemma Ending.ne_callEstablished {notice : Notice} (h : s.Ending profile e notice) (d : Octets) :
    notice ≠ .callEstablished d := by
  cases h with
  | badCredentials | foreignRealm | transactionTerminated | dialogTerminated | connectionLost =>
    exact failureNotice_ne_callEstablished _ _ _ d
  | rejected r =>
    unfold rejectionNotice
    split
    · nofun
    · exact failureNotice_ne_callEstablished _ _ _ d
  | _ => nofun

lemma establishes_established {d : Octets} (h : s.established.Establishes d) :
    d = s.peerDescription.getD [] :=
  (Notice.callEstablished.inj (establishes_of_reports rfl h)).symm

/-- Whatever a session that ends was told last, it forgets. -/
lemma learns_finished {notice : Notice} (hnotice : ∀ d, notice ≠ .callEstablished d)
    (t : Session) (brought : Option Octets) : s.Learns brought (t.finished notice) :=
  .forgets rfl rfl fun d hd => hnotice d (establishes_of_reports rfl hd)

lemma learns_transportFailed (t : Session) (e : SessionEvent) (cause : TransportError)
    (brought : Option Octets) : s.Learns brought (t.transportFailed e cause) :=
  learns_finished (failureNotice_ne_callEstablished _ _ _) t brought

lemma learns_failed (t : Session) (code : ErrorCode) (message : String)
    (brought : Option Octets) : s.Learns brought (t.failed code message) :=
  learns_finished (failureNotice_ne_callEstablished _ _ _) t brought

/-- The session goes on as it was. -/
lemma learns_of_same (hsession : o.session = s) (hreports : o.reports = []) : s.Learns none o := by
  have htold := not_establishes_of_silent hreports
  refine .keeps ?_ ?_ ?_ ?_ htold <;> rw [hsession]
  · exact fun h => h
  · exact .inr
  · exact fun h => h

/-- The session goes on with what the body says, and its listener is not told that a call is up. -/
lemma learns_of_capturing {body : Octets} (hs : s.state.isInCall)
    (hdescription : o.session.peerDescription = (s.capturing body).peerDescription)
    (hup : o.session.state.isInCall) (htold : ∀ d, ¬ o.Establishes d) :
    s.Learns (some body) o :=
  .captures body hup (.inl hs) (hdescription.trans (capturing_peerDescription s body))
    fun d hd => absurd hd (htold d)

/-! ### Messages that are consumed -/

/-- A script that gets through consumes a message and takes what its body says, or does neither. -/
def Takes (s : Session) (body : Octets) : Except TransportError Outcome → Prop
  | .ok o => o.processed ∧ s.Learns (some body) o ∨ o.processed = false ∧ s.Learns none o
  | .error _ => True

lemma takes_refused {body : Octets} : s.Takes body (.ok s.refused) :=
  .inr ⟨rfl, learns_of_same rfl rfl⟩

lemma Takes.of_learns {body : Octets} (hprocessed : o.processed) (h : s.Learns (some body) o) :
    s.Takes body (.ok o) :=
  .inl ⟨hprocessed, h⟩

/-- A command that is refused makes the session forget, whatever the message said. -/
lemma learns_of_takes (hrole : s.role = .dialog) (body : Octets)
    (hbody : s.described? profile turn =
      if (s.outcome profile turn).processed then some body else none)
    (h : (s.dialogScript profile turn.event).Meets .nothing
      ((s.attaching turn.event).Takes body)) :
    (s.attaching turn.event).Learns (s.described? profile turn) (s.outcome profile turn) := by
  have hrun := h.run (Promise.nothing_keptBy σ) turn.net
  rw [hbody]
  unfold outcome
  rw [process_fst, script_of_dialog hrole]
  cases hresult : ((s.dialogScript profile turn.event).run turn.net).1 with
  | error cause => exact learns_transportFailed _ _ _ _
  | ok o =>
    rw [hresult] at hrun
    rcases hrun with ⟨hprocessed, hlearns⟩ | ⟨hprocessed, hlearns⟩
    · simpa only [conclusion, hprocessed, if_true] using hlearns
    · simpa only [conclusion, hprocessed, Bool.false_eq_true, if_false] using hlearns

lemma takes_confirmCall (s : Session) (r : Request) : s.Takes r.body (.ok (s.confirmCall r)) := by
  simp only [confirmCall]
  split
  · exact .of_learns rfl (learns_failed _ _ _ _)
  · next hdescribed =>
    refine .of_learns rfl (.captures r.body rfl (.inr hdescribed) ?_ ?_)
    · exact capturing_peerDescription s r.body
    · exact fun d hd => establishes_established hd

/-- An acknowledgement confirms a call or a change by the peer, or nothing comes of it. -/
lemma takes_of_ack (profile : Profile) (s : Session) {r : Request} (hm : r.method = .ack) :
    (s.dialogScript profile (.request r)).Meets .nothing
      ((s.attaching (.request r)).Takes r.body) := by
  have hstate := attaching_state s (.request r)
  simp only [dialogScript]
  generalize s.attaching (.request r) = t at hstate ⊢
  cases hs : t.state with
  | incomingCallAnswering =>
    simp only [stateRule, hs, incomingCallAnsweringRule, hm, if_true]
    exact takes_confirmCall t r
  | inCallAnswering =>
    simp only [stateRule, hs, inCallAnsweringRule, hm, if_true]
    refine .of_learns rfl (learns_of_capturing ?_ rfl rfl (not_establishes_of_silent rfl))
    rw [hs]
    rfl
  | _ =>
    cases hinvite : t.invite <;>
      simp [stateRule, hs, hm, hinvite, registeringRule, incomingCallRule,
        outgoingCallRule, outgoingCallCancelingRule, inCallRule, inCallChangingRule,
        inCallChangingCancelingRule, commonRule, strayRequest, takes_refused]

lemma takes_completeChange {r : Response}
    (hs : s.state = .inCallChanging ∨ s.state = .inCallChangingCanceling) :
    (s.completeChange r).Meets .nothing (s.Takes r.body) := by
  have hup : s.state.isInCall := by rcases hs with hs | hs <;> rw [hs] <;> rfl
  refine meets_acknowledge (fun _ => trivial) ?_ s r
  refine .of_learns rfl (.captures r.body rfl (.inl hup) ?_ ?_)
  · exact capturing_peerDescription s r.body
  · exact fun d hd => establishes_established hd

/-- A positive answer to an own invitation brings a call up or settles a change, unless the call is
being cancelled, or nothing comes of it. -/
lemma takes_of_success (profile : Profile) (s : Session) {r : Response} (hm : r.method = .invite)
    (hr : isSuccess r.status) :
    (s.dialogScript profile (.response r)).Meets .nothing
      ((s.attaching (.response r)).Takes r.body) := by
  have hprovisional := not_isProvisional_of_isSuccess hr
  have halerting := not_isAlerting_of_isSuccess hr
  simp only [dialogScript]
  generalize s.attaching (.response r) = t
  cases hs : t.state with
  | outgoingCall | outgoingCallRingBack =>
    simp only [stateRule, hs, outgoingCallRule, hm, if_true, inviteResponse, halerting,
      hprovisional, hr, Bool.false_eq_true, if_false]
    refine meets_acknowledge (fun _ => trivial) ?_ t r
    refine .of_learns rfl (.replaces r.body (by rw [hs]; rfl) rfl rfl ?_)
    exact fun d hd => establishes_established hd
  | outgoingCallCanceling =>
    simp only [stateRule, hs, outgoingCallCancelingRule, hm, if_true, cancelledInviteResponse,
      hprovisional, hr, Bool.false_eq_true, if_false, reduceCtorEq]
    refine meets_acknowledge (fun _ => trivial) (meets_hangUp (fun _ => trivial) ?_ t) t r
    have hended : ∀ d, Notice.callEnded ≠ .callEstablished d := by rintro d ⟨⟩
    exact .of_learns rfl (learns_finished hended t _)
  | inCallChanging =>
    simp only [stateRule, hs, inCallChangingRule, hm, if_true, changeResponse, hprovisional, hr,
      Bool.false_eq_true, if_false]
    exact takes_completeChange (.inl hs)
  | inCallChangingCanceling =>
    simp only [stateRule, hs, inCallChangingCancelingRule, hm, if_true, cancelledChangeResponse,
      hprovisional, hr, Bool.false_eq_true, if_false, reduceCtorEq]
    exact takes_completeChange (.inr hs)
  | _ =>
    cases hinvite : t.invite <;>
      simp [stateRule, hs, hm, hinvite, registeringRule, incomingCallRule,
        incomingCallAnsweringRule, inCallRule, inCallAnsweringRule, commonRule, takes_refused]

/-! ### Invitations -/

/-- The network accepts an invitation on behalf of the session, or refuses to. -/
lemma run_acceptInvite {r : Request} {answer : Octets} {tag : Tag} {u : ServerTransaction}
    {next : Dialog → Outcome} (hnext : ∀ d, s.Learns (some r.body) (next d)) (net : σ) :
    let script : Script Outcome :=
      .send (.acceptInvite r profile answer tag u) fun (d : Dialog) => .done (next d)
    (∃ cause, (script.run net).1 = .error cause) ∨
      ∃ o, (script.run net).1 = .ok o ∧ (script.calls net).any (·.accepts r) ∧
        s.Learns (some r.body) o := by
  rcases Script.run_send_done (.acceptInvite r profile answer tag u) next net with
    hrefused | ⟨d, hrun, hcalls⟩
  · exact .inl hrefused
  · have haccepts := congrArg (fun calls => calls.any (·.accepts r)) hcalls
    exact .inr ⟨next d, hrun, haccepts.trans (by simp [Call.accepts]), hnext d⟩

/-- A change that the peer offers is accepted, or the network refuses to. -/
lemma run_acceptChange (profile : Profile) (hs : s.state = .inCall) (r : Request) (net : σ) :
    (∃ cause, ((s.acceptChange profile r).run net).1 = .error cause) ∨
      ∃ o, ((s.acceptChange profile r).run net).1 = .ok o ∧
        ((s.acceptChange profile r).calls net).any (·.accepts r) ∧ s.Learns (some r.body) o := by
  have hlearns : ∀ d : Dialog, s.Learns (some r.body)
      (({ s.capturing r.body with
          dialog := some d, invite := some r, serverTransaction := some r.serverTransaction,
          state := .inCallAnswering } : Session).telling (.callChanged r.body)) := by
    intro d
    refine learns_of_capturing (by rw [hs]; rfl) rfl rfl fun d hd => ?_
    cases establishes_of_reports rfl hd
  unfold acceptChange withLocalTag
  split
  · exact run_acceptInvite hlearns net
  · exact run_acceptInvite hlearns _

/-- Everybody else declines an invitation, if he answers at all. -/
lemma dialogScript_of_declined (profile : Profile) (s : Session) {r : Request}
    (hm : r.method = .invite) (hs : s.state ≠ .inCall) :
    let t := s.attaching (.request r)
    s.dialogScript profile (.request r) = .done t.refused ∨
      s.dialogScript profile (.request r) = respond r 486 (.done t.consumed) := by
  intro t
  have hstate : t.state = s.state := attaching_state s _
  cases hs' : s.state with
  | inCall => exact absurd hs' hs
  | _ =>
    cases hinvite : t.invite <;>
      simp [dialogScript, stateRule, hs', hm, hinvite, t, registeringRule,
        incomingCallRule, incomingCallAnsweringRule, outgoingCallRule, outgoingCallCancelingRule,
        inCallAnsweringRule, inCallChangingRule, inCallChangingCancelingRule, commonRule,
        strayRequest]

/-- An invitation describes the media of the peer if the session accepts it at once. -/
lemma learns_of_invite (profile : Profile) (hrole : s.role = .dialog) {r : Request}
    (he : turn.event = .request r) (hm : r.method = .invite) :
    (s.attaching turn.event).Learns (s.described? profile turn) (s.outcome profile turn) := by
  have hstate := attaching_state s (.request r)
  simp only [described?, he, hm, asked, outcome, process_fst, script_of_dialog hrole]
  by_cases hs : s.state = .inCall
  · have hscript : s.dialogScript profile (.request r) =
        (s.attaching (.request r)).acceptChange profile r := by
      simp [dialogScript, stateRule, hs, inCallRule, hm]
    rw [hscript]
    rcases run_acceptChange profile (hstate.trans hs) r turn.net with
      ⟨cause, hrun⟩ | ⟨o, hrun, haccepts, hlearns⟩
    · rw [hrun]
      exact learns_transportFailed _ _ _ _
    · rw [hrun, if_pos haccepts]
      exact hlearns
  · rcases dialogScript_of_declined profile s hm hs with hscript | hscript
    · rw [hscript]
      exact learns_of_same rfl rfl
    · rw [hscript]
      generalize s.attaching (.request r) = t
      obtain ⟨refused, hcalls⟩ : ∃ refused,
          (respond r 486 (.done t.consumed)).calls turn.net = [⟨.respond r 486, refused⟩] :=
        Script.calls_send (fun _ _ => rfl) turn.net
      rw [hcalls, if_neg (by simp [Call.accepts])]
      rcases Script.run_send_done (.respond r 486) (fun _ => t.consumed) turn.net with
        ⟨cause, hrun⟩ | ⟨_, hrun, -⟩
      · rw [respond, hrun]
        exact learns_transportFailed _ _ _ _
      · rw [respond, hrun]
        exact learns_of_same rfl rfl

/-! ### All other events -/

/-- A positive answer to another own request is no reason to go on to another call state. -/
lemma dialogScript_of_other_success (profile : Profile) (s : Session) {r : Response}
    (hm : r.method ≠ .invite) (hr : isSuccess r.status) :
    ∃ o, s.dialogScript profile (.response r) = .done o ∧
      (o.session.state = s.state ∨ o.session.state = .ready) := by
  have hprovisional := not_isProvisional_of_isSuccess hr
  have hstate := attaching_state s (.response r)
  rw [← hstate]
  simp only [dialogScript]
  generalize s.attaching (.response r) = t
  cases hs : t.state with
  | registering | deregistering =>
    by_cases hregister : r.method = .register <;>
      simp [stateRule, hs, registeringRule, hregister, registrationResponse, hprovisional, hr,
        finished, cleared, idle, commonRule, refused]
  | outgoingCallCanceling | inCallChangingCanceling =>
    by_cases hcancel : r.method = .cancel
    · by_cases hfailed : 400 ≤ r.status <;>
        simp [stateRule, hs, outgoingCallCancelingRule, inCallChangingCancelingRule, hcancel,
          hfailed, failedWith_eq_finished, finished, cleared, idle, consumed]
    · simp [stateRule, hs, outgoingCallCancelingRule, inCallChangingCancelingRule, hcancel, hm,
        commonRule, refused]
  | _ =>
    refine ⟨t.refused, ?_, .inl hs⟩
    cases hinvite : t.invite <;>
      simp [stateRule, hs, hm, hinvite, incomingCallRule, incomingCallAnsweringRule,
        outgoingCallRule, inCallRule, inCallAnsweringRule, inCallChangingRule, commonRule]

/-- An event of another kind says nothing about media, whatever it does to the session. -/
lemma Reaction.learns {R : Promise} (h : Reaction R profile s e o)
    (hrequest : ∀ r, e = .request r → r.method ≠ .ack ∧ r.method ≠ .invite)
    (hresponse : ∀ r, e = .response r → isSuccess r.status →
      o.session.state = s.state ∨ o.session.state = .ready) : s.Learns none o := by
  have htold : ∀ {o : Outcome} {id : SessionId} {notice : Notice}, o.reports = [⟨id, notice⟩] →
      (∀ d, notice ≠ .callEstablished d) → ∀ d, ¬ o.Establishes d :=
    fun hreports hnotice d hd => hnotice d (establishes_of_reports hreports hd)
  cases h with
  | refused | consumed => exact learns_of_same rfl rfl
  | ended h => exact learns_finished h.ne_callEstablished s none
  | registers expiry next tag t hs he hnext =>
    have hdown : next.isInCall = false := by
      revert hnext
      cases next <;> decide
    refine .keeps rfl (fun _ => hs) (fun _ => .inl hs) (fun hup => ?_) (htold rfl nofun)
    cases hdown.symm.trans hup
  | calls callee offer tag t d hs =>
    exact .keeps rfl nofun (fun _ => .inl hs) nofun (htold rfl nofun)
  | challenged r t hs =>
    exact .keeps rfl (fun h => h) .inr (fun h => h) (not_establishes_of_silent rfl)
  | alerted r hs =>
    exact .keeps rfl nofun (fun _ => .inr (by rw [hs]; rfl)) nofun (htold rfl nofun)
  | cancelsCall hs =>
    have hout : s.state.isOutgoing := by rcases hs with hs | hs <;> rw [hs] <;> rfl
    exact .keeps rfl nofun (fun _ => .inr hout) nofun (not_establishes_of_silent rfl)
  | accepts => exact .keeps rfl nofun nofun nofun (not_establishes_of_silent rfl)
  | startsChange offer dialog t hs | cancelsChange hs | keepsCall r hs =>
    exact .keeps rfl nofun nofun (fun _ => by rw [hs]; rfl) (not_establishes_of_silent rfl)
  | confirmed r _ he hm | changeConfirmed r _ he hm => exact absurd hm (hrequest r he).1
  | acceptsChange r _ _ _ he hm => exact absurd hm (hrequest r he).2
  | answered r hs he hr | changed r hs he hr =>
    rcases hresponse r he hr with h | h
    · rcases hs with hs | hs <;> rw [hs] at h <;> cases h
    · cases h

lemma outcome_of_done (hrole : s.role = .dialog)
    (h : s.dialogScript profile turn.event = .done o) : s.outcome profile turn = o := by
  unfold outcome
  rw [process_fst, script_of_dialog hrole, h]
  rfl

lemma learns_of_reaction (profile : Profile) (hrole : s.role = .dialog)
    (hnone : s.described? profile turn = none)
    (hrequest : ∀ r, turn.event = .request r → r.method ≠ .ack ∧ r.method ≠ .invite)
    (hresponse : ∀ r, turn.event = .response r → isSuccess r.status → r.method ≠ .invite) :
    (s.attaching turn.event).Learns (s.described? profile turn) (s.outcome profile turn) := by
  rw [hnone]
  rcases reacts_turn (Promise.nothing_keptBy σ) profile hrole turn with h | ⟨-, cause, hfailed⟩
  · refine h.learns hrequest fun r he hr => ?_
    obtain ⟨o, hscript, hstate⟩ := dialogScript_of_other_success profile s (hresponse r he hr) hr
    rw [outcome_of_done hrole (he ▸ hscript), attaching_state]
    exact hstate
  · rw [hfailed]
    exact learns_transportFailed _ _ _ _

/-- What the session holds of the peer's media after a turn comes from the message of the turn, or
from before. -/
lemma learns_turn (profile : Profile) (hrole : s.role = .dialog) (turn : Turn σ) :
    s.Learns (s.described? profile turn) (s.outcome profile turn) := by
  refine Learns.of_attaching (e := turn.event) ?_
  cases he : turn.event with
  | request r =>
    rw [← he]
    cases hm : r.method with
    | ack =>
      refine learns_of_takes hrole r.body ?_ ?_
      · simp only [described?, he, hm]
      · rw [he]
        exact takes_of_ack profile s hm
    | invite => exact learns_of_invite profile hrole he hm
    | _ =>
      refine learns_of_reaction profile hrole (by simp only [described?, he, hm]) ?_ ?_
      · intro r' he'
        cases he.symm.trans he'
        rw [hm]
        exact ⟨nofun, nofun⟩
      · intro r' he'
        cases he.symm.trans he'
  | response r =>
    rw [← he]
    by_cases hdescribes : r.method = .invite ∧ isSuccess r.status
    · obtain ⟨hm, hr⟩ := hdescribes
      refine learns_of_takes hrole r.body ?_ ?_
      · simp only [described?, he, hm, hr, true_and]
      · rw [he]
        exact takes_of_success profile s hm hr
    · refine learns_of_reaction profile hrole ?_ ?_ ?_
      · simp only [described?, he]
        exact if_neg fun h => hdescribes ⟨h.1, h.2.1⟩
      · intro r' he'
        cases he.symm.trans he'
      · intro r' he' hr hm
        cases he.symm.trans he'
        exact hdescribes ⟨hm, hr⟩
  | _ =>
    rw [← he]
    refine learns_of_reaction profile hrole (by simp only [described?, he]) ?_ ?_
    · intro r he'
      cases he.symm.trans he'
    · intro r he'
      cases he.symm.trans he'

/-! ### The whole call -/

/-- The session holds the latest description on record. While an own invitation is under way there
is none; and of a call that came in, the session holds one as soon as the call is up, and never an
empty one. -/
structure Mirrors (s : Session) (record : CallRecord) : Prop where
  role : s.role = .dialog
  latest : s.peerDescription.getD [] = record.latest
  idle : s.state = .ready → s.peerDescription = none ∧ record = .blank
  outgoing : s.state.isOutgoing → record.inbound = false ∧ record.latest = []
  inbound : record.inbound → s.peerDescription ≠ some []
  up : record.inbound → s.state.isInCall → s.peerDescription ≠ none

lemma mirrors_blank (hrole : s.role = .dialog) (hnone : s.peerDescription = none) :
    s.Mirrors .blank where
  role := hrole
  latest := by rw [hnone]; rfl
  idle _ := ⟨hnone, rfl⟩
  outgoing _ := ⟨rfl, rfl⟩
  inbound := nofun
  up := nofun

lemma mirrors_takingIn (fresh : SessionId) (r : Request) (tag : Tag) (t : ServerTransaction) :
    (takingIn fresh r tag t).Mirrors ⟨true, [r.body]⟩ := by
  have hdescription : (takingIn fresh r tag t).peerDescription =
      if r.body = [] then none else some r.body := capturing_peerDescription _ _
  refine ⟨takingIn_role fresh r tag t, ?_, nofun, nofun, fun _ => ?_, nofun⟩
  · rw [hdescription]
    by_cases hbody : r.body = [] <;> simp [CallRecord.latest, hbody]
  · rw [hdescription]
    split
    · nofun
    · next hbody => simpa using hbody

/-- A turn that changes what the session holds changes the record in the same way. -/
lemma Mirrors.learns {brought : Option Octets} (h : s.Mirrors record)
    (hrole : o.session.role = .dialog) (hlearns : s.Learns brought o) :
    o.session.Mirrors
      (if o.session.state = .ready then .blank else record.adding brought) := by
  cases hlearns with
  | forgets hidle hnone =>
    rw [if_pos hidle]
    exact mirrors_blank hrole hnone
  | keeps hsame hidle hout hup =>
    split
    · next hready => exact mirrors_blank hrole (hsame.trans (h.idle (hidle hready)).1)
    · next hbusy =>
      rw [CallRecord.adding_none]
      refine ⟨hrole, hsame ▸ h.latest, fun hready => absurd hready hbusy, fun ho => ?_,
        hsame ▸ h.inbound, fun hin hi => hsame ▸ h.up hin (hup hi)⟩
      rcases hout ho with hs | hs
      · rw [(h.idle hs).2]
        exact ⟨rfl, rfl⟩
      · exact h.outgoing hs
  | replaces body hs hup hnew =>
    obtain ⟨hin, hlatest⟩ := h.outgoing hs
    rw [if_neg (by rw [hup]; nofun)]
    refine ⟨hrole, ?_, by rw [hup]; nofun, by rw [hup]; nofun, ?_, ?_⟩
    · rw [hnew, CallRecord.latest_adding, hlatest, Option.getD_some]
      split <;> simp_all
    · exact fun h => by cases hin.symm.trans h
    · exact fun h => by cases hin.symm.trans h
  | captures body hup hs hnew =>
    have hbusy : o.session.state ≠ .ready := fun hready => by rw [hready] at hup; cases hup
    have hout : o.session.state.isOutgoing = false := by
      revert hup
      cases o.session.state <;> decide
    rw [if_neg hbusy]
    refine ⟨hrole, ?_, fun hready => absurd hready hbusy, fun ho => ?_, fun hin => ?_,
      fun hin _ => ?_⟩
    · rw [hnew, CallRecord.latest_adding, ← h.latest]
      split <;> rfl
    · cases hout.symm.trans ho
    · rw [hnew]
      split
      · exact h.inbound hin
      · next hbody => simpa using hbody
    · rcases hs with hs | hs
      · rw [hnew]
        split
        · exact h.up hin hs
        · nofun
      · exact hs

/-- What a session holds is on record, whatever has happened to it. -/
lemma OnRecord.mirrors (h : OnRecord σ profile s record) : s.Mirrors record := by
  induction h with
  | created id => exact mirrors_blank rfl rfl
  | spawned hr fresh r net hs =>
    obtain ⟨-, tag, t, -, rfl⟩ := takingIn_of_spawned (Promise.nothing_keptBy σ) hr hs
    exact mirrors_takingIn fresh r tag t
  | step _ turn ih =>
    exact ih.learns (after_role ih.role profile [turn]) (learns_turn profile ih.role turn)

/-- The listener hears what the session holds. -/
lemma Learns.told {brought : Option Octets} {d : Octets} (h : s.Learns brought o)
    (hd : o.Establishes d) : o.session.state.isInCall ∧ d = o.session.peerDescription.getD [] := by
  cases h with
  | forgets _ _ htold | keeps _ _ _ _ htold => exact absurd hd (htold d)
  | replaces body _ hup hnew htold =>
    rw [hup, hnew]
    exact ⟨rfl, htold d hd⟩
  | captures body hup _ _ htold => exact ⟨hup, htold d hd⟩

/-- A session that was created idle, or that took an invitation in, has come to a turn, whatever has
happened to it before and however the network has answered. If its listener hears that the call is
up, then with the last body on record of this call that says anything, or with an empty one if none
does; and of a call that came in, the body is not empty. -/
theorem established_describes_latest (h : OnRecord σ profile s record) (turn : Turn σ)
    {description : Octets} (hd : (s.outcome profile turn).Establishes description) :
    description = (s.recording profile turn record).latest ∧
      ((s.recording profile turn record).inbound → description ≠ []) := by
  have hnext := (OnRecord.step h turn).mirrors
  obtain ⟨hup, hdescription⟩ := (learns_turn profile h.mirrors.role turn).told hd
  refine ⟨hdescription.trans hnext.latest, fun hin hempty => ?_⟩
  cases hheld : (s.outcome profile turn).session.peerDescription with
  | none => exact hnext.up hin hup hheld
  | some body =>
    rw [hheld, Option.getD_some] at hdescription
    exact hnext.inbound hin (hheld.trans (congrArg some (hdescription.symm.trans hempty)))

/-- Carol calls without saying anything about her media, and does so when she acknowledges the
answer: then Alice hears of it. -/
theorem established_describes_latest_of_late_offer :
    let profile := Profile.ofUri ⟨some "alice", "localhost", none⟩ ""
    let carol := Peer.ofUri ⟨some "carol", "localhost", none⟩
    let r : Request := ⟨.invite, ⟨"call"⟩, ⟨"branch"⟩, carol, [], none⟩
    let ack : Turn Recorder := .recorded (.request { r with method := .ack, body := [1] })
    ∃ s record, OnRecord Recorder profile s record ∧ record.inbound ∧ record.latest = [] ∧
      (s.outcome profile ack).Establishes [1] ∧ (s.recording profile ack record).latest = [1] := by
  intro profile carol r ack
  have hspawned : ((idle 0 .receiver).process profile 1 (.request r)
      (Recorder.ofHost "localhost")).1.spawned = some _ := rfl
  have hlife := (OnRecord.spawned rfl 1 r _ hspawned).step (.recorded (.answerCall [2]))
  have htold : ∀ s : Session, (s.outcome profile ack).reports = [⟨1, .callEstablished [1]⟩] →
      (s.outcome profile ack).Establishes [1] :=
    fun s hreports => ⟨1, hreports ▸ List.mem_singleton_self _⟩
  refine ⟨_, _, hlife, by decide +kernel, by decide +kernel, htold _ (by decide +kernel), ?_⟩
  exact (established_describes_latest hlife ack (htold _ (by decide +kernel))).1.symm

end Session

end SipAgent
