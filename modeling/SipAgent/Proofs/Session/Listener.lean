import SipAgent.Proofs.Session.Process
import SipAgent.Transport.Recorder

/-!
# What a listener hears of a session

A listener can follow the state of a session from what it is told: `Standing` is an automaton that
reads notices, and `listener_protocol` says that it accepts what any session says in its whole life,
over any network, and always stands where the state of the session is. So a call that was announced
is ended exactly once, ringing back is heard at most once, and an idle session only complains when
the network has just refused a command.

The proof is a simulation: `Standing.Fits` relates the automaton to the states of the machine, and
`hear_step` says that one event keeps them related.
-/

namespace SipAgent

/-! ### The automaton -/

/-- Where a session stands, as far as its state tells. -/
inductive Phase where
  | idle
  | outgoing
  | incoming
  | up
  | registration
  deriving DecidableEq, Repr

/-- The phase of a state. -/
def SessionState.phase : SessionState → Phase
  | .ready => .idle
  | .registering | .deregistering => .registration
  | .outgoingCall | .outgoingCallRingBack | .outgoingCallCanceling => .outgoing
  | .incomingCall | .incomingCallAnswering => .incoming
  | .inCall | .inCallAnswering | .inCallChanging | .inCallChangingCanceling => .up

/-- A report, and whether the network refused a command in the step that brought it. -/
structure Hearing where
  report : Report
  refused : Bool
  deriving DecidableEq, Repr

/-- Where a listener stands with a session. -/
inductive Standing where
  /-- The session has taken an invitation in, and nobody has been told yet. -/
  | unannounced
  | idle
  /-- An own call is under way; ringing back has been heard or not. -/
  | outgoing (alerted : Bool)
  | incoming
  | up
  | registration
  deriving DecidableEq, Repr

namespace Standing

/-- The phase that a listener takes the session to be in. -/
def phase : Standing → Phase
  | .unannounced => .idle
  | .idle => .idle
  | .outgoing _ => .outgoing
  | .incoming => .incoming
  | .up => .up
  | .registration => .registration

/-- Where a listener stands after a notice; none if the notice is out of place. -/
def next (refused : Bool) : Standing → Notice → Option Standing
  | .unannounced, .ringing _ _ => some .incoming
  | .idle, .calling => some (.outgoing false)
  | .idle, .registering => some .registration
  | .idle, .error _ _ => if refused then some .idle else none
  | .idle, .registrationFailed _ _ => if refused then some .idle else none
  | .outgoing false, .ringingBack => some (.outgoing true)
  | .outgoing _, .callEstablished _ => some .up
  | .outgoing _, .callEnded => some .idle
  | .outgoing _, .callBusy => some .idle
  | .outgoing _, .error _ _ => some .idle
  | .incoming, .callEstablished _ => some .up
  | .incoming, .callEnded => some .idle
  | .incoming, .error _ _ => some .idle
  | .up, .callChanged _ => some .up
  | .up, .callEstablished _ => some .up
  | .up, .callEnded => some .idle
  | .up, .error _ _ => some .idle
  | .registration, .registrationDone _ => some .idle
  | .registration, .registrationFailed _ _ => some .idle
  | .registration, .registrationTimeout => some .idle
  | _, _ => none

/-- Where a listener stands after what it hears. -/
def hear (standing : Standing) (h : Hearing) : Option Standing :=
  standing.next h.refused h.report.notice

/-- Where a listener stands after a whole life; none if anything in it is out of place. -/
def follow (standing : Standing) (heard : List Hearing) : Option Standing :=
  heard.foldlM hear standing

@[simp] lemma follow_nil (standing : Standing) : standing.follow [] = some standing := rfl

@[simp] lemma follow_singleton (standing : Standing) (h : Hearing) :
    standing.follow [h] = standing.hear h := by
  unfold follow
  simp

lemma follow_append (standing : Standing) (first later : List Hearing) :
    standing.follow (first ++ later) =
      (standing.follow first).bind fun standing => standing.follow later := by
  unfold follow
  rw [List.foldlM_append]
  rfl

end Standing

/-! ### Lives of sessions -/

namespace Session

variable {σ : Type}

/-- What is heard of one event. -/
def heard [Transport σ] (profile : Profile) (fresh : SessionId) (s : Session) (e : SessionEvent)
    (net : σ) : List Hearing :=
  let refused := ((s.script profile fresh e).refusal? net).isSome
  (s.process profile fresh e net).1.reports.map fun report => ⟨report, refused⟩

/-- Feed events to a session, one after the other; the result is the session afterwards and all
that is heard. -/
def live [Transport σ] (profile : Profile) (fresh : SessionId) (s : Session) (net : σ) :
    List SessionEvent → Session × List Hearing
  | [] => (s, [])
  | e :: later =>
    let (outcome, after) := s.process profile fresh e net
    let (last, more) := live profile fresh outcome.session after later
    (last, s.heard profile fresh e net ++ more)

/-- A session as it comes into being, where its listener stands with it, and what is heard at its
birth. -/
inductive Newborn (σ : Type) [Transport σ] (profile : Profile) :
    Session → Standing → List Hearing → Prop where
  | created (id : SessionId) : Newborn σ profile (.idle id .dialog) .idle []
  /-- A receiver took an invitation in. -/
  | spawned {receiver s : Session} (hr : receiver.role = .receiver) (fresh : SessionId)
      (e : SessionEvent) (net : σ)
      (hs : (receiver.process profile fresh e net).1.spawned = some s) :
      Newborn σ profile s .unannounced (receiver.heard profile fresh e net)

end Session

/-! ### Where a listener stands with a state -/

/-- A listener that stands here has followed a session to this state. -/
structure Standing.Fits (standing : Standing) (state : SessionState) : Prop where
  phase : standing.phase = state.phase
  announced : standing ≠ .unannounced
  /-- Ringing back has not been heard yet. -/
  silent : state = .outgoingCall → standing = .outgoing false

lemma SessionState.isRegistration_iff {state : SessionState} :
    state.isRegistration ↔ state.phase = .registration := by
  cases state <;> decide

lemma SessionState.isOutgoing_iff {state : SessionState} :
    state.isOutgoing ↔ state.phase = .outgoing := by
  cases state <;> decide

lemma SessionState.isCall_iff {state : SessionState} :
    state.isCall ↔ state.phase = .outgoing ∨ state.phase = .incoming ∨ state.phase = .up := by
  cases state <;> decide

namespace Standing.Fits

variable {standing : Standing} {state : SessionState}

lemma of_phase (hs : standing.phase = state.phase) (hannounced : standing ≠ .unannounced)
    (hstate : state ≠ .outgoingCall) : standing.Fits state :=
  ⟨hs, hannounced, fun h => absurd h hstate⟩

lemma idle : Fits .idle .ready :=
  of_phase rfl (by decide) (by decide)

lemma eq_idle (h : standing.Fits .ready) : standing = .idle := by
  obtain ⟨hphase, hannounced, -⟩ := h
  cases standing <;> first | rfl | contradiction

lemma eq_registration (h : standing.Fits state) (hs : state.isRegistration) :
    standing = .registration := by
  have hphase := h.phase.trans (SessionState.isRegistration_iff.mp hs)
  cases standing <;> first | rfl | cases hphase

lemma eq_outgoing (h : standing.Fits state) (hs : state.phase = .outgoing) :
    ∃ alerted, standing = .outgoing alerted := by
  have hphase := h.phase.trans hs
  cases standing <;> first | exact ⟨_, rfl⟩ | cases hphase

lemma eq_incoming (h : standing.Fits state) (hs : state.phase = .incoming) :
    standing = .incoming := by
  have hphase := h.phase.trans hs
  cases standing <;> first | rfl | cases hphase

lemma eq_up (h : standing.Fits state) (hs : state.phase = .up) : standing = .up := by
  have hphase := h.phase.trans hs
  cases standing <;> first | rfl | cases hphase

end Standing.Fits

namespace Standing

variable {standing : Standing} {state : SessionState} {refused : Bool}

/-- A notice that is answered alike in all phases of a call. -/
lemma next_of_call (h : standing.Fits state) (hs : state.isCall) {notice : Notice}
    {after : Option Standing} (hout : ∀ alerted, (outgoing alerted).next refused notice = after)
    (hin : incoming.next refused notice = after) (hup : up.next refused notice = after) :
    standing.next refused notice = after := by
  rcases SessionState.isCall_iff.mp hs with hs | hs | hs
  · obtain ⟨alerted, rfl⟩ := h.eq_outgoing hs
    exact hout alerted
  · rw [h.eq_incoming hs, hin]
  · rw [h.eq_up hs, hup]

lemma next_callEnded (h : standing.Fits state) (hs : state.isCall) :
    standing.next refused .callEnded = some .idle :=
  next_of_call h hs (by rintro (_ | _) <;> rfl) rfl rfl

lemma next_error (h : standing.Fits state) (hs : state.isCall) (code : ErrorCode)
    (message : String) : standing.next refused (.error code message) = some .idle :=
  next_of_call h hs (by rintro (_ | _) <;> rfl) rfl rfl

lemma next_callEstablished (h : standing.Fits state) (hs : state.isCall)
    (description : Octets) : standing.next refused (.callEstablished description) = some .up :=
  next_of_call h hs (by rintro (_ | _) <;> rfl) rfl rfl

/-- The failure of what is under way is told in the right words. -/
lemma next_failure (h : standing.Fits state) (hs : state ≠ .ready) (code : ErrorCode)
    (message : String) :
    standing.next refused (Session.failureNotice state.isRegistration code message) =
      some .idle := by
  unfold Session.failureNotice
  split
  · next hreg => rw [h.eq_registration hreg]; rfl
  · next hreg => exact next_error h (SessionState.isCall_of_not hreg hs) code message

end Standing

/-! ### One event -/

namespace Session

variable {σ : Type} {R : Promise} {profile : Profile} {s : Session} {e : SessionEvent}
  {standing : Standing} {refused : Bool}

lemma next_rejectionNotice (h : standing.Fits s.state)
    (hs : s.state.isOutgoing ∨ s.state.phase = .up) (r : Response) :
    standing.next refused (s.rejectionNotice r) = some .idle := by
  have hready : s.state ≠ .ready := by
    rintro hready
    rw [hready] at hs
    revert hs
    decide
  unfold rejectionNotice
  split
  · next hbusy =>
    rcases hs with hs | hs
    · obtain ⟨alerted, rfl⟩ := h.eq_outgoing (SessionState.isOutgoing_iff.mp hs)
      cases alerted <;> rfl
    · revert hbusy hs
      cases s.state <;> simp [SessionState.isInCall, SessionState.phase]
  · exact Standing.next_failure h hready _ _

/-- However a session ends, its listener stands at the beginning again. -/
lemma Ending.next {notice : Notice} (h : s.Ending profile e notice)
    (hfits : standing.Fits s.state) : standing.next refused notice = some .idle := by
  cases h with
  | granted r hs | registrationRejected r code hs | registrationTimedOut t hs =>
    rw [hfits.eq_registration hs]; rfl
  | badCredentials r hs | foreignRealm r realm hs =>
    have hready : s.state ≠ .ready := by rintro h; rw [h] at hs; cases hs
    exact Standing.next_failure hfits hready _ _
  | hungUp hs =>
    refine Standing.next_callEnded hfits ?_
    revert hs
    cases s.state <;> decide
  | withdrawn r hs => exact Standing.next_callEnded hfits (by rw [hs]; rfl)
  | bye r hs => exact Standing.next_callEnded hfits hs
  | undescribed r hs => exact Standing.next_error hfits (by rw [hs]; rfl) _ _
  | cancelled r hs => exact Standing.next_callEnded hfits (by rw [hs]; rfl)
  | rejected r hs =>
    refine next_rejectionNotice hfits ?_ r
    rcases hs with hs | hs | hs
    · exact .inl hs
    · exact .inr (by rw [hs]; rfl)
    · exact .inr (by rw [hs]; rfl)
  | callTimedOut t hs => exact Standing.next_error hfits hs _ _
  | transactionTerminated t hs =>
    have hready : s.state ≠ .ready := by rintro h; rw [h] at hs; cases hs
    exact Standing.next_failure hfits hready _ _
  | dialogTerminated d hs | connectionLost hs => exact Standing.next_failure hfits hs _ _

lemma follow_report (s : Session) (notice : Notice) :
    standing.follow ([⟨s.id, notice⟩].map fun report => ⟨report, refused⟩) =
      standing.next refused notice := by
  simp [Standing.hear]

/-- The listener of a session can follow every reaction. -/
lemma Reaction.follow {o : Outcome} (h : Reaction R profile s e o)
    (hfits : standing.Fits s.state) :
    ∃ last, standing.follow (o.reports.map fun report => ⟨report, refused⟩) = some last ∧
      last.Fits o.session.state := by
  cases h with
  | refused | consumed => exact ⟨standing, rfl, hfits⟩
  | @ended notice h => exact ⟨.idle, (follow_report s notice).trans (h.next hfits), .idle⟩
  | registers expiry next tag t hs he hnext =>
    rw [hs] at hfits
    obtain rfl := hfits.eq_idle
    refine ⟨.registration, rfl, .of_phase ?_ (by decide) ?_⟩
    · exact (SessionState.isRegistration_iff.mp hnext).symm
    · rintro rfl
      cases hnext
  | calls callee offer tag t d hs =>
    rw [hs] at hfits
    obtain rfl := hfits.eq_idle
    exact ⟨.outgoing false, rfl, rfl, by decide, fun _ => rfl⟩
  | challenged => exact ⟨standing, rfl, hfits⟩
  | alerted r hs =>
    obtain rfl := hfits.silent hs
    exact ⟨.outgoing true, rfl, .of_phase rfl (by decide) nofun⟩
  | answered r hs =>
    have hcall : s.state.isCall := by rcases hs with hs | hs <;> rw [hs] <;> rfl
    refine ⟨.up, ?_, .of_phase rfl (by decide) nofun⟩
    exact (follow_report s _).trans <| Standing.next_callEstablished hfits hcall _
  | cancelsCall hs =>
    have hphase : s.state.phase = .outgoing := by rcases hs with hs | hs <;> rw [hs] <;> rfl
    obtain ⟨alerted, rfl⟩ := hfits.eq_outgoing hphase
    exact ⟨.outgoing alerted, rfl, .of_phase rfl nofun nofun⟩
  | accepts invite answer tag d hs =>
    obtain rfl := hfits.eq_incoming (by rw [hs]; rfl)
    exact ⟨.incoming, rfl, .of_phase rfl (by decide) nofun⟩
  | confirmed r hs =>
    refine ⟨.up, ?_, .of_phase rfl (by decide) nofun⟩
    exact (follow_report s _).trans <| Standing.next_callEstablished hfits (by rw [hs]; rfl) _
  | acceptsChange r tag d hs =>
    obtain rfl := hfits.eq_up (by rw [hs]; rfl)
    exact ⟨.up, rfl, .of_phase rfl (by decide) nofun⟩
  | changeConfirmed r hs =>
    obtain rfl := hfits.eq_up (by rw [hs]; rfl)
    exact ⟨.up, rfl, .of_phase rfl (by decide) nofun⟩
  | startsChange offer dialog t hs =>
    obtain rfl := hfits.eq_up (by rw [hs]; rfl)
    exact ⟨.up, rfl, .of_phase rfl (by decide) nofun⟩
  | changed r hs =>
    have hcall : s.state.isCall := by rcases hs with hs | hs <;> rw [hs] <;> rfl
    refine ⟨.up, ?_, .of_phase rfl (by decide) nofun⟩
    exact (follow_report s _).trans <| Standing.next_callEstablished hfits hcall _
  | cancelsChange hs =>
    obtain rfl := hfits.eq_up (by rw [hs]; rfl)
    exact ⟨.up, rfl, .of_phase rfl (by decide) nofun⟩
  | keepsCall r hs =>
    obtain rfl := hfits.eq_up (by rw [hs]; rfl)
    exact ⟨.up, rfl, .of_phase rfl (by decide) nofun⟩

/-! ### Refused commands -/

/-- An idle session only fails when the network refuses a command. -/
lemma Plan.unfailing {script : Script Outcome} (h : Plan profile s e script)
    (hs : s.state = .ready) : script.Unfailing := by
  cases h with
  | refuses | still => trivial
  | settles | byes => exact fun _ => trivial
  | registers | calls => exact fun _ _ => trivial
  | rejects _ hring | withdraws _ _ hring | accepts _ _ hring => rw [hs] at hring; cases hring
  | acceptsChange _ hcall | startsChange _ hcall => rw [hs] at hcall; cases hcall
  | challenged _ hown | acknowledges _ hown | endsAnswered _ hown | cancels hown =>
    rw [hs] at hown; cases hown
  | hangsUp hcall => rw [hs] at hcall; cases hcall
  | abandons =>
    unfold abandonDialog
    split <;> trivial

/-- The failure of a session as a whole leaves its listener at the beginning, too. -/
lemma follow_transportFailed (hfits : standing.Fits s.state) (hready : s.state = .ready → refused)
    (he : e.isRegistration → s.state = .ready) (cause : TransportError) :
    standing.follow ((s.transportFailed e cause).reports.map fun report => ⟨report, refused⟩) =
      some .idle := by
  refine (follow_report s _).trans ?_
  by_cases hs : s.state = .ready
  · rw [hs] at hfits
    obtain rfl := hfits.eq_idle
    rw [hready hs]
    unfold failureNotice
    split <;> rfl
  · have hplain : e.isRegistration = false := by
      rw [Bool.eq_false_iff]
      exact mt he hs
    rw [hplain, Bool.or_false]
    exact Standing.next_failure hfits hs _ _

/-! ### Whole lives -/

variable [Transport σ]

/-- One event keeps the standing of the listener and the state of the session together. -/
lemma hear_step (fresh : SessionId) (hs : s.role = .dialog) (hfits : standing.Fits s.state)
    (profile : Profile) (e : SessionEvent) (net : σ) :
    ∃ last, standing.follow (s.heard profile fresh e net) = some last ∧
      last.Fits (s.process profile fresh e net).1.session.state := by
  have hreacts := reacts_run (Promise.nothing_keptBy σ) profile fresh hs e net
  simp only [heard, process_fst]
  cases hrun : ((s.script profile fresh e).run net).1 with
  | ok outcome =>
    rw [hrun] at hreacts
    exact Reaction.follow hreacts (by rwa [attaching_state])
  | error cause =>
    rw [hrun] at hreacts
    refine ⟨.idle, ?_, .idle⟩
    refine follow_transportFailed hfits (fun hready => ?_) (by simpa [Reacts] using hreacts) cause
    rw [script_of_dialog hs] at hrun ⊢
    have hattached : (s.attaching e).state = .ready := by rw [attaching_state, hready]
    exact ((plan_dialogScript profile s e).unfailing hattached).refused hrun

lemma heard_session (fresh : SessionId) (hs : s.role = .dialog) (profile : Profile)
    (e : SessionEvent) (net : σ) :
    ∀ h ∈ s.heard profile fresh e net, h.report.session = s.id := by
  intro h hheard
  obtain ⟨report, hreport, rfl⟩ := List.mem_map.mp hheard
  exact (process_session profile fresh hs e net).2.2 report hreport

/-- A whole life keeps the standing of the listener and the state of the session together. -/
lemma hear_live (fresh : SessionId) (hs : s.role = .dialog) (hfits : standing.Fits s.state)
    (profile : Profile) (net : σ) (events : List SessionEvent) :
    (∀ h ∈ (s.live profile fresh net events).2, h.report.session = s.id) ∧
      ∃ last, standing.follow (s.live profile fresh net events).2 = some last ∧
        last.Fits (s.live profile fresh net events).1.state := by
  induction events generalizing s standing net with
  | nil => exact ⟨nofun, standing, rfl, hfits⟩
  | cons e later ih =>
    obtain ⟨hid, hrole, -⟩ := process_session profile fresh hs e net
    obtain ⟨next, hnext, hfits⟩ := hear_step fresh hs hfits profile e net
    obtain ⟨hsession, last, hlast, hfits⟩ := ih hrole hfits (s.process profile fresh e net).2
    refine ⟨?_, last, ?_, hfits⟩
    · intro h hheard
      rcases List.mem_append.mp hheard with hheard | hheard
      · exact heard_session fresh hs profile e net h hheard
      · exact (hsession h hheard).trans hid
    · simp only [live, Standing.follow_append, hnext, Option.bind_some]
      exact hlast

/-- A session that a receiver spawns has just been announced. -/
lemma Newborn.announced {birth : List Hearing} (h : s.Newborn σ profile standing birth) :
    s.role = .dialog ∧ (∀ h ∈ birth, h.report.session = s.id) ∧
      ∃ next, standing.follow birth = some next ∧ next.Fits s.state := by
  cases h with
  | created id => exact ⟨rfl, nofun, .idle, rfl, .idle⟩
  | @spawned receiver s hr fresh e net hs =>
    unfold heard
    rcases intake_process (Promise.nothing_keptBy σ) profile fresh hr e net with h | ⟨cause, h⟩
    · generalize (receiver.process profile fresh e net).1 = o at h hs ⊢
      cases h with
      | refused | consumed => cases hs
      | takesIn r tag t =>
        cases hs
        refine ⟨takingIn_role fresh r tag t, ?_, .incoming, rfl, ?_⟩
        · rintro h (_ | ⟨_, ⟨⟩⟩)
          exact (takingIn_id fresh r tag t).symm
        · exact .of_phase rfl (by decide) nofun
    · rw [h] at hs
      cases hs

/-- What a session tells over its whole life is a word of the automaton, which always stands in the
phase of the session's state. -/
theorem listener_protocol {birth : List Hearing} (h : s.Newborn σ profile standing birth)
    (fresh : SessionId) (net : σ) (events : List SessionEvent) :
    (∀ h ∈ birth ++ (s.live profile fresh net events).2, h.report.session = s.id) ∧
      ∃ last, standing.follow (birth ++ (s.live profile fresh net events).2) = some last ∧
        last.phase = (s.live profile fresh net events).1.state.phase := by
  obtain ⟨hrole, hbirth, next, hnext, hfits⟩ := h.announced
  obtain ⟨hsession, last, hlast, hfits⟩ := hear_live fresh hrole hfits profile net events
  refine ⟨?_, last, ?_, hfits.phase⟩
  · intro h hheard
    rcases List.mem_append.mp hheard with hheard | hheard
    · exact hbirth h hheard
    · exact hsession h hheard
  · rw [Standing.follow_append, hnext]
    exact hlast

/-- A call that comes in, is accepted, and is hung up: ringing, then the end, and idle again. -/
theorem listener_protocol_of_invitation :
    let profile := Profile.ofUri ⟨some "alice", "localhost", none⟩ ""
    let invite : Request :=
      ⟨.invite, ⟨"call"⟩, ⟨"branch"⟩, .ofUri ⟨some "bob", "localhost", none⟩, [], none⟩
    let receiver := Session.idle 0 .receiver
    let net := Recorder.ofHost "localhost"
    ∃ s, (receiver.process profile 1 (.request invite) net).1.spawned = some s ∧
      let birth := receiver.heard profile 1 (.request invite) net
      let life := s.live profile 2 net [.answerCall [], .endCall]
      birth.map (·.report.notice) = [.ringing invite.sender []] ∧
      life.2.map (·.report.notice) = [.callEnded] ∧
      (∀ h ∈ birth ++ life.2, h.report.session = s.id) ∧
      ∃ last, Standing.unannounced.follow (birth ++ life.2) = some last ∧
        last.phase = life.1.state.phase := by
  intro profile invite receiver net
  refine ⟨_, rfl, rfl, rfl, ?_⟩
  exact listener_protocol (.spawned rfl 1 (.request invite) net rfl) 2 net
    [.answerCall [], .endCall]

end Session

end SipAgent
