import SipAgent.Proofs.Session.Process

/-!
# Sessions that only register

A session that is given no commands but to register or to deregister is idle or in a registration
exchange, whatever the network makes of it. `Session.Exchange` lists what it can do with one event,
as far as whoever waits for the registration has to know.
-/

namespace SipAgent

/-- The listener has to do something for the registration to go on. -/
def Notice.isOutcome : Notice → Bool
  | .registrationDone _ => true
  | .registrationTimeout => true
  | .registrationFailed code _ => code ≠ .dataConnectionLost
  | _ => false

namespace Session

variable {s : Session} {e : SessionEvent} {o : Outcome} {profile : Profile} {fresh : SessionId}

/-- The session is idle or registering. -/
structure OnlyRegisters (s : Session) : Prop where
  role : s.role = .dialog
  state : s.state = .ready ∨ s.state.isRegistration = true

/-- The states before and after an event that a session which only registers goes through, and what
its listener is told. -/
inductive Exchange (e : SessionEvent) : SessionState → SessionState → List Notice → Prop where
  | unmoved {state : SessionState}
      (hasked : e.isRegistration = true → state.isRegistration = true)
      (hlost : e = .connectionLost → state = .ready) : Exchange e state state []
  | sent {busy : SessionState} (he : e.isRegistration = true)
      (hbusy : busy.isRegistration = true) : Exchange e .ready busy [.registering]
  | unsent (code : ErrorCode) (message : String) (he : e.isRegistration = true)
      (hcode : code ≠ .dataConnectionLost) :
      Exchange e .ready .ready [.registrationFailed code message]
  | settled {busy : SessionState} {notice : Notice} (he : e.isRegistration = false)
      (hlost : e ≠ .connectionLost) (hbusy : busy.isRegistration = true)
      (hnotice : notice.isOutcome = true) : Exchange e busy .ready [notice]
  | lost {busy : SessionState} (message : String) (he : e = .connectionLost)
      (hbusy : busy.isRegistration = true) :
      Exchange e busy .ready [.registrationFailed .dataConnectionLost message]
  /-- An idle session could not answer a request. -/
  | disturbed (code : ErrorCode) (message : String) (he : e.isRegistration = false) :
      Exchange e .ready .ready [.error code message]

/-- The session goes through an exchange, and tells its listener. -/
def Exchanges (s : Session) (e : SessionEvent) (o : Outcome) : Prop :=
  ∃ told, Exchange e s.state o.session.state told ∧ o.reports = told.map fun n => ⟨s.id, n⟩

lemma Exchange.state {before after : SessionState} {told : List Notice}
    (h : Exchange e before after told)
    (hbefore : before = .ready ∨ before.isRegistration = true) :
    after = .ready ∨ after.isRegistration = true := by
  cases h with
  | unmoved => exact hbefore
  | sent _ hbusy => exact .inr hbusy
  | unsent | settled | lost | disturbed => exact .inl rfl

/-- Nobody is told of a grant by asking for one. -/
lemma Exchange.of_asked {before after : SessionState} {told : List Notice}
    (h : Exchange e before after told) (he : e.isRegistration = true) :
    (∀ duration, .registrationDone duration ∉ told) ∧
      (before = .ready → after = .ready ∨ .registering ∈ told) := by
  cases h with
  | unmoved => exact ⟨fun _ => nofun, fun hready => .inl hready⟩
  | sent => exact ⟨fun _ => by simp, fun _ => .inr (List.mem_singleton_self _)⟩
  | unsent => exact ⟨fun _ => by simp, fun _ => .inl rfl⟩
  | settled hnot | disturbed _ _ hnot =>
    rw [he] at hnot
    cases hnot
  | lost _ hlost =>
    rw [hlost] at he
    cases he

/-- A session that was waiting for the registrar says how it went once it is idle again. -/
lemma Exchange.of_heard {before after : SessionState} {told : List Notice}
    (h : Exchange e before after told) (hbusy : before ≠ .ready) :
    told = [] ∨ after = .ready ∧ ∃ n, told = [n] := by
  cases h with
  | unmoved => exact .inl rfl
  | settled | lost => exact .inr ⟨rfl, _, rfl⟩
  | sent | unsent | disturbed => exact absurd rfl hbusy

/-- An idle session that is asked to register is on its way, or says that it cannot. -/
lemma Exchange.of_asked_idle {after : SessionState} {told : List Notice}
    (h : Exchange e .ready after told) (he : e.isRegistration = true) :
    told = [.registering] ∧ after.isRegistration = true ∨
      after = .ready ∧ ∃ code message, told = [.registrationFailed code message] := by
  cases h with
  | unmoved hasked => cases hasked he
  | sent _ hbusy => exact .inl ⟨rfl, hbusy⟩
  | unsent code message => exact .inr ⟨rfl, code, message, rfl⟩
  | settled hnot | disturbed _ _ hnot => cases he.symm.trans hnot
  | lost _ hlost =>
    rw [hlost] at he
    cases he

/-- A session that waits for the registrar takes no order. -/
lemma Exchange.of_asked_busy {before after : SessionState} {told : List Notice}
    (h : Exchange e before after told) (he : e.isRegistration = true)
    (hbusy : before.isRegistration = true) : told = [] ∧ after = before := by
  cases h with
  | unmoved => exact ⟨rfl, rfl⟩
  | sent | unsent => cases hbusy
  | settled hnot | disturbed _ _ hnot => cases he.symm.trans hnot
  | lost _ hlost =>
    rw [hlost] at he
    cases he

/-- A session that waits for the registrar goes on waiting, or tells the outcome. -/
lemma Exchange.of_waiting {before after : SessionState} {told : List Notice}
    (h : Exchange e before after told) (hbusy : before.isRegistration = true)
    (hlost : e ≠ .connectionLost) :
    told = [] ∧ after = before ∨ after = .ready ∧ ∃ n, told = [n] ∧ n.isOutcome = true := by
  cases h with
  | unmoved => exact .inl ⟨rfl, rfl⟩
  | settled _ _ _ hnotice => exact .inr ⟨rfl, _, rfl, hnotice⟩
  | lost _ h => exact absurd h hlost
  | sent | unsent | disturbed => cases hbusy

/-- Whatever the session was doing, it is idle once the data connection is lost. -/
lemma Exchange.of_connectionLost {before after : SessionState} {told : List Notice}
    (h : Exchange .connectionLost before after told) :
    after = .ready ∧ ∀ n ∈ told, n.isOutcome = false := by
  cases h with
  | unmoved _ hlost => exact ⟨hlost rfl, nofun⟩
  | sent he | unsent _ _ he => cases he
  | settled _ hlost => exact absurd rfl hlost
  | lost | disturbed =>
    refine ⟨rfl, fun n hn => ?_⟩
    rw [List.mem_singleton.mp hn]
    rfl

/-! ### Failures of the network -/

lemma transportFailed_of_registration (h : (s.state.isRegistration || e.isRegistration) = true)
    (cause : TransportError) :
    ∃ code message, code ≠ .dataConnectionLost ∧
      s.transportFailed e cause = s.finished (.registrationFailed code message) := by
  unfold transportFailed failureNotice
  dsimp only
  rw [if_pos h]
  refine ⟨_, _, ?_, rfl⟩
  split <;> nofun

lemma transportFailed_of_idle (h : (s.state.isRegistration || e.isRegistration) = false)
    (cause : TransportError) :
    ∃ code message, s.transportFailed e cause = s.finished (.error code message) := by
  unfold transportFailed failureNotice
  dsimp only
  rw [if_neg (by simp [h])]
  exact ⟨_, _, rfl⟩

/-! ### Endings -/

/-- A registration exchange ends with an outcome, unless the connection is lost. -/
lemma Ending.isOutcome {notice : Notice} (h : s.Ending profile e notice)
    (hs : s.state.isRegistration = true) (he : e ≠ .connectionLost) : notice.isOutcome = true := by
  have hnotice : ∀ code message, code ≠ .dataConnectionLost →
      (failureNotice s.state.isRegistration code message).isOutcome = true := by
    intro code message hcode
    simp [failureNotice, hs, Notice.isOutcome, hcode]
  cases h with
  | granted | registrationTimedOut => rfl
  | registrationRejected r code _ _ hcode => simp [Notice.isOutcome, hcode]
  | badCredentials | foreignRealm | transactionTerminated | dialogTerminated =>
    exact hnotice _ _ (by decide)
  | connectionLost => exact absurd rfl he
  | withdrawn _ hstate | undescribed _ hstate | cancelled _ hstate =>
    rw [hstate] at hs
    cases hs
  | hungUp hstate | bye _ hstate | callTimedOut _ hstate =>
    revert hs hstate
    cases s.state <;> simp [SessionState.isRegistration, SessionState.endsOnHangUp,
      SessionState.isCall]
  | rejected _ hstate =>
    revert hs hstate
    cases s.state <;> simp [SessionState.isRegistration, SessionState.isOutgoing]

/-- An idle session has nothing to end. -/
lemma Ending.state_ne_ready {notice : Notice} (h : s.Ending profile e notice) :
    s.state ≠ .ready := by
  intro hs
  cases h with
  | dialogTerminated _ hstate | connectionLost hstate => exact hstate hs
  | _ =>
    simp_all [SessionState.isRegistration, SessionState.challengeable, SessionState.endsOnHangUp,
      SessionState.isCall, SessionState.isOutgoing, SessionState.awaitsFinalResponse]

/-- Only a grant says that a registration has been granted or has ended. -/
lemma failureNotice_ne_done (registration : Bool) (code : ErrorCode) (message : String)
    (duration : Int) : failureNotice registration code message ≠ .registrationDone duration := by
  unfold failureNotice
  split <;> simp

lemma Ending.of_done {duration : Int} (h : s.Ending profile e (.registrationDone duration)) :
    ∃ r, e = .response r ∧ s.state.isRegistration = true ∧ r.method = .register ∧
      isSuccess r.status = true ∧ duration = s.grantedDuration r := by
  generalize hnotice : Notice.registrationDone duration = notice at h
  cases h with
  | granted r hs hm hr =>
    cases hnotice
    exact ⟨r, rfl, hs, hm, hr, rfl⟩
  | rejected r =>
    unfold rejectionNotice at hnotice
    split at hnotice
    · cases hnotice
    · exact absurd hnotice.symm (failureNotice_ne_done _ _ _ _)
  | badCredentials | foreignRealm | transactionTerminated | dialogTerminated | connectionLost =>
    exact absurd hnotice.symm (failureNotice_ne_done _ _ _ _)
  | _ => cases hnotice

/-- Only a session that is registering tells that a registration has been granted or has ended, and
only when the registrar says so. -/
lemma response_of_done {σ : Type} [Transport σ] (profile : Profile) (fresh : SessionId)
    (hrole : s.role = .dialog) (net : σ) {report : Report}
    (hreport : report ∈ (s.process profile fresh e net).1.reports) {duration : Int}
    (hdone : report.notice = .registrationDone duration) :
    ∃ r, e = .response r ∧ s.state.isRegistration = true ∧ r.method = .register ∧
      isSuccess r.status = true ∧ duration = s.grantedDuration r := by
  rcases reaction_process (Promise.nothing_keptBy σ) profile fresh hrole e net with h | ⟨cause, h⟩
  · generalize (s.process profile fresh e net).1 = o at h hreport
    cases h with
    | refused | consumed | challenged | cancelsCall | accepts | changeConfirmed | startsChange
    | cancelsChange | keepsCall => cases hreport
    | @ended notice hending =>
      rw [List.mem_singleton.mp hreport] at hdone
      obtain rfl : notice = .registrationDone duration := hdone
      obtain ⟨r, he, hs, hm, hr, hduration⟩ := hending.of_done
      rw [attaching_state] at hs
      simp only [grantedDuration, attaching_state] at hduration
      exact ⟨r, he, hs, hm, hr, hduration⟩
    | registers | calls | alerted | answered | confirmed | acceptsChange | changed =>
      rw [List.mem_singleton.mp hreport] at hdone
      cases hdone
  · rw [h] at hreport
    rw [List.mem_singleton.mp hreport] at hdone
    exact absurd hdone (failureNotice_ne_done _ _ _ _)

/-! ### The step -/

section Asked

variable {σ : Type} [Transport σ] (profile : Profile) (fresh : SessionId)

omit [Transport σ] in
lemma script_of_rule (hrole : s.role = .dialog) (hattached : s.attaching e = s)
    {script : Script Outcome} (hrule : s.stateRule profile e = some script) :
    s.script profile fresh e = script := by
  simp only [script_of_dialog hrole, dialogScript, hattached, hrule]

omit [Transport σ] in
/-- An idle session that is asked to register sets out to do so. -/
lemma script_of_asked (hrole : s.role = .dialog) (hs : s.state = .ready)
    (he : e.isRegistration = true) : ∃ expiry next, next.isRegistration = true ∧
      s.script profile fresh e = s.startRegistration profile expiry next := by
  cases e with
  | register expiry =>
    refine ⟨expiry, .registering, rfl, script_of_rule profile fresh hrole rfl ?_⟩
    rw [stateRule, hs]
    rfl
  | deregister =>
    refine ⟨0, .deregistering, rfl, script_of_rule profile fresh hrole rfl ?_⟩
    rw [stateRule, hs]
    rfl
  | _ => cases he

/-- An idle session that is asked to register sends a request, or says that it cannot. -/
lemma exchange_of_asked (hrole : s.role = .dialog) (hs : s.state = .ready)
    (he : e.isRegistration = true) (net : σ) :
    s.Exchanges e (s.process profile fresh e net).1 := by
  obtain ⟨expiry, next, hnext, hscript⟩ := script_of_asked profile fresh hrole hs he
  have hmeets : (s.startRegistration profile expiry next).Meets .nothing
      fun result => s.Exchanges e (s.conclusion e result) := by
    intro tag
    refine ⟨fun cause => ?_, fun t _ => ⟨[.registering], hs ▸ .sent he hnext, rfl⟩⟩
    obtain ⟨code, message, hcode, hfailed⟩ :=
      transportFailed_of_registration (s := s) (e := e) (by simp [he]) cause
    simp only [conclusion, hfailed]
    exact ⟨[.registrationFailed code message], hs ▸ .unsent code message he hcode, rfl⟩
  rw [process_fst, hscript]
  exact hmeets.run (Promise.nothing_keptBy σ) net

omit [Transport σ] in
/-- A session that is under way takes no order to register. -/
lemma script_of_declined (hrole : s.role = .dialog) (hs : s.state ≠ .ready)
    (he : e.isRegistration = true) : s.script profile fresh e = .done s.refused := by
  have hattached : s.attaching e = s := by
    cases e <;> cases he <;> rfl
  have hrule : s.stateRule profile e = none := by
    unfold stateRule
    split
    · next hready => exact absurd hready hs
    all_goals
      cases e <;> cases he <;>
        first | rfl | (unfold incomingCallRule; cases s.invite <;> rfl)
  have hcommon : s.commonRule e = none := by
    cases e <;> cases he <;> rfl
  simp only [script_of_dialog hrole, dialogScript, hattached, hrule, hcommon]

/-- A session that is registering takes no other order to register. -/
lemma process_of_busy (hrole : s.role = .dialog) (hs : s.state.isRegistration = true)
    (he : e.isRegistration = true) (net : σ) : (s.process profile fresh e net).1 = s.refused := by
  have hbusy : s.state ≠ .ready := by
    intro hready
    rw [hready] at hs
    cases hs
  rw [process_fst, script_of_declined profile fresh hrole hbusy he]
  rfl

omit [Transport σ] in
/-- A session that is under way fails with the data connection, and an idle one does not mind. -/
lemma script_of_connectionLost (hrole : s.role = .dialog) :
    s.script profile fresh .connectionLost =
      if s.state = .ready then .done s.refused
      else .done (s.failed .dataConnectionLost "data connection lost") := by
  have hattached : s.attaching .connectionLost = s := rfl
  have hrule : s.stateRule profile .connectionLost = none := by
    unfold stateRule
    cases s.state with
    | incomingCall => simp only [incomingCallRule]; cases s.invite <;> rfl
    | _ => rfl
  simp only [script_of_dialog hrole, dialogScript, hattached, hrule, commonRule]
  by_cases hready : s.state = .ready
  · simp only [if_pos hready]
  · simp only [if_neg hready]

lemma exchange_of_connectionLost (hs : s.OnlyRegisters) (net : σ) :
    s.Exchanges .connectionLost (s.process profile fresh .connectionLost net).1 := by
  rw [process_fst, script_of_connectionLost profile fresh hs.role]
  rcases hs.state with hready | hbusy
  · rw [if_pos hready]
    exact ⟨[], .unmoved (fun h => by cases h) fun _ => hready, rfl⟩
  · rw [if_neg (by rintro hready; rw [hready] at hbusy; cases hbusy)]
    refine ⟨_, .lost "data connection lost" rfl hbusy, ?_⟩
    simp only [Script.run, conclusion, failed, failureNotice, if_pos hbusy]
    rfl

/-- An event that asks for nothing leaves the session where it is, or settles what it asked for. -/
lemma exchange_of_heard (hs : s.OnlyRegisters) (hcommand : e.isCommand = false)
    (hlost : e ≠ .connectionLost) (net : σ) :
    s.Exchanges e (s.process profile fresh e net).1 := by
  have he : e.isRegistration = false := by
    cases e <;> first | rfl | cases hcommand
  have hunmoved : ∀ o : Outcome, o.session.state = s.state → o.reports = [] →
      s.Exchanges e o := by
    intro o hstate hreports
    exact ⟨[], hstate ▸ .unmoved (by simp [he]) (absurd · hlost), hreports⟩
  rcases reaction_process (Promise.nothing_keptBy σ) profile fresh hs.role e net with h | ⟨cause, h⟩
  · generalize (s.process profile fresh e net).1 = o at h
    have hnot : ∀ state : SessionState, (s.attaching e).state = state →
        state = .ready ∨ state.isRegistration = true := by
      intro state hstate
      rw [← hstate, attaching_state]
      exact hs.state
    cases h with
    | refused | consumed => exact hunmoved _ (attaching_state s e) rfl
    | challenged => exact hunmoved _ (attaching_state s e) rfl
    | ended hending =>
      have hbusy : s.state.isRegistration = true := by
        have hne := hending.state_ne_ready
        rw [attaching_state] at hne
        exact hs.state.resolve_left hne
      refine ⟨[_], .settled he hlost hbusy (hending.isOutcome ?_ hlost), ?_⟩
      · rw [attaching_state, hbusy]
      · simp only [finished, attaching_id, List.map_cons, List.map_nil]
    | registers _ _ _ _ _ hasked =>
      rw [he] at hasked
      cases hasked
    | calls _ _ _ _ _ _ hcalls =>
      rw [hcalls] at hcommand
      cases hcommand
    | alerted _ hstate | cancelsChange hstate | keepsCall _ hstate | accepts _ _ _ _ hstate
    | confirmed _ hstate | acceptsChange _ _ _ hstate | changeConfirmed _ hstate
    | startsChange _ _ _ hstate => rcases hnot _ hstate with h | h <;> cases h
    | answered _ hstate | cancelsCall hstate | changed _ hstate =>
      rcases hstate with hstate | hstate <;> rcases hnot _ hstate with h | h <;> cases h
  · rw [h]
    rcases hs.state with hready | hbusy
    · obtain ⟨code, message, hfailed⟩ :=
        transportFailed_of_idle (s := s) (e := e) (by rw [hready, he]; rfl) cause
      rw [hfailed]
      exact ⟨[_], hready ▸ .disturbed code message he, rfl⟩
    · obtain ⟨code, message, hcode, hfailed⟩ :=
        transportFailed_of_registration (s := s) (e := e) (by rw [hbusy]; rfl) cause
      rw [hfailed]
      exact ⟨[_], .settled he hlost hbusy (by simp [Notice.isOutcome, hcode]), rfl⟩

/-- A session that only registers does nothing but what the list says. -/
theorem exchange_process (hs : s.OnlyRegisters)
    (hcommand : e.isCommand = true → e.isRegistration = true) (net : σ) :
    s.Exchanges e (s.process profile fresh e net).1 := by
  cases he : e.isRegistration with
  | true =>
    rcases hs.state with hready | hbusy
    · exact exchange_of_asked profile fresh hs.role hready he net
    · rw [process_of_busy profile fresh hs.role hbusy he net]
      exact ⟨[], .unmoved (fun _ => hbusy) (by rintro rfl; cases he), rfl⟩
  | false =>
    by_cases hlost : e = .connectionLost
    · subst hlost
      exact exchange_of_connectionLost profile fresh hs net
    · refine exchange_of_heard profile fresh hs ?_ hlost net
      rw [Bool.eq_false_iff]
      intro h
      rw [hcommand h] at he
      cases he

end Asked

end Session

end SipAgent
