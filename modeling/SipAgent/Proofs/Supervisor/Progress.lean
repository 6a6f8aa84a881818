import SipAgent.Proofs.Supervisor.Engaged

/-!
# The supervisor never stands still

A supervisor that is running while the data connection is up has always something that makes it go
on: an exchange with the registrar that is under way, a refresh that the timer holds or has given
out, or a notice of how an exchange went that it has yet to be told. However an exchange ends, the
supervisor starts another one or schedules a refresh, so `Group.Prompted` survives every step.
-/

namespace SipAgent

namespace Group

variable {σ : Type} {g g' : Group σ} {id : SessionId} {s : Session} {e : SessionEvent}
  {notices notices' ds : List Delivery} {wakeups wakeups' : List WakeupCall}

/-- The session of the supervisor waits for the registrar. -/
def Asking (g : Group σ) : Prop :=
  ∃ id, g.supervisor.session = some id ∧ (g.stateOf id).isRegistration = true

lemma Asking.busy (h : g.Asking) (hid : g.supervisor.session = some id) :
    (g.stateOf id).isRegistration = true := by
  obtain ⟨i, hi, hbusy⟩ := h
  obtain rfl : i = id := Option.some.inj (hi.symm.trans hid)
  exact hbusy

/-- The notice tells the supervisor how an exchange with the registrar went. -/
structure Rouses (g : Group σ) (d : Delivery) : Prop where
  addressee : d.addressee = .supervisor
  session : g.supervisor.session = some d.session
  outcome : d.notice.isOutcome = true

/-- Something makes the supervisor go on. -/
inductive Prompted (g : Group σ) (notices : List Delivery) (wakeups : List WakeupCall) : Prop where
  | asking (h : g.Asking)
  | scheduled (h : 0 < g.timer.queued .refresh)
  | woken (h : .refresh ∈ wakeups)
  | roused {d : Delivery} (hd : d ∈ notices) (h : g.Rouses d)

/-- The supervisor is running, and nothing keeps it from registering. -/
structure Eager (g : Group σ) : Prop where
  running : g.supervisor.running = true
  connected : g.connected = true
  opened : g.closed = false

/-- A supervisor that is eager has something that makes it go on. -/
def Lively (g : Group σ) (notices : List Delivery) (wakeups : List WakeupCall) : Prop :=
  g.Eager → g.Prompted notices wakeups

namespace Prompted

lemma mono (h : g.Prompted notices wakeups)
    (hsession : g'.supervisor.session = g.supervisor.session)
    (hstate : ∀ id, g.supervisor.session = some id → g'.stateOf id = g.stateOf id)
    (hqueued : 0 < g.timer.queued .refresh → 0 < g'.timer.queued .refresh)
    (hnotices : ∀ {d}, d ∈ notices → g.Rouses d → d ∈ notices') (hwakeups : wakeups ⊆ wakeups') :
    g'.Prompted notices' wakeups' := by
  cases h with
  | asking h =>
    obtain ⟨id, hid, hbusy⟩ := h
    exact .asking ⟨id, hsession.trans hid, by rw [hstate id hid]; exact hbusy⟩
  | scheduled h => exact .scheduled (hqueued h)
  | woken h => exact .woken (hwakeups h)
  | roused hd h =>
    exact .roused (hnotices hd h) ⟨h.addressee, hsession.trans h.session, h.outcome⟩

/-- Notices that come in addition take nothing away. -/
lemma append (h : g.Prompted notices wakeups) (before after : List Delivery) :
    g.Prompted (before ++ (notices ++ after)) wakeups :=
  h.mono rfl (fun _ _ => rfl) id
    (fun hd _ => List.mem_append_right _ (List.mem_append_left _ hd)) fun _ hw => hw

end Prompted

variable [Transport σ]

/-! ### Exchanges with the registrar -/

/-- Whoever asks the session of a running supervisor to register makes the supervisor go on. -/
lemma Attended.prompted_of_asked (h : Attended g) (hg : Sound g)
    (hrunning : g.supervisor.running = true) (hid : g.supervisor.session = some id)
    (he : e.isRegistration = true) :
    (g.dispatch id e).group.Prompted (notices ++ (g.dispatch id e).deliveries) wakeups := by
  obtain ⟨s, a, hcell, hs, ha⟩ := h.cell id hid
  obtain rfl := ha.of_running hrunning
  obtain ⟨s', told, hexchange, -, hcell', hds⟩ := dispatch_exchange hg hcell hs fun _ => he
  have hid' : (g.dispatch id e).group.supervisor.session = some id := by
    rw [supervisor_dispatch]
    exact hid
  have hasking : s'.state.isRegistration = true → (g.dispatch id e).group.Asking :=
    fun hbusy => ⟨id, hid', by rw [stateOf_of_cell hcell']; exact hbusy⟩
  generalize hbefore : s.state = before at hexchange
  generalize hafter : s'.state = after at hexchange hasking
  cases hexchange with
  | unmoved hasked => exact .asking (hasking (hasked he))
  | sent _ hbusy => exact .asking (hasking hbusy)
  | unsent code message _ hcode =>
    refine .roused (d := ⟨.supervisor, id, .registrationFailed code message⟩) ?_ ⟨rfl, hid', ?_⟩
    · rw [hds]
      exact List.mem_append_right _ (List.mem_singleton_self _)
    · simpa [Notice.isOutcome] using hcode
  | settled hnot | disturbed _ _ hnot =>
    rw [he] at hnot
    cases hnot
  | lost _ hlost =>
    rw [hlost] at he
    cases he

/-- A signal for the session of a running supervisor leaves the exchange under way, or the
supervisor is told how it went. -/
lemma Attended.prompted_of_heard (h : Attended g) (hg : Sound g)
    (hrunning : g.supervisor.running = true) (hid : g.supervisor.session = some id)
    (hcommand : e.isCommand = false) (hlost : e ≠ .connectionLost)
    (hprompted : g.Prompted notices wakeups) :
    (g.dispatch id e).group.Prompted (notices ++ (g.dispatch id e).deliveries) wakeups := by
  obtain ⟨s, a, hcell, hs, ha⟩ := h.cell id hid
  obtain rfl := ha.of_running hrunning
  have he : e.isRegistration = false := by
    cases e <;> first | rfl | cases hcommand
  obtain ⟨s', told, hexchange, -, hcell', hds⟩ :=
    dispatch_exchange (e := e) hg hcell hs (by simp [hcommand])
  have hid' : (g.dispatch id e).group.supervisor.session = some id := by
    rw [supervisor_dispatch]
    exact hid
  cases hprompted with
  | asking hasking =>
    obtain ⟨i, hi, hbusy⟩ := hasking
    obtain rfl : i = id := Option.some.inj (hi.symm.trans hid)
    rw [stateOf_of_cell hcell] at hbusy
    have hstate := stateOf_of_cell hcell'
    generalize hbefore : s.state = before at hexchange
    generalize hafter : s'.state = after at hexchange
    rw [hbefore] at hbusy
    rw [hafter] at hstate
    cases hexchange with
    | unmoved => exact .asking ⟨i, hid', by rw [hstate]; exact hbusy⟩
    | @settled _ notice _ _ _ hnotice =>
      refine .roused (d := ⟨.supervisor, i, notice⟩) ?_ ⟨rfl, hid', hnotice⟩
      rw [hds]
      exact List.mem_append_right _ (List.mem_singleton_self _)
    | sent hasked | unsent _ _ hasked =>
      rw [he] at hasked
      cases hasked
    | lost _ h => exact absurd h hlost
    | disturbed => cases hbusy
  | scheduled h =>
    exact .scheduled (by rw [show (g.dispatch id e).group.timer = g.timer from
      congrArg Books.timer (books_dispatch g id e)]; exact h)
  | woken h => exact .woken h
  | roused hd h =>
    exact .roused (List.mem_append_left _ hd) ⟨h.addressee, by
      rw [supervisor_dispatch]; exact h.session, h.outcome⟩

/-! ### Operations -/

omit [Transport σ] in
lemma queued_scheduleRefresh_pos (hticks : g.timer.stopped = false) (seconds : Nat) :
    0 < (g.scheduleRefresh seconds).timer.queued .refresh := by
  obtain ⟨timer, heq, -, hqueued, -⟩ := g.scheduleRefresh_eq seconds
  rw [heq]
  change 0 < timer.queued .refresh
  simp [hqueued, hticks]

lemma queued_startKeepalive_le (g : Group σ) :
    g.timer.queued .refresh ≤ g.startKeepalive.timer.queued .refresh := by
  rcases g.startKeepalive_eq with heq | ⟨-, timer, heq, -, hqueued⟩
  · exact Nat.le_of_eq (by rw [heq])
  · rw [heq]
    change _ ≤ timer.queued .refresh
    rw [hqueued]
    exact Nat.le_add_right _ _

namespace Lively

omit [Transport σ] in
lemma of_not_running (h : g.supervisor.running = false) : g.Lively notices wakeups := by
  intro heager
  rw [heager.running] at h
  cases h

omit [Transport σ] in
/-- It does not matter what the supervisor notes. -/
lemma revise (h : g.Lively notices wakeups) {s : Supervisor}
    (hsession : s.session = g.supervisor.session) (hrunning : s.running = g.supervisor.running) :
    { g with supervisor := s }.Lively notices wakeups := by
  intro heager
  have hprompted := h ⟨hrunning.symm.trans heager.running, heager.connected, heager.opened⟩
  exact hprompted.mono hsession (fun _ _ => rfl) id (fun hd _ => hd) fun _ hw => hw

omit [Transport σ] in
lemma append (h : g.Lively notices wakeups) (before after : List Delivery) :
    g.Lively (before ++ (notices ++ after)) wakeups :=
  fun heager => (h heager).append before after

omit [Transport σ] in
lemma of_offline (h : g.connected = false) : g.Lively notices wakeups := by
  intro heager
  rw [heager.connected] at h
  cases h

omit [Transport σ] in
/-- A retry is scheduled unless there is no point in it. -/
lemma scheduleRetry (hticks : g.timer.stopped = false) :
    g.scheduleRetry.Lively notices wakeups := by
  intro heager
  rcases g.scheduleRetry_eq with ⟨-, -, heq⟩ | ⟨hcannot, heq⟩
  · rw [heq]
    refine .scheduled ?_
    apply queued_scheduleRefresh_pos
    exact hticks
  · rw [heq] at heager
    cases (hcannot heager.running).symm.trans heager.connected

lemma outward (hg : Sound g) (hengaged : Engaged g) (h : g.Lively notices wakeups)
    (hg' : Outward g g' ds) : g'.Lively (notices ++ ds) wakeups := by
  intro heager
  cases hg' with
  | aside hbooks hspares =>
    simp only [books, Books.mk.injEq] at hbooks
    obtain ⟨hsupervisor, hconnected, hclosed, htimer, -⟩ := hbooks
    have hprompted := h ⟨hsupervisor ▸ heager.running, hconnected ▸ heager.connected,
      hclosed ▸ heager.opened⟩
    refine hprompted.mono hspares.session (fun id hid => ?_) (fun hqueued => htimer ▸ hqueued)
      (fun hd _ => List.mem_append_left _ hd) fun _ hw => hw
    obtain ⟨s, a, hcell, -⟩ := hengaged.cell id hid
    rw [stateOf_of_cell hcell, stateOf_of_cell (hspares.cells id _ hid hcell)]
  | @hears id e _ hid _ hcommand hlost =>
    have hbooks := books_dispatch g id e
    simp only [books, Books.mk.injEq] at hbooks
    obtain ⟨hsupervisor, hconnected, hclosed, -⟩ := hbooks
    have hrunning : g.supervisor.running = true := hsupervisor ▸ heager.running
    exact hengaged.prompted_of_heard hg hrunning hid hcommand hlost
      (h ⟨hrunning, hconnected ▸ heager.connected, hclosed ▸ heager.opened⟩)

lemma startRegistration (hg : Sound g) (hengaged : Engaged g) (h : g.Lively notices wakeups)
    (l : Listener) : (g.startRegistration l).group.Lively
      (notices ++ (g.startRegistration l).deliveries) wakeups := by
  cases hopen : g.closed with
  | true =>
    rw [startRegistration_of_closed g l hopen, List.append_nil]
    exact h
  | false =>
  cases hidle : g.supervisor.running with
  | true =>
    rw [startRegistration_of_running g l hopen hidle, List.append_nil]
    exact h.revise rfl rfl
  | false =>
  have hstarted := hengaged.engaging l
  have hbooks := g.books_engaging l
  rw [startRegistration_eq g l hopen hidle]
  dsimp only
  split
  · split
    · intro _
      exact hstarted.prompted_of_asked (hg.keeps (keeps_engaging g l))
        (congrArg (·.supervisor.running) hbooks) (congrArg (·.supervisor.session) hbooks) rfl
    · refine scheduleRetry ?_
      have hticks : (g.engaging l).2.timer.stopped = g.timer.stopped :=
        congrArg (·.timer.stopped) hbooks
      exact (steady_dispatch _ _ _).stopped.trans (hticks.trans hengaged.ticks)
  · next hdown => exact of_offline (by simpa using hdown)

lemma regainConnection (hg : Sound g) (hengaged : Engaged g) :
    g.regainConnection.group.Lively (notices ++ g.regainConnection.deliveries) wakeups := by
  cases hrunning : g.supervisor.running with
  | false =>
    refine of_not_running ?_
    rw [regainConnection_of_not_running g hrunning]
    exact hrunning
  | true =>
    obtain ⟨id, hid⟩ := hengaged.session hrunning
    rw [regainConnection_eq g hrunning hid]
    intro _
    exact hengaged.resumed.prompted_of_asked (hg.keeps (keeps_resumed g)) hrunning hid rfl

lemma loseConnection (g : Group σ) : g.loseConnection.group.Lively notices wakeups := by
  obtain ⟨timer, error, -, -, heq⟩ := g.loseConnection_eq
  refine of_offline ?_
  rw [heq]
  exact congrArg Books.connected g.books_cutOff

lemma onRegistrationDone (hg : Sound g) (hengaged : Engaged g)
    (hrunning : g.supervisor.running = true) (hid : g.supervisor.session = some id)
    (duration : Int) : (g.onRegistrationDone id duration).group.Lively
      (g.onRegistrationDone id duration).deliveries wakeups := by
  by_cases hpos : 0 < duration
  · intro _
    rw [onRegistrationDone_of_pos g id hpos]
    refine .scheduled (Nat.lt_of_lt_of_le ?_ (queued_startKeepalive_le _))
    exact queued_scheduleRefresh_pos (g := g.accepted duration) hengaged.ticks _
  · rw [onRegistrationDone_of_not_pos g id hpos]
    dsimp only
    split
    · intro _
      rw [← List.singleton_append]
      exact (hengaged.paperwork (.ended g)).prompted_of_asked (hg.keeps (keeps_ended g)) hrunning
        hid rfl
    · next hdown =>
      rw [Bool.not_eq_true] at hdown
      exact of_offline hdown

omit [Transport σ] in
lemma onRegistrationFailed (hticks : g.timer.stopped = false) {code : ErrorCode}
    (hcode : code ≠ .dataConnectionLost) (message : String) :
    (g.onRegistrationFailed id code message).group.Lively notices wakeups := by
  unfold Group.onRegistrationFailed
  dsimp only
  split
  · exact of_not_running (pause_running _)
  · exact of_not_running (pause_running _)
  · exact absurd rfl hcode
  · exact scheduleRetry hticks

/-- Whatever the supervisor is told, it goes on with it, or it had something else to go on with. -/
lemma handOver {before after : List Delivery} {d : Delivery} (hg : Sound g) (hengaged : Engaged g)
    (h : g.Lively (before ++ d :: after) wakeups) :
    (g.handOver d).group.Lively (before ++ ((g.handOver d).deliveries ++ after)) wakeups := by
  -- a notice that does not rouse the supervisor is not what it was waiting for
  have hidle : ∀ told, (g.Rouses d → ¬ g.Eager) → g.Lively (before ++ (told ++ after)) wakeups := by
    intro told hnot heager
    refine (h heager).mono rfl (fun _ _ => rfl) id (fun {d'} hd' hrouses => ?_) fun _ hw => hw
    simp only [List.mem_append, List.mem_cons] at hd' ⊢
    rcases hd' with hd' | rfl | hd'
    · exact .inl hd'
    · exact absurd heager (hnot hrouses)
    · exact .inr (.inr hd')
  rcases d with ⟨addressee, id, notice⟩
  cases addressee with
  | listener l => exact hidle [] fun hrouses => by cases hrouses.addressee
  | supervisor =>
  by_cases hsupervises : g.supervises id = true
  · simp only [Group.handOver, if_pos hsupervises]
    simp only [supervises, Bool.and_eq_true, decide_eq_true_eq] at hsupervises
    obtain ⟨hrunning, hid⟩ := hsupervises
    cases notice with
    | registering =>
      refine Lively.revise ?_ rfl rfl
      exact hidle [_] fun hrouses => by cases hrouses.outcome
    | registrationDone duration =>
      exact (onRegistrationDone hg hengaged hrunning hid duration).append before after
    | registrationFailed code message =>
      by_cases hcode : code = .dataConnectionLost
      · subst hcode
        refine Lively.revise ?_ rfl rfl
        exact hidle [_] fun hrouses => by cases hrouses.outcome
      · exact onRegistrationFailed hengaged.ticks hcode message
    | registrationTimeout => exact scheduleRetry hengaged.ticks
    | _ => exact hidle [] fun hrouses => by cases hrouses.outcome
  · simp only [Group.handOver, if_neg hsupervises]
    refine hidle [] fun hrouses heager => hsupervises ?_
    simp only [supervises, heager.running, hrouses.session, decide_true, Bool.and_true]

lemma refresh (hg : Sound g) (hengaged : Engaged g) :
    g.refresh.group.Lively (notices ++ g.refresh.deliveries) wakeups := by
  rcases g.refresh_eq with ⟨hcannot, heq⟩ | ⟨hrunning, -, id, hid, heq⟩
  · rw [heq]
    intro heager
    obtain ⟨id, hid⟩ := hengaged.session heager.running
    rcases hcannot with h | h | h | h
    · cases h.symm.trans heager.opened
    · cases h.symm.trans heager.running
    · cases h.symm.trans heager.connected
    · cases h.symm.trans hid
  · rw [heq]
    intro _
    exact (hengaged.paperwork (.cleared g)).prompted_of_asked (hg.keeps (keeps_cleared g)) hrunning
      hid rfl

/-- A refresh that takes effect starts an exchange, and a keepalive leaves all refreshes alone. -/
lemma wake {before after : List WakeupCall} {call : WakeupCall} (hg : Sound g)
    (hengaged : Engaged g) (h : g.Lively notices (before ++ call :: after)) :
    (g.wake call).group.Lively (notices ++ (g.wake call).deliveries) (before ++ after) := by
  cases call with
  | refresh => exact refresh hg hengaged
  | keepalive process =>
    simp only [Group.wake, List.append_nil]
    have hkept : g.Lively notices (before ++ after) := by
      intro heager
      cases h heager with
      | asking h => exact .asking h
      | scheduled h => exact .scheduled h
      | woken h => exact .woken (by simpa using h)
      | roused hd h => exact .roused hd h
    rcases g.keepAlive_eq process with ⟨-, heq⟩ | ⟨-, timer, network, heq, -, hqueued⟩
    · rw [heq]
      exact hkept
    · rw [heq]
      intro heager
      refine (hkept ⟨heager.running, heager.connected, heager.opened⟩).mono rfl (fun _ _ => rfl)
        (fun h => ?_) (fun hd _ => hd) fun _ hw => hw
      change 0 < timer.queued .refresh
      rw [hqueued]
      exact Nat.add_pos_left h _

lemma act (hg : Sound g) (hengaged : Engaged g) (h : g.Lively notices wakeups) {a : Action}
    (ha : (Occurrence.act a).Supervised g) :
    (g.act a).group.Lively (notices ++ (g.act a).deliveries) wakeups := by
  cases hown : a.isSupervision with
  | false =>
    exact h.outward hg hengaged (outward_act hg hengaged.toAttended ha.undisturbed hown)
  | true =>
    have hmore : ∀ told, g.Lively (notices ++ told) wakeups := fun told => h.append [] told
    cases a with
    | startRegistration l => exact h.startRegistration hg hengaged l
    | stopRegistration => exact of_not_running g.stopRegistration_running
    | setRegistrationListener l =>
      simp only [Group.act, answering, setRegistrationListener]
      split
      · exact hmore _
      · split <;> exact (hmore _).revise rfl rfl
    | setConnected up =>
      simp only [Group.act, answering, setConnected]
      split_ifs
      · exact hmore _
      · exact regainConnection hg hengaged
      · exact loseConnection g
    | stopTimer => exact ha.2.elim
    | close =>
      simp only [Group.act, answering, close]
      split
      · exact hmore _
      · exact of_not_running g.stopRegistration_running
    | _ => cases hown

end Lively

end Group

/-! ### Every history -/

namespace Scene

variable {σ : Type} [Transport σ] {c c' : Scene σ} {o : Occurrence σ}

lemma Step.lively (h : c.Step o c') (ho : o.Supervised c.group) (hsound : c.group.Sound)
    (hengaged : c.group.Engaged) (hc : c.group.Lively c.notices c.wakeups) :
    c'.group.Lively c'.notices c'.wakeups := by
  cases h with
  | act a => exact hc.act hsound hengaged ho
  | handOver hnotices =>
    rw [hnotices] at hc
    exact hc.handOver hsound hengaged
  | ring =>
    intro heager
    have hprompted := hc ⟨heager.running, heager.connected, heager.opened⟩
    cases hprompted with
    | asking h => exact .asking h
    | scheduled h =>
      rw [c.group.timer.queued_ring c.group.now] at h
      rcases Nat.add_pos_iff_pos_or_pos.mp h with h | h
      · exact .scheduled h
      · exact .woken (List.mem_append_right _ (List.count_pos_iff.mp h))
    | woken h => exact .woken (List.mem_append_left _ h)
    | roused hd h => exact .roused hd ⟨h.addressee, h.session, h.outcome⟩
  | wake hwakeups =>
    rw [hwakeups] at hc
    exact hc.wake hsound hengaged
  | drift network =>
    intro heager
    have hprompted := hc ⟨heager.running, heager.connected, heager.opened⟩
    exact hprompted.mono rfl (fun _ _ => rfl) id (fun hd _ => hd) fun _ hw => hw

lemma Reachable.lively (h : c.Reachable (Interleaves Occurrence.Supervised)) :
    c.group.Lively c.notices c.wakeups := by
  refine h.invariant (P := fun c => c.group.Lively c.notices c.wakeups) (fun _ _ _ => ?_) ?_
  · exact .of_not_running rfl
  · rintro c c' hreachable ⟨o, ho, hstep⟩ hlively
    obtain ⟨hsound, hengaged⟩ := hreachable.engaged
    exact hstep.lively ho hsound hengaged hlively

/-- However several threads interleave: when the supervisor is running in an open group, the data
connection is up, and the supervisor has been told everything, then its session waits for the
registrar, or a refresh is queued, or one has been given out and has not taken effect. -/
theorem supervisor_makes_progress (h : c.Reachable (Interleaves Occurrence.Supervised))
    (htold : ∀ d ∈ c.notices, d.addressee ≠ .supervisor)
    (hrunning : c.group.supervisor.running = true) (hconnected : c.group.connected = true)
    (hopen : c.group.closed = false) :
    ∃ id, c.group.supervisor.session = some id ∧
      ((c.group.stateOf id = .registering ∨ c.group.stateOf id = .deregistering) ∨
        (∃ w ∈ c.group.timer.queue, w.callback = .refresh) ∨ .refresh ∈ c.wakeups) := by
  obtain ⟨id, hid⟩ := h.engaged.2.session hrunning
  refine ⟨id, hid, ?_⟩
  cases h.lively ⟨hrunning, hconnected, hopen⟩ with
  | asking h =>
    obtain ⟨i, hi, hbusy⟩ := h
    obtain rfl : i = id := Option.some.inj (hi.symm.trans hid)
    refine .inl ?_
    revert hbusy
    cases c.group.stateOf i <;> simp [SessionState.isRegistration]
  | scheduled h => exact .inr (.inl (Timer.queued_pos_iff.mp h))
  | woken h => exact .inr (.inr h)
  | roused hd h => exact absurd h.addressee (htold _ hd)

/-- Right after a registration has been granted, the session is idle, and a refresh is queued. -/
theorem supervisor_makes_progress_of_grant :
    let c := granted.delivering
    c.Reachable (Interleaves Occurrence.Supervised) ∧
      (∀ d ∈ c.notices, d.addressee ≠ .supervisor) ∧ c.group.supervisor.running = true ∧
      c.group.connected = true ∧ c.group.closed = false ∧
      ∃ id, c.group.stateOf id = .ready ∧ ∃ w ∈ c.group.timer.queue, w.callback = .refresh := by
  intro c
  have hc : c.Reachable (Interleaves Occurrence.Supervised) := by
    have htold := Reachable.granted_supervised.delivering fun _ => ⟨trivial, trivial⟩
    exact htold.mono fun _ _ h => h.interleaves
  have htold : ∀ d ∈ c.notices, d.addressee ≠ .supervisor := by decide +kernel
  have hrunning : c.group.supervisor.running = true := by decide +kernel
  have hup : c.group.connected = true := by decide +kernel
  have hopen : c.group.closed = false := by decide +kernel
  obtain ⟨id, hid, hprogress⟩ := supervisor_makes_progress hc htold hrunning hup hopen
  have hfirst : c.group.supervisor.session = some 0 := by decide +kernel
  have hready : c.group.stateOf 0 = .ready := by decide +kernel
  obtain rfl : id = 0 := Option.some.inj (hid.symm.trans hfirst)
  refine ⟨hc, htold, hrunning, hup, hopen, 0, hready, ?_⟩
  rcases hprogress with (hbusy | hbusy) | hqueued | hwoken
  · cases hready.symm.trans hbusy
  · cases hready.symm.trans hbusy
  · exact hqueued
  · have hnone : c.wakeups = [] := rfl
    rw [hnone] at hwoken
    cases hwoken

end Scene

end SipAgent
