import SipAgent.Proofs.Supervisor.InOrder
import SipAgent.Proofs.Supervisor.KeyedOnline

/-!
# What a registration stands for

A thread that hands every notice over before it goes on never lets a grant come too late, so its
books are in order without reserve. What is more, between its operations the session of a supervisor
that takes itself for registered is idle: `Group.Orderly` says what its session may have told in the
meantime.
-/

namespace SipAgent

namespace Group

variable {σ : Type} {g g' : Group σ} {id : SessionId} {s : Session} {a : Addressee}
  {e : SessionEvent} {d : Delivery} {ds waiting : List Delivery} {n : Notice} {duration : Int}

/-! ### The mail of the supervisor -/

/-- What the supervisor has yet to be told of its session. -/
def mail (g : Group σ) (notices : List Delivery) : List Notice :=
  (notices.filter fun d => d.addressee = .supervisor ∧ g.supervisor.session = some d.session).map
    (·.notice)

@[simp] lemma mail_nil (g : Group σ) : g.mail [] = [] := rfl

@[simp] lemma mail_append (g : Group σ) (ds waiting : List Delivery) :
    g.mail (ds ++ waiting) = g.mail ds ++ g.mail waiting := by
  simp only [mail, List.filter_append, List.map_append]

/-- What listeners are told is no mail. -/
@[simp] lemma mail_cons_listener (g : Group σ) (l : Listener) (id : SessionId) (n : Notice)
    (waiting : List Delivery) : g.mail (⟨.listener l, id, n⟩ :: waiting) = g.mail waiting := by
  simp [mail]

lemma mail_cons (hid : g.supervisor.session = some id) (n : Notice) (waiting : List Delivery) :
    g.mail (⟨.supervisor, id, n⟩ :: waiting) = n :: g.mail waiting := by
  simp [mail, hid]

lemma mail_cons_of_not_supervised
    (h : ¬ (d.addressee = .supervisor ∧ g.supervisor.session = some d.session))
    (waiting : List Delivery) : g.mail (d :: waiting) = g.mail waiting := by
  simp only [mail, List.filter_cons, h, decide_false, Bool.false_eq_true, if_false]

lemma mem_mail : n ∈ g.mail ds ↔ ∃ d ∈ ds, d.addressee = .supervisor ∧
    g.supervisor.session = some d.session ∧ d.notice = n := by
  simp only [mail, List.mem_map, List.mem_filter, decide_eq_true_eq, and_assoc]

lemma mail_eq_nil
    (h : ∀ d ∈ ds, d.addressee = .supervisor → g.supervisor.session ≠ some d.session) :
    g.mail ds = [] := by
  simp only [mail, List.map_eq_nil_iff, List.filter_eq_nil_iff, decide_eq_true_eq, not_and]
  exact h

lemma mail_congr (h : g'.supervisor.session = g.supervisor.session) (ds : List Delivery) :
    g'.mail ds = g.mail ds := by
  simp only [mail, h]

/-- A session that tells its own notices. -/
lemma mail_told (hid : g.supervisor.session = some id) (told : List Notice) :
    g.mail (told.map fun n => ⟨a, id, n⟩) = if a = .supervisor then told else [] := by
  induction told with
  | nil => simp
  | cons n told ih =>
    cases a with
    | listener l => simpa using ih
    | supervisor =>
      rw [List.map_cons, mail_cons hid, ih]
      rfl

/-! ### What it may say -/

/-- The session of the supervisor is idle. -/
def AtRest (g : Group σ) : Prop :=
  ∃ id, g.supervisor.session = some id ∧ g.stateOf id = .ready

lemma AtRest.stateOf_eq (h : g.AtRest) (hid : g.supervisor.session = some id) :
    g.stateOf id = .ready := by
  obtain ⟨i, hi, hready⟩ := h
  obtain rfl : i = id := Option.some.inj (hi.symm.trans hid)
  exact hready

lemma AtRest.state (h : g.AtRest) (hid : g.supervisor.session = some id)
    (hcell : g.cells[id]? = some ⟨s, a⟩) : s.state = .ready := by
  rw [← stateOf_of_cell hcell]
  exact h.stateOf_eq hid

/-- What the session of the supervisor has told agrees with what the supervisor believes. -/
structure Orderly (g : Group σ) (notices : List Delivery) : Prop where
  registered : g.supervisor.registered = true → g.AtRest ∨ .registering ∈ g.mail notices
  /-- A grant is the last thing that happened. -/
  granted : ∀ duration, .registrationDone duration ∈ g.mail notices →
    g.mail notices = [.registrationDone duration] ∧ (0 < duration → g.connected = true ∧ g.AtRest)

namespace Orderly

lemma of_no_grant
    (hregistered : g.supervisor.registered = true → g.AtRest ∨ .registering ∈ g.mail ds)
    (hmail : ∀ duration, .registrationDone duration ∉ g.mail ds) : Orderly g ds :=
  ⟨hregistered, fun duration h => absurd h (hmail duration)⟩

lemma of_unregistered (hregistered : g.supervisor.registered = false)
    (hmail : ∀ duration, .registrationDone duration ∉ g.mail ds) : Orderly g ds := by
  refine of_no_grant (fun h => ?_) hmail
  rw [hregistered] at h
  cases h

/-- The supervisor may note what it likes, as long as it does not take itself for registered. -/
lemma revise (h : Orderly g ds) (hsession : g'.supervisor.session = g.supervisor.session)
    (hcells : g'.cells = g.cells) (hconnected : g.connected = true → g'.connected = true)
    (hregistered : g'.supervisor.registered = true → g.supervisor.registered = true) :
    Orderly g' ds := by
  have hrest : g.AtRest → g'.AtRest := by
    rintro ⟨id, hid, hready⟩
    refine ⟨id, hsession.trans hid, ?_⟩
    simpa only [stateOf, session?, hcells] using hready
  constructor
  · intro hs
    rw [mail_congr hsession]
    exact (h.registered (hregistered hs)).imp_left hrest
  · intro duration hmail
    rw [mail_congr hsession] at hmail ⊢
    obtain ⟨halone, hgrant⟩ := h.granted duration hmail
    exact ⟨halone, fun hpos => ⟨hconnected (hgrant hpos).1, hrest (hgrant hpos).2⟩⟩

/-- When nothing is left to be told, there is no doubt. -/
lemma atRest (h : Orderly g []) (hregistered : g.supervisor.registered = true) : g.AtRest :=
  (h.registered hregistered).resolve_right nofun

lemma scheduleRefresh (h : Orderly g ds) (seconds : Nat) :
    Orderly (g.scheduleRefresh seconds) ds := by
  obtain ⟨timer, heq, -⟩ := g.scheduleRefresh_eq seconds
  rw [heq]
  exact h.revise rfl rfl id id

lemma scheduleRetry (h : Orderly g ds) : Orderly g.scheduleRetry ds := by
  have hadvanced : Orderly g.advanced ds := h.revise rfl rfl id id
  rcases g.scheduleRetry_eq with ⟨-, -, heq⟩ | ⟨-, heq⟩
  · rw [heq]
    exact hadvanced.scheduleRefresh _
  · rw [heq]
    exact h

lemma startKeepalive [Transport σ] (h : Orderly g ds) : Orderly g.startKeepalive ds := by
  rcases g.startKeepalive_eq with heq | ⟨-, timer, heq, -⟩
  · rw [heq]
    exact h
  · rw [heq]
    exact h.revise rfl rfl id id

lemma of_mail_eq (h : Orderly g ds) (hmail : g.mail waiting = g.mail ds) : Orderly g waiting := by
  constructor
  · rw [hmail]
    exact h.registered
  · rw [hmail]
    exact h.granted

variable [Transport σ]

/-! ### Exchanges with the registrar -/

/-- A session that is asked to register says so, unless it remains idle. -/
lemma of_asked (hg : Sound g) (hid : g.supervisor.session = some id)
    (hcell : g.cells[id]? = some ⟨s, a⟩) (hs : s.OnlyRegisters) (he : e.isRegistration = true)
    (hregistered : g.supervisor.registered = true → a = .supervisor ∧ s.state = .ready) :
    Orderly (g.dispatch id e).group (g.dispatch id e).deliveries := by
  obtain ⟨s', told, hexchange, -, hcell', hds⟩ := dispatch_exchange hg hcell hs fun _ => he
  obtain ⟨hnot, hready⟩ := hexchange.of_asked he
  have hid' : (g.dispatch id e).group.supervisor.session = some id := by
    rw [supervisor_dispatch]
    exact hid
  have hmail := mail_told (a := a) hid' told
  rw [← hds] at hmail
  refine of_no_grant (fun hregistered' => ?_) fun duration hgrant => ?_
  · rw [supervisor_dispatch] at hregistered'
    obtain ⟨rfl, hidle⟩ := hregistered hregistered'
    rw [hmail, if_pos rfl]
    refine (hready hidle).imp_left fun hafter => ⟨id, hid', ?_⟩
    rw [stateOf_of_cell hcell', hafter]
  · rw [hmail] at hgrant
    split at hgrant
    · exact hnot duration hgrant
    · cases hgrant

lemma of_asked_running (hattended : Attended g) (hg : Sound g)
    (hrunning : g.supervisor.running = true) (hid : g.supervisor.session = some id)
    (he : e.isRegistration = true)
    (hrest : g.supervisor.registered = true → g.AtRest) :
    Orderly (g.dispatch id e).group (g.dispatch id e).deliveries := by
  obtain ⟨s, a, hcell, hs, ha⟩ := hattended.cell id hid
  exact of_asked hg hid hcell hs he fun h => ⟨ha.of_running hrunning, (hrest h).state hid hcell⟩

/-- A signal reaches the session only while it is waiting for the registrar. -/
lemma of_heard (hg : Sound g) (hattended : Attended g) (hkeyed : KeyedOnline g) {key : CallId}
    (hid : g.supervisor.session = some id) (hkey : g.registry.get? key = some id)
    (hcommand : e.isCommand = false) (h : Orderly g []) :
    Orderly (g.dispatch id e).group (g.dispatch id e).deliveries := by
  obtain ⟨s, a, hcell, hs, -⟩ := hattended.cell id hid
  obtain ⟨s', told, hexchange, -, hcell', hds⟩ :=
    dispatch_exchange (e := e) hg hcell hs (by simp [hcommand])
  have hbusy : s.state ≠ .ready := fun hready =>
    hg.not_owner_of_ready (session?_eq_some.mpr ⟨a, hcell⟩) hready key hkey
  have hid' : (g.dispatch id e).group.supervisor.session = some id := by
    rw [supervisor_dispatch]
    exact hid
  have hmail := mail_told (a := a) hid' told
  rw [← hds] at hmail
  constructor
  · intro hregistered
    rw [supervisor_dispatch] at hregistered
    refine absurd ?_ hbusy
    exact (h.atRest hregistered).state hid hcell
  · intro duration hgrant
    rw [hmail] at hgrant ⊢
    split at hgrant
    · next ha =>
      rcases hexchange.of_heard hbusy with rfl | ⟨hready, n, rfl⟩
      · cases hgrant
      · rw [if_pos ha, List.mem_singleton.mp hgrant]
        refine ⟨rfl, fun _ => ⟨?_, id, hid', ?_⟩⟩
        · rw [connected_dispatch]
          exact hkeyed id key hid hkey
        · rw [stateOf_of_cell hcell', hready]
    · cases hgrant

/-! ### Operations -/

lemma outward (hg : Sound g) (hattended : Attended g) (hkeyed : KeyedOnline g) (h : Orderly g [])
    (hg' : Outward g g' ds) : Orderly g' ds := by
  cases hg' with
  | aside hbooks hspares hds =>
    have hmail : g'.mail ds = [] := by
      refine mail_eq_nil fun d hd _ => ?_
      rw [hspares.session]
      exact hds d hd
    refine of_no_grant (fun hregistered => .inl ?_) (by simp [hmail])
    rw [show g'.supervisor = g.supervisor from congrArg Books.supervisor hbooks] at hregistered
    obtain ⟨id, hid, hready⟩ := h.atRest hregistered
    obtain ⟨s, a, hcell, -⟩ := hattended.cell id hid
    refine ⟨id, hspares.session.trans hid, ?_⟩
    rw [stateOf_of_cell hcell] at hready
    rw [stateOf_of_cell (hspares.cells id _ hid hcell), hready]
  | hears hid hkey hcommand => exact of_heard hg hattended hkeyed hid hkey hcommand h

lemma startRegistration (hg : Sound g) (hattended : Attended g) (h : Orderly g []) (l : Listener) :
    Orderly (g.startRegistration l).group (g.startRegistration l).deliveries := by
  cases hopen : g.closed with
  | true =>
    rw [startRegistration_of_closed g l hopen]
    exact h
  | false =>
  cases hidle : g.supervisor.running with
  | true =>
    rw [startRegistration_of_running g l hopen hidle]
    exact h.revise rfl rfl id id
  | false =>
  have hbooks := g.books_engaging l
  have hregistered : (g.engaging l).2.supervisor.registered = false :=
    congrArg (·.supervisor.registered) hbooks
  rw [startRegistration_eq g l hopen hidle]
  dsimp only
  split
  · have hasked := of_asked_running (hattended.engaging l) (hg.keeps (keeps_engaging g l))
      (congrArg (·.supervisor.running) hbooks) (congrArg (·.supervisor.session) hbooks)
      (e := .deregister) rfl (by simp [hregistered])
    split
    · exact hasked
    · exact hasked.scheduleRetry
  · exact of_unregistered hregistered nofun

lemma stopRegistration (hg : Sound g) (hattended : Attended g) (h : Orderly g []) :
    Orderly g.stopRegistration.group g.stopRegistration.deliveries := by
  have hregistered : ∀ id, (g.dismissed id).supervisor.registered = false := by
    intro id
    rw [supervisor_dismissed]
    exact g.retired_registered
  rcases g.stopRegistration_eq with ⟨-, heq⟩ | heq | ⟨id, hid, heq | ⟨-, heq⟩⟩
  · rw [heq]
    exact h
  · rw [heq]
    exact of_unregistered g.retired_registered nofun
  · rw [heq]
    exact of_unregistered (hregistered id) nofun
  · rw [heq]
    have hdismissed := (g.session_dismissed id).trans hid
    have hretired := hattended.paperwork (.retired g)
    obtain ⟨s, a, hcell, hs, -⟩ := hretired.cell id (g.session_retired.trans hid)
    refine of_asked (hg.keeps (keeps_dismissed g id)) hdismissed
      (cells_setAddressee_self hcell (.listener .nobody)) hs rfl fun h => ?_
    cases (hregistered id).symm.trans h

/-- A supervisor that closes has given up. -/
lemma close (hg : Sound g) (hattended : Attended g) (h : Orderly g []) :
    Orderly g.close.group g.close.deliveries := by
  unfold Group.close
  split
  · exact h
  · exact (h.stopRegistration hg hattended).revise rfl rfl id id

lemma regainConnection (hg : Sound g) (hattended : Attended g) (h : Orderly g []) :
    Orderly g.regainConnection.group g.regainConnection.deliveries := by
  cases hrunning : g.supervisor.running with
  | false =>
    rw [regainConnection_of_not_running g hrunning]
    exact h.revise rfl rfl (fun _ => rfl) id
  | true =>
    obtain ⟨id, hid⟩ := hattended.session hrunning
    rw [regainConnection_eq g hrunning hid]
    exact of_asked_running hattended.resumed (hg.keeps (keeps_resumed g)) hrunning hid rfl h.atRest

/-- Nobody is told of a grant because the data connection is lost. -/
lemma disconnect_grants_nothing (hg : Sound g) (hattended : Attended g) (ids : List SessionId) :
    ∀ d ∈ (g.disconnect ids).deliveries, g.supervisor.session = some d.session →
      d.notice.isOutcome = false := by
  induction ids generalizing g with
  | nil => exact nofun
  | cons i more ih =>
    intro d hd hsession
    rcases List.mem_append.mp hd with hd | hd
    · by_cases hi : g.supervisor.session = some i
      · obtain ⟨s, a, hcell, hs, -⟩ := hattended.cell i hi
        obtain ⟨s', told, hexchange, -, -, hds⟩ :=
          dispatch_exchange (e := .connectionLost) hg hcell hs nofun
        rw [hds] at hd
        obtain ⟨n, hn, rfl⟩ := List.mem_map.mp hd
        exact hexchange.of_connectionLost.2 n hn
      · exact absurd hsession (dispatch_deliveries_ne hg hattended hi _ d hd)
    · refine ih (hg.dispatch i _) (hattended.connectionLost hg i) d hd ?_
      rw [supervisor_dispatch]
      exact hsession

lemma loseConnection (hg : Sound g) (hattended : Attended g) :
    Orderly g.loseConnection.group g.loseConnection.deliveries := by
  have hnothing := disconnect_grants_nothing (hg.keeps (keeps_offline g)) hattended.offline
    g.registry.owners
  obtain ⟨timer, error, -, -, heq⟩ := g.loseConnection_eq
  rw [heq]
  refine of_unregistered rfl fun duration hgrant => ?_
  obtain ⟨d, hd, haddressee, hsession, hnotice⟩ := mem_mail.mp hgrant
  rcases List.mem_append.mp hd with hd | hd
  · have hfailed := hnothing d hd hsession
    rw [hnotice] at hfailed
    cases hfailed
  · obtain ⟨-, l, hl⟩ := g.mem_bulletin hd
    rw [hl] at haddressee
    cases haddressee

lemma act (hg : Sound g) (hattended : Attended g) (hkeyed : KeyedOnline g) (h : Orderly g [])
    {a : Action} (ha : (Occurrence.act a).Undisturbed g) :
    Orderly (g.act a).group (g.act a).deliveries := by
  cases hown : a.isSupervision with
  | false => exact h.outward hg hattended hkeyed (outward_act hg hattended ha hown)
  | true =>
    cases a with
    | startRegistration l => exact h.startRegistration hg hattended l
    | stopRegistration => exact h.stopRegistration hg hattended
    | setRegistrationListener l =>
      simp only [Group.act, answering, setRegistrationListener]
      split
      · exact h
      have hrevised : Orderly { g with supervisor := { g.supervisor with listener := l } } [] :=
        h.revise rfl rfl id id
      split
      · exact hrevised
      · exact hrevised.of_mail_eq (mail_cons_listener _ _ _ _ _)
    | setConnected up =>
      simp only [Group.act, answering, setConnected]
      split_ifs
      · exact h
      · exact h.regainConnection hg hattended
      · exact loseConnection hg hattended
    | stopTimer => exact h.revise rfl rfl id id
    | close => exact h.close hg hattended
    | _ => cases hown

lemma wake (hg : Sound g) (hattended : Attended g) (h : Orderly g []) (call : WakeupCall) :
    Orderly (g.wake call).group (g.wake call).deliveries := by
  cases call with
  | keepalive process =>
    simp only [Group.wake]
    rcases g.keepAlive_eq process with ⟨-, heq⟩ | ⟨-, timer, network, heq, -⟩
    · rw [heq]
      exact h
    · rw [heq]
      exact h.revise rfl rfl id id
  | refresh =>
    simp only [Group.wake]
    rcases g.refresh_eq with ⟨-, heq⟩ | ⟨hrunning, -, id, hid, heq⟩
    · rw [heq]
      exact h
    · rw [heq]
      exact of_asked_running (hattended.paperwork (.cleared g)) (hg.keeps (keeps_cleared g)) hrunning
        hid rfl h.atRest

/-! ### Handing over -/

omit [Transport σ] in
/-- A notice about the session of the supervisor is not followed by a grant. -/
lemma not_granted_later (h : Orderly g (⟨.supervisor, id, n⟩ :: waiting))
    (hid : g.supervisor.session = some id) (duration : Int) :
    .registrationDone duration ∉ g.mail waiting := by
  intro hmail
  have halone := (h.granted duration (mail_cons hid n waiting ▸ List.mem_cons_of_mem _ hmail)).1
  rw [mail_cons hid, List.cons.injEq] at halone
  rw [halone.2] at hmail
  cases hmail

omit [Transport σ] in
/-- A notice that nobody makes anything of may be dropped. -/
lemma drop (h : Orderly g (d :: waiting))
    (hd : d.addressee = .supervisor → g.supervisor.session = some d.session →
      g.supervisor.registered = false ∨ d.notice ≠ .registering) : Orderly g waiting := by
  rcases d with ⟨addressee, id, n⟩
  cases addressee with
  | listener l => exact h.of_mail_eq (mail_cons_listener g l id n waiting).symm
  | supervisor =>
  by_cases hid : g.supervisor.session = some id
  · refine of_no_grant (fun hregistered => ?_) (h.not_granted_later hid)
    have hother := (hd rfl hid).resolve_left (by simp [hregistered])
    have hmail := h.registered hregistered
    rw [mail_cons hid, List.mem_cons] at hmail
    exact hmail.imp_right (Or.resolve_left · (Ne.symm hother))
  · refine h.of_mail_eq ?_
    simp only [mail, hid, List.filter_cons, and_false, decide_false, Bool.false_eq_true, if_false]

lemma onRegistrationDone (hg : Sound g) (hattended : Attended g)
    (hrunning : g.supervisor.running = true) (hid : g.supervisor.session = some id)
    (h : Orderly g (⟨.supervisor, id, .registrationDone duration⟩ :: waiting)) :
    Orderly (g.onRegistrationDone id duration).group
      ((g.onRegistrationDone id duration).deliveries ++ waiting) := by
  obtain ⟨halone, hgrant⟩ := h.granted duration (by
    rw [mail_cons hid]
    exact List.mem_cons_self)
  have hnone : g.mail waiting = [] := by
    rw [mail_cons hid, List.cons.injEq] at halone
    exact halone.2
  by_cases hpos : 0 < duration
  · have haccepted : Orderly (g.accepted duration) waiting :=
      of_no_grant (fun _ => .inl (hgrant hpos).2) (h.not_granted_later hid)
    rw [onRegistrationDone_of_pos g id hpos]
    exact ((haccepted.scheduleRefresh _).startKeepalive).of_mail_eq (mail_cons_listener _ _ _ _ _)
  · rw [onRegistrationDone_of_not_pos g id hpos]
    dsimp only
    split
    · have hasked := of_asked_running (hattended.paperwork (.ended g)) (hg.keeps (keeps_ended g))
        hrunning hid (e := .register g.settings.expiry) rfl nofun
      have hsession : (g.ended.dispatch id (.register g.settings.expiry)).group.supervisor.session =
          g.supervisor.session := by rw [supervisor_dispatch]; rfl
      refine hasked.of_mail_eq ?_
      -- nothing is left behind the end of the registration
      rw [List.cons_append, tellListener, mail_cons_listener, mail_append,
        mail_congr hsession waiting, hnone, List.append_nil]
    · refine of_unregistered rfl fun other hother => ?_
      rw [List.cons_append, tellListener, mail_cons_listener] at hother
      exact h.not_granted_later hid other hother

omit [Transport σ] in
lemma onRegistrationFailed (hid : g.supervisor.session = some id)
    (h : Orderly g (⟨.supervisor, id, n⟩ :: waiting)) (code : ErrorCode) (message : String) :
    Orderly (g.onRegistrationFailed id code message).group
      ((g.onRegistrationFailed id code message).deliveries ++ waiting) := by
  have hnoted : Orderly (g.noteFailure code message) waiting :=
    of_unregistered rfl (h.not_granted_later hid)
  have hpaused : Orderly (g.noteFailure code message).pause waiting := by
    obtain ⟨timer, heq, -⟩ := (g.noteFailure code message).pause_eq
    rw [heq]
    exact hnoted.revise rfl rfl (fun hup => hup) nofun
  unfold Group.onRegistrationFailed
  dsimp only
  split
  · exact hpaused.of_mail_eq (mail_cons_listener _ _ _ _ _)
  · exact hpaused.of_mail_eq (mail_cons_listener _ _ _ _ _)
  · exact hnoted.of_mail_eq (mail_cons_listener _ _ _ _ _)
  · exact hnoted.scheduleRetry.of_mail_eq (mail_cons_listener _ _ _ _ _)

/-- The supervisor believes what it is told. -/
lemma handOver (hg : Sound g) (hattended : Attended g)
    (hrunning : g.supervisor.registered = true → g.supervisor.running = true)
    (h : Orderly g (d :: waiting)) :
    Orderly (g.handOver d).group ((g.handOver d).deliveries ++ waiting) := by
  rcases d with ⟨addressee, id, notice⟩
  cases addressee with
  | listener l => exact h.drop fun h => by cases h
  | supervisor =>
  by_cases hsupervises : g.supervises id = true
  · simp only [Group.handOver, if_pos hsupervises]
    simp only [supervises, Bool.and_eq_true, decide_eq_true_eq] at hsupervises
    obtain ⟨hrunning, hid⟩ := hsupervises
    cases notice with
    | registering =>
      have hrevised : Orderly { g with supervisor := { g.supervisor with registered := false } }
          waiting := of_unregistered rfl (h.not_granted_later hid)
      exact hrevised.of_mail_eq (mail_cons_listener _ _ _ _ _)
    | registrationDone duration => exact h.onRegistrationDone hg hattended hrunning hid
    | registrationFailed code message => exact h.onRegistrationFailed hid code message
    | registrationTimeout =>
      have hnoted : Orderly (g.noteFailure .timeOut "registration timed out") waiting :=
        of_unregistered rfl (h.not_granted_later hid)
      exact hnoted.scheduleRetry.of_mail_eq (mail_cons_listener _ _ _ _ _)
    | _ => exact h.drop fun _ _ => .inr (by simp)
  · simp only [Group.handOver, if_neg hsupervises]
    refine h.drop fun _ hid => .inl ?_
    by_contra hregistered
    exact hsupervises (by simp [supervises, hrunning (by simpa using hregistered), hid])

omit [Transport σ] in
/-- A grant that is the last thing that happened comes in time. -/
lemma not_belated (h : Orderly g (d :: waiting)) :
    ¬ (Occurrence.handOver d : Occurrence σ).Belated g := by
  rcases d with ⟨_ | _, id, notice⟩
  · exact fun hbelated => hbelated
  cases notice with
  | registrationDone duration =>
    rintro ⟨hpos, hsupervises, hdown⟩
    simp only [supervises, Bool.and_eq_true, decide_eq_true_eq] at hsupervises
    have hmail : .registrationDone duration ∈
        g.mail (⟨.supervisor, id, .registrationDone duration⟩ :: waiting) := by
      rw [mail_cons hsupervises.2]
      exact List.mem_cons_self
    rw [((h.granted duration hmail).2 hpos).1] at hdown
    cases hdown
  | _ => exact fun hbelated => hbelated

end Orderly

end Group

namespace Scene

variable {σ : Type} [Transport σ] {c : Scene σ}

/-- As long as notices are handed over at once, the books are in order, no grant comes too late, and
the session of a supervisor that takes itself for registered is idle. -/
lemma Reachable.orderly_of_undisturbed (h : c.Reachable (Proceeds Occurrence.Undisturbed)) :
    c.InOrder True ∧ c.group.Orderly c.notices := by
  refine h.invariant (P := fun c => c.InOrder True ∧ c.group.Orderly c.notices) (fun _ _ _ => ?_) ?_
  · exact ⟨Group.inOrder_start _ _ _, .of_unregistered rfl nofun⟩
  rintro c c' hreachable hstep ⟨hbooks, horderly⟩
  have hinterleaves := hreachable.mono fun _ _ h => h.interleaves
  obtain ⟨hsound, hattended⟩ := hinterleaves.attended
  cases hstep with
  | begins hidle ho hstep =>
    rw [hidle] at horderly
    cases hstep with
    | act a =>
      refine ⟨hbooks.step (.act a) ho.1 fun _ => id, ?_⟩
      simp only [acting, hidle, List.nil_append]
      exact horderly.act hsound hattended hinterleaves.keyedOnline ho
    | handOver hnotices =>
      rw [hidle] at hnotices
      simp at hnotices
    | ring =>
      refine ⟨hbooks.step .ring ho.1 fun _ => id, ?_⟩
      rw [hidle]
      exact horderly.revise rfl rfl id id
    | wake hwakeups =>
      refine ⟨hbooks.step (.wake hwakeups) ho.1 fun _ => id, ?_⟩
      simp only [hidle, List.nil_append]
      exact horderly.wake hsound hattended _
    | drift network =>
      refine ⟨hbooks.step (.drift network) ho.1 fun _ => id, ?_⟩
      rw [hidle]
      exact horderly.revise rfl rfl id id
  | delivers hnotices hd =>
    rw [hnotices] at horderly
    refine ⟨hbooks.step (step_delivering hnotices) hd.1 fun _ => horderly.not_belated, ?_⟩
    rw [delivering_eq hnotices]
    exact horderly.handOver hsound hattended hbooks.registered

lemma Reachable.orderly (h : c.Reachable (Proceeds Occurrence.Supervised)) :
    c.InOrder True ∧ c.group.Orderly c.notices :=
  orderly_of_undisturbed (h.mono fun _ _ hstep => hstep.mono fun _ _ ho => ho.undisturbed)

/-- Between the operations of a thread that hands every notice over at once: a registration holds
only for a supervisor that is running in an open group while the data connection is up, its session
is idle, and the registration has an end and no failure; there is at most one refresh; the keepalive
process has exactly one wake-up, queued or given out, and no other process has one queued; and a
supervisor that is not running, is offline, or belongs to a closed group has nothing queued. -/
theorem bookkeeping_consistent (h : c.Reachable (Proceeds Occurrence.Supervised))
    (hidle : c.notices = []) :
    (c.group.supervisor.registered = true →
      c.group.supervisor.running = true ∧ c.group.connected = true ∧ c.group.closed = false ∧
      (∃ id, c.group.supervisor.session = some id ∧ c.group.stateOf id = .ready) ∧
      c.group.supervisor.expiresAt.isSome = true ∧ c.group.supervisor.lastError = none) ∧
    c.group.timer.queued .refresh ≤ 1 ∧
    (∀ process, c.group.supervisor.keepalive = some process →
      c.group.timer.queued (.keepalive process) + c.wakeups.count (.keepalive process) = 1) ∧
    (∀ process, 0 < c.group.timer.queued (.keepalive process) →
      c.group.supervisor.keepalive = some process) ∧
    (c.group.supervisor.running = false ∨ c.group.connected = false ∨ c.group.closed = true →
      c.group.supervisor.keepalive = none ∧ c.group.timer.queue = []) := by
  obtain ⟨hbooks, horderly⟩ := h.orderly
  obtain ⟨-, hengaged⟩ := (h.mono fun _ _ h => h.interleaves).engaged
  rw [hidle] at horderly
  refine ⟨fun hregistered => ?_, hbooks.refresh, hbooks.ticking hengaged.ticks, hbooks.current,
    fun hcannot => ?_⟩
  · have hrunning := hbooks.registered hregistered
    refine ⟨hrunning, ?_, ?_, horderly.atRest hregistered, hbooks.granted hregistered⟩
    · by_contra hdown
      have hlost := (hbooks.offline trivial (by simpa using hdown)).1
      cases hlost.symm.trans hregistered
    · by_contra hclosed
      have hstopped := hbooks.closed (by simpa using hclosed)
      cases hstopped.symm.trans hrunning
  · have hsilent : c.group.supervisor.keepalive = none ∧ c.group.timer.queued .refresh = 0 := by
      rcases hcannot with hstopped | hdown | hclosed
      · exact hbooks.idle hstopped
      · exact (hbooks.offline trivial hdown).2
      · exact hbooks.idle (hbooks.closed hclosed)
    refine ⟨hsilent.1, ?_⟩
    rw [Timer.queue_eq_nil_iff]
    exact hbooks.queued_eq_zero hsilent.1 hsilent.2

/-- A registration has been granted, and everybody has been told: a refresh is queued, and the first
keepalive process has its wake-up. -/
theorem bookkeeping_consistent_of_grant :
    let c := granted.delivering.delivering
    c.Reachable (Proceeds Occurrence.Supervised) ∧ c.notices = [] ∧
      c.group.supervisor.registered = true ∧ c.group.stateOf 0 = .ready ∧
      c.group.timer.queued .refresh = 1 ∧ c.group.supervisor.keepalive = some 0 ∧
      c.group.timer.queued (.keepalive 0) = 1 := by
  intro c
  have hc : c.Reachable (Proceeds Occurrence.Supervised) := by
    refine .delivering (.delivering Reachable.granted_supervised ?_) ?_
    all_goals exact fun _ => ⟨trivial, trivial⟩
  have hidle : c.notices = [] := by decide +kernel
  have hregistered : c.group.supervisor.registered = true := by decide +kernel
  have hfirst : c.group.supervisor.session = some 0 := by decide +kernel
  have hqueued : 0 < c.group.timer.queued .refresh := by decide +kernel
  have hprocess : c.group.supervisor.keepalive = some 0 := by decide +kernel
  obtain ⟨hholds, hone, hticking, -⟩ := bookkeeping_consistent hc hidle
  obtain ⟨-, -, -, ⟨id, hid, hready⟩, -⟩ := hholds hregistered
  obtain rfl : id = 0 := Option.some.inj (hid.symm.trans hfirst)
  -- no wake-up has been given out yet
  have hticks : c.group.timer.queued (.keepalive 0) = 1 := hticking 0 hprocess
  exact ⟨hc, hidle, hregistered, hready, Nat.le_antisymm hone hqueued, hprocess, hticks⟩

end Scene

end SipAgent
