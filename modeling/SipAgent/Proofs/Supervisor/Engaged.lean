import SipAgent.Proofs.Group.Ownership
import SipAgent.Proofs.Group.Scene
import SipAgent.Proofs.Session.Registration
import SipAgent.Proofs.Supervisor.Steady

/-!
# The session that registers

The supervisor engages one session and keeps it. As long as the application keeps away from it, it
does nothing but register, and it reports to the supervisor, or to nobody once the supervisor has
been stopped.
-/

namespace SipAgent

/-- The action is about the registration or the timer, and touches the books of the supervisor. -/
def Action.isSupervision : Action → Bool
  | .startRegistration _ | .stopRegistration | .setRegistrationListener _ | .setConnected _
  | .stopTimer | .close => true
  | _ => false

namespace Group

variable {σ : Type} {g g' : Group σ} {id i : SessionId} {s : Session} {e : SessionEvent}

/-- The session of a supervisor reports to it, or to nobody unless the supervisor is running. -/
def ReportsTo (g : Group σ) (a : Addressee) : Prop :=
  a = .supervisor ∨ g.supervisor.running = false ∧ a = .listener .nobody

lemma ReportsTo.of_running {a : Addressee} (h : g.ReportsTo a)
    (hrunning : g.supervisor.running = true) : a = .supervisor :=
  h.resolve_right fun hstopped => by cases hrunning.symm.trans hstopped.1

lemma ReportsTo.mono {a : Addressee} (h : g.ReportsTo a)
    (hrunning : g'.supervisor.running = true → g.supervisor.running = true) : g'.ReportsTo a := by
  refine h.imp_right fun ⟨hstopped, ha⟩ => ⟨?_, ha⟩
  rw [Bool.eq_false_iff]
  intro hs
  cases (hrunning hs).symm.trans hstopped

/-- A supervisor that is running has a session, which does nothing but register. -/
structure Attended (g : Group σ) : Prop where
  session : g.supervisor.running = true → ∃ id, g.supervisor.session = some id
  cell : ∀ id, g.supervisor.session = some id → ∃ s a, g.cells[id]? = some ⟨s, a⟩ ∧
    s.OnlyRegisters ∧ g.ReportsTo a

lemma attended_start (profile : Profile) (settings : RegistrationSettings) (network : σ) :
    Attended (start profile settings network) where
  session := nofun
  cell _ := nofun

/-- The session of the supervisor is the same and has no more keys. -/
structure Spares (g g' : Group σ) : Prop where
  session : g'.supervisor.session = g.supervisor.session
  cells : ∀ id cell, g.supervisor.session = some id → g.cells[id]? = some cell →
    g'.cells[id]? = some cell
  owned : ∀ id key, g.supervisor.session = some id → g'.registry.get? key = some id →
    g.registry.get? key = some id

namespace Spares

lemma of_eq (hsession : g'.supervisor.session = g.supervisor.session) (hcells : g'.cells = g.cells)
    (hregistry : g'.registry = g.registry) : Spares g g' :=
  ⟨hsession, fun _ _ _ h => hcells ▸ h, fun _ _ _ h => hregistry ▸ h⟩

lemma attended (h : Spares g g') (hg : Attended g)
    (hrunning : g'.supervisor.running = true → g.supervisor.running = true) : Attended g' where
  session hs := by
    rw [h.session]
    exact hg.session (hrunning hs)
  cell id hid := by
    rw [h.session] at hid
    obtain ⟨s, a, hcell, hs, ha⟩ := hg.cell id hid
    exact ⟨s, a, h.cells id _ hid hcell, hs, ha.mono hrunning⟩

end Spares

lemma cells_setAddressee_self {a : Addressee} (h : g.cells[id]? = some ⟨s, a⟩) (a' : Addressee) :
    (g.setAddressee id a').cells[id]? = some ⟨s, a'⟩ := by
  have hid : id < g.cells.length := (List.getElem?_eq_some_iff.mp h).1
  unfold setAddressee
  rw [h]
  exact List.getElem?_set_self hid

lemma spares_setAddressee (hne : g.supervisor.session ≠ some id) (a : Addressee) :
    Spares g (g.setAddressee id a) := by
  refine ⟨congrArg Supervisor.session (supervisor_setAddressee g id a), fun i cell hi hcell => ?_,
    fun i key _ hkey => ?_⟩
  · unfold setAddressee
    split
    · exact (List.getElem?_set_ne (by rintro rfl; exact hne hi)).trans hcell
    · exact hcell
  · unfold setAddressee at hkey
    split at hkey <;> exact hkey

variable [Transport σ]

/-! ### Feeding one event -/

/-- What the session of the supervisor tells comes with its own number. -/
lemma dispatch_exchange (hg : Sound g) {a : Addressee} (hcell : g.cells[id]? = some ⟨s, a⟩)
    (hs : s.OnlyRegisters) (hcommand : e.isCommand = true → e.isRegistration = true) :
    ∃ s' told, Session.Exchange e s.state s'.state told ∧ s'.OnlyRegisters ∧
      (g.dispatch id e).group.cells[id]? = some ⟨s', a⟩ ∧
      (g.dispatch id e).deliveries = told.map fun n => ⟨a, id, n⟩ := by
  have hid : s.id = id := hg.numbered id s (session?_eq_some.mpr ⟨a, hcell⟩)
  obtain ⟨told, hexchange, hreports⟩ :=
    Session.exchange_process (e := e) g.profile g.cells.length hs hcommand g.network
  obtain ⟨-, hrole, -⟩ := Session.process_session g.profile g.cells.length hs.role e g.network
  refine ⟨_, told, hexchange, ⟨hrole, hexchange.state hs.state⟩, dispatch_cells_self hcell e, ?_⟩
  rw [dispatch_deliveries hcell]
  simp only [outcomeOf, hreports, List.map_map, hid]
  rfl

/-- Somebody else who is fed an event takes no key for the session of the supervisor. -/
lemma dispatch_owner_of_ne (hg : Sound g) {cell : Cell} (hcell : g.cells[i]? = some cell)
    (hne : i ≠ id) {key : CallId}
    (h : (g.dispatch id e).group.registry.get? key = some i) : g.registry.get? key = some i := by
  cases hs : g.session? id with
  | none =>
    rw [dispatch_of_none hs] at h
    exact h
  | some s =>
    cases hrole : s.role with
    | dialog =>
      obtain ⟨heffect, -⟩ := Session.keyEffect_process (Promise.nothing_keptBy σ) g.profile
        g.cells.length hrole e g.network
      obtain ⟨-, hdialog, -⟩ := Session.process_session g.profile g.cells.length hrole e g.network
      rw [dispatch_registry hs] at h
      rcases hg.owners_of_keyEffect hs hdialog heffect h with ⟨rfl, -⟩ | ⟨-, howner⟩
      · exact absurd rfl hne
      · exact howner
    | receiver =>
      rw [hg.receivers id s hs hrole] at hs
      rcases dispatch_receiver (Promise.nothing_keptBy σ) hs e with
        hkeeps | ⟨_, _, _, -, -, -, hregistry, -⟩
      · exact hkeeps.get? key ▸ h
      · rw [hregistry, Registry.get?_insert] at h
        split at h
        · cases h
          rw [List.getElem?_eq_none (Nat.le_refl _)] at hcell
          cases hcell
        · exact h

lemma spares_dispatch (hg : Sound g) (hattended : Attended g)
    (hne : g.supervisor.session ≠ some id) (e : SessionEvent) :
    Spares g (g.dispatch id e).group where
  session := congrArg Supervisor.session (supervisor_dispatch g id e)
  cells i cell hi hcell := dispatch_cells_of_ne hcell (by rintro rfl; exact hne hi) e
  owned i key hi hkey := by
    obtain ⟨s, a, hcell, -⟩ := hattended.cell i hi
    exact dispatch_owner_of_ne hg hcell (by rintro rfl; exact hne hi) hkey

/-- Whoever is fed an event, only it and a new session have something to tell. -/
lemma dispatch_deliveries_session (hg : Sound g) (id : SessionId) (e : SessionEvent) :
    ∀ d ∈ (g.dispatch id e).deliveries, d.session = id ∨ d.session = g.cells.length := by
  intro d hd
  cases hcell : g.cells[id]? with
  | none =>
    rw [dispatch_of_none (by rw [session?, hcell]; rfl)] at hd
    cases hd
  | some cell =>
    rw [dispatch_deliveries hcell] at hd
    obtain ⟨report, hreport, rfl⟩ := List.mem_map.mp hd
    have hs : g.session? id = some cell.session := by rw [session?, hcell]; rfl
    cases hrole : cell.session.role with
    | dialog =>
      obtain ⟨-, -, hreports⟩ := Session.process_session g.profile g.cells.length hrole e g.network
      exact .inl ((hreports report hreport).trans (hg.numbered id _ hs))
    | receiver =>
      have hidle := hg.receivers id _ hs hrole
      have hself := (Session.selfContained_process g.profile g.cells.length cell.session e
        g.network).reports report hreport
      have hintake := Session.intakeEffect_process (Promise.nothing_keptBy σ) g.profile id
        g.cells.length e g.network
      rw [← hidle] at hintake
      rcases hself with hsession | ⟨t, ht, hsession⟩
      · cases hintake with
        | nothing hkept | spawns _ _ _ _ _ _ hkept =>
          rw [hkept, hidle] at hsession
          exact .inl hsession
      · cases hintake with
        | nothing _ _ hnone =>
          rw [hnone] at ht
          cases ht
        | spawns r tag u _ _ _ _ _ hspawned =>
          rw [hspawned] at ht
          cases ht
          exact .inr (hsession.trans (Session.takingIn_id _ r tag u))

/-- So the session of the supervisor has nothing to tell when it is not the one. -/
lemma dispatch_deliveries_ne (hg : Sound g) (hattended : Attended g)
    (hne : g.supervisor.session ≠ some id) (e : SessionEvent) :
    ∀ d ∈ (g.dispatch id e).deliveries, g.supervisor.session ≠ some d.session := by
  intro d hd hsession
  rcases dispatch_deliveries_session hg id e d hd with hd | hd
  · rw [hd] at hsession
    exact hne hsession
  · obtain ⟨s, a, hcell, -⟩ := hattended.cell _ hsession
    rw [hd, List.getElem?_eq_none (Nat.le_refl _)] at hcell
    cases hcell

/-! ### What the application and the network do -/

/-- What is done without the supervisor and without its session: the session is spared, and has
nothing to tell. -/
structure Aside (g g' : Group σ) (ds : List Delivery) : Prop where
  books : g'.books = g.books
  spares : Spares g g'
  silent : ∀ d ∈ ds, g.supervisor.session ≠ some d.session

namespace Aside

omit [Transport σ] in
lemma refl (g : Group σ) : Aside g g [] :=
  ⟨rfl, ⟨rfl, fun _ _ _ h => h, fun _ _ _ h => h⟩, nofun⟩

omit [Transport σ] in
lemma addSession (g : Group σ) (role : Role) (a : Addressee) (r : Registry SessionId)
    (hr : r.bindings = g.registry.bindings) :
    Aside g { (g.addSession role a).2 with registry := r } [] := by
  refine ⟨rfl, ⟨rfl, fun id cell _ hcell => ?_, fun id key _ hkey => ?_⟩, nofun⟩
  · have hlt : id < g.cells.length := (List.getElem?_eq_some_iff.mp hcell).1
    exact (List.getElem?_append_left hlt).trans hcell
  · unfold Registry.get? at hkey ⊢
    rw [← hr]
    exact hkey

lemma dispatch (hg : Sound g) (hattended : Attended g) (hne : g.supervisor.session ≠ some id)
    (e : SessionEvent) : Aside g (g.dispatch id e).group (g.dispatch id e).deliveries :=
  ⟨books_dispatch g id e, spares_dispatch hg hattended hne e,
    dispatch_deliveries_ne hg hattended hne e⟩

/-- Only a signal gets to the session of the supervisor. -/
lemma act (hg : Sound g) (hattended : Attended g) {a : Action}
    (ha : (Occurrence.act a).Undisturbed g) (hnot : a.isSupervision = false)
    (hsignal : ∀ s, a ≠ .signal s) : Aside g (g.act a).group (g.act a).deliveries := by
  obtain ⟨⟨hring, hallowed⟩, halone⟩ := ha
  cases a with
  | createSession l =>
    by_cases hclosed : g.closed = true
    · simp only [Group.act, createSession, if_pos hclosed]
      exact .refl g
    · simp only [Group.act, createSession, if_neg hclosed]
      exact .addSession g .dialog _ g.registry rfl
  | command id e =>
    have hdispatch := Aside.dispatch hg hattended halone e
    simp only [Group.act, answering, command]
    split
    · exact .refl g
    · split <;> exact hdispatch
  | setListener id l =>
    exact ⟨g.books_setAddressee id _, spares_setAddressee halone _, by simp [Group.act]⟩
  | openToCalls l =>
    by_cases hclosed : g.closed = true
    · simp only [Group.act, openToCalls, if_pos hclosed]
      exact .refl g
    · simp only [Group.act, openToCalls, if_neg hclosed]
      exact .addSession g .receiver _ _ rfl
  | closeToCalls | tick =>
    exact ⟨rfl, ⟨rfl, fun _ _ _ h => h, fun _ _ _ h => h⟩, by simp [Group.act]⟩
  | signal s => exact absurd rfl (hsignal s)
  | ring => exact absurd rfl hring
  | _ => cases hnot

end Aside

/-- What is done without the supervisor: either its session is left aside, or a signal reaches it. -/
inductive Outward (g : Group σ) : Group σ → List Delivery → Prop where
  | aside {g' : Group σ} {ds : List Delivery} (hbooks : g'.books = g.books) (h : Spares g g')
      (hds : ∀ d ∈ ds, g.supervisor.session ≠ some d.session) : Outward g g' ds
  | hears {id : SessionId} {e : SessionEvent} {key : CallId}
      (hid : g.supervisor.session = some id) (hkey : g.registry.get? key = some id)
      (hcommand : e.isCommand = false) (hlost : e ≠ .connectionLost) :
      Outward g (g.dispatch id e).group (g.dispatch id e).deliveries

lemma Aside.outward {ds : List Delivery} (h : Aside g g' ds) : Outward g g' ds :=
  .aside h.books h.spares h.silent

lemma outward_act (hg : Sound g) (hattended : Attended g) {a : Action}
    (ha : (Occurrence.act a).Undisturbed g) (hnot : a.isSupervision = false) :
    Outward g (g.act a).group (g.act a).deliveries := by
  by_cases hsignal : ∃ s, a = .signal s
  · obtain ⟨s, rfl⟩ := hsignal
    simp only [act, answering, processSignal]
    split
    · exact (Aside.refl g).outward
    split
    · exact (Aside.refl g).outward
    next id hresolve =>
    by_cases hid : g.supervisor.session = some id
    · obtain ⟨t, a, hcell, ht, -⟩ := hattended.cell id hid
      have howner := hg.owner_of_resolve (session?_eq_some.mpr ⟨a, hcell⟩) ht.role hresolve
      exact .hears hid howner (by cases s <;> rfl)
        (by cases s <;> simp [SessionEvent.ofSignal])
    · exact (Aside.dispatch hg hattended hid _).outward
  · exact (Aside.act hg hattended ha hnot (not_exists.mp hsignal)).outward

/-! ### What the supervisor does -/

omit [Transport σ] in
lemma Paperwork.spares (h : Paperwork g g') : Spares g g' :=
  .of_eq h.session h.cells h.registry

omit [Transport σ] in
lemma keeps_engaging (g : Group σ) (l : Listener) : Keeps g (g.engaging l).2 := by
  have hstarted : Rests g (g.started l) := .of_eq rfl rfl rfl rfl rfl
  exact (rests_engage hstarted).toKeeps

omit [Transport σ] in
lemma rests_retired (g : Group σ) : Rests g g.retired :=
  (rests_pause g).trans (.of_eq rfl rfl rfl rfl rfl)

omit [Transport σ] in
lemma rests_dismissed (g : Group σ) (id : SessionId) : Rests g (g.dismissed id) :=
  (rests_retired g).trans (rests_setAddressee _ _ _)

omit [Transport σ] in
lemma keeps_dismissed (g : Group σ) (id : SessionId) : Keeps g (g.dismissed id) :=
  (rests_dismissed g id).toKeeps

omit [Transport σ] in
lemma keeps_cleared (g : Group σ) : Keeps g g.cleared :=
  .of_eq rfl rfl rfl rfl

omit [Transport σ] in
lemma keeps_ended (g : Group σ) : Keeps g g.ended :=
  .of_eq rfl rfl rfl rfl

omit [Transport σ] in
lemma keeps_resumed (g : Group σ) : Keeps g g.resumed :=
  .of_eq rfl rfl rfl rfl

omit [Transport σ] in
lemma keeps_offline (g : Group σ) : Keeps g { g with connected := false } :=
  .of_eq rfl rfl rfl rfl

namespace Attended

omit [Transport σ] in
lemma paperwork (h : Attended g) (hg' : Paperwork g g') : Attended g' :=
  hg'.spares.attended h hg'.running

omit [Transport σ] in
lemma resumed (h : Attended g) : Attended g.resumed :=
  ⟨h.session, h.cell⟩

omit [Transport σ] in
lemma offline (h : Attended g) : Attended { g with connected := false } :=
  ⟨h.session, h.cell⟩

/-- The session of the supervisor is fed a signal, or is asked to register. -/
lemma dispatch_self (hg : Sound g) (h : Attended g) (hid : g.supervisor.session = some id)
    (hcommand : e.isCommand = true → e.isRegistration = true) :
    Attended (g.dispatch id e).group where
  session := by
    rw [supervisor_dispatch]
    exact h.session
  cell i hi := by
    rw [supervisor_dispatch] at hi
    obtain rfl : i = id := Option.some.inj (hi.symm.trans hid)
    obtain ⟨s, a, hcell, hs, ha⟩ := h.cell i hi
    obtain ⟨s', -, -, hs', hcell', -⟩ := dispatch_exchange hg hcell hs hcommand
    refine ⟨s', a, hcell', hs', ha.mono ?_⟩
    rw [supervisor_dispatch]
    exact fun hs => hs

/-- A running supervisor is told of all that passes between its session and the registrar. -/
lemma exchange (h : Attended g) (hg : Sound g) (hrunning : g.supervisor.running = true)
    (hid : g.supervisor.session = some id)
    (he : e.isCommand = true → e.isRegistration = true) :
    ∃ told, Session.Exchange e (g.stateOf id) ((g.dispatch id e).group.stateOf id) told ∧
      (g.dispatch id e).deliveries = told.map fun n => ⟨.supervisor, id, n⟩ := by
  obtain ⟨s, a, hcell, hs, ha⟩ := h.cell id hid
  obtain rfl := ha.of_running hrunning
  obtain ⟨s', told, hexchange, -, hcell', hds⟩ := dispatch_exchange hg hcell hs he
  rw [stateOf_of_cell hcell, stateOf_of_cell hcell']
  exact ⟨told, hexchange, hds⟩

lemma dispatch_other (hg : Sound g) (h : Attended g) (hid : g.supervisor.session ≠ some id)
    (e : SessionEvent) : Attended (g.dispatch id e).group := by
  refine (spares_dispatch hg h hid e).attended h ?_
  rw [supervisor_dispatch]
  exact fun hs => hs

lemma connectionLost (h : Attended g) (hg : Sound g) (id : SessionId) :
    Attended (g.dispatch id .connectionLost).group := by
  by_cases hid : g.supervisor.session = some id
  · exact dispatch_self hg h hid nofun
  · exact dispatch_other hg h hid _

lemma disconnect (h : Attended g) (hg : Sound g) (ids : List SessionId) :
    Attended (g.disconnect ids).group := by
  induction ids generalizing g with
  | nil => exact h
  | cons id more ih => exact ih (h.connectionLost hg id) (hg.dispatch id _)

omit [Transport σ] in
/-- The session of a supervisor that is not running may report to nobody. -/
lemma dismissed (h : Attended g) (id : SessionId) : Attended (g.dismissed id) := by
  have hretired : Attended g.retired := h.paperwork (.retired g)
  by_cases hid : g.retired.supervisor.session = some id
  · obtain ⟨s, a, hcell, hs, -⟩ := hretired.cell id hid
    refine ⟨fun hrunning => ?_, fun i hi => ?_⟩
    · rw [supervisor_dismissed, g.retired_running] at hrunning
      cases hrunning
    · rw [supervisor_dismissed] at hi
      obtain rfl : i = id := Option.some.inj (hi.symm.trans hid)
      refine ⟨s, _, cells_setAddressee_self hcell (.listener .nobody), hs, .inr ⟨?_, rfl⟩⟩
      rw [supervisor_dismissed]
      exact g.retired_running
  · refine (spares_setAddressee hid _).attended hretired ?_
    rw [supervisor_setAddressee]
    exact fun hs => hs

omit [Transport σ] in
/-- A supervisor that starts has a session which reports to it. -/
lemma engaging (h : Attended g) (l : Listener) : Attended (g.engaging l).2 := by
  have hbooks := g.books_engaging l
  have hsession : (g.engaging l).2.supervisor.session = some (g.engaging l).1 :=
    congrArg (·.supervisor.session) hbooks
  obtain ⟨s, hs, hcell⟩ : ∃ s, s.OnlyRegisters ∧
      (g.engaging l).2.cells[(g.engaging l).1]? = some ⟨s, .supervisor⟩ := by
    unfold Group.engaging registrationSession
    cases hid : g.supervisor.session with
    | some id =>
      obtain ⟨s, a, hcell, hs, -⟩ := h.cell id hid
      simp only [started, hid]
      refine ⟨s, hs, cells_setAddressee_self (a := a) ?_ _⟩
      exact hcell
    | none =>
      simp only [started, hid]
      refine ⟨.idle g.cells.length .dialog, ⟨rfl, .inl rfl⟩,
        cells_setAddressee_self (a := .supervisor) ?_ _⟩
      exact List.getElem?_concat_length
  refine ⟨fun _ => ⟨_, hsession⟩, fun i hi => ?_⟩
  obtain rfl := Option.some.inj (hi.symm.trans hsession)
  exact ⟨s, .supervisor, hcell, hs, .inl rfl⟩

lemma startRegistration (hg : Sound g) (h : Attended g) (l : Listener) :
    Attended (g.startRegistration l).group := by
  cases hopen : g.closed with
  | true =>
    rw [startRegistration_of_closed g l hopen]
    exact h
  | false =>
  cases hidle : g.supervisor.running with
  | true =>
    rw [startRegistration_of_running g l hopen hidle]
    exact h.paperwork (.revise rfl fun hs => hs)
  | false =>
  have hattended := h.engaging l
  rw [startRegistration_eq g l hopen hidle]
  dsimp only
  split
  · have hasked := dispatch_self (hg.keeps (keeps_engaging g l)) hattended
      (congrArg (·.supervisor.session) (g.books_engaging l)) (e := .deregister) fun _ => rfl
    split
    · exact hasked
    · exact hasked.paperwork (.scheduleRetry _)
  · exact hattended

lemma stopRegistration (hg : Sound g) (h : Attended g) : Attended g.stopRegistration.group := by
  rcases g.stopRegistration_eq with ⟨-, heq⟩ | heq | ⟨id, hid, heq | ⟨-, heq⟩⟩
  · rw [heq]
    exact h
  · rw [heq]
    exact h.paperwork (.retired g)
  · rw [heq]
    exact h.dismissed id
  · rw [heq]
    refine dispatch_self (hg.keeps (keeps_dismissed g id)) (h.dismissed id) ?_ fun _ => rfl
    rw [session_dismissed]
    exact hid

lemma close (hg : Sound g) (h : Attended g) : Attended g.close.group := by
  unfold Group.close
  split
  · exact h
  · have hstopped := stopRegistration hg h
    exact ⟨hstopped.session, hstopped.cell⟩

lemma regainConnection (hg : Sound g) (h : Attended g) : Attended g.regainConnection.group := by
  cases hrunning : g.supervisor.running with
  | false =>
    rw [regainConnection_of_not_running g hrunning]
    exact ⟨h.session, h.cell⟩
  | true =>
    obtain ⟨id, hid⟩ := h.session hrunning
    rw [regainConnection_eq g hrunning hid]
    exact dispatch_self (hg.keeps (keeps_resumed g)) h.resumed hid fun _ => rfl

lemma loseConnection (hg : Sound g) (h : Attended g) : Attended g.loseConnection.group := by
  have hcut : Attended g.cutOff.group :=
    h.offline.disconnect (hg.keeps (keeps_offline g)) g.registry.owners
  have hbooks := g.books_cutOff
  obtain ⟨timer, error, hstopped, -, heq⟩ := g.loseConnection_eq
  rw [heq]
  refine hcut.paperwork ⟨rfl, rfl, rfl, ?_, fun hs => ?_, ?_⟩
  · exact (congrArg Supervisor.session g.supervisor_cutOff).symm
  · exact (congrArg Supervisor.running g.supervisor_cutOff).trans hs
  · exact hstopped.trans (congrArg (·.timer.stopped) hbooks).symm

lemma outward {ds : List Delivery} (hg : Sound g) (h : Attended g) (hg' : Outward g g' ds) :
    Attended g' := by
  cases hg' with
  | aside hbooks hspares =>
    refine hspares.attended h fun hs => ?_
    rw [show g.supervisor = g'.supervisor from (congrArg Books.supervisor hbooks).symm]
    exact hs
  | hears hid _ hcommand =>
    refine dispatch_self hg h hid fun he => ?_
    rw [hcommand] at he
    cases he

lemma onRegistrationDone (hg : Sound g) (h : Attended g) (hid : g.supervisor.session = some id)
    (duration : Int) : Attended (g.onRegistrationDone id duration).group := by
  by_cases hpos : 0 < duration
  · rw [onRegistrationDone_of_pos g id hpos]
    exact h.paperwork (((Paperwork.accepted g _).trans (.scheduleRefresh _ _)).trans
      (.startKeepalive _))
  · have hended := h.paperwork (.ended g)
    rw [onRegistrationDone_of_not_pos g id hpos]
    dsimp only
    split
    · exact dispatch_self (hg.keeps (keeps_ended g)) hended hid fun _ => rfl
    · exact hended

lemma handOver (hg : Sound g) (h : Attended g) (d : Delivery) : Attended (g.handOver d).group := by
  unfold Group.handOver
  split
  · exact h
  split
  · next hsupervises =>
    simp only [supervises, Bool.and_eq_true, decide_eq_true_eq] at hsupervises
    split
    · exact h.paperwork (.revise rfl fun hs => hs)
    · exact onRegistrationDone hg h hsupervises.2 _
    · exact h.paperwork (.onRegistrationFailed _ _ _ _)
    · exact h.paperwork ((Paperwork.noteFailure _ _ _).trans (.scheduleRetry _))
    · exact h
  · exact h

lemma refresh (hg : Sound g) (h : Attended g) : Attended g.refresh.group := by
  rcases g.refresh_eq with ⟨-, heq⟩ | ⟨-, -, id, hid, heq⟩
  · rw [heq]
    exact h
  · rw [heq]
    exact dispatch_self (hg.keeps (keeps_cleared g)) (h.paperwork (.cleared g)) hid fun _ => rfl

lemma wake (hg : Sound g) (h : Attended g) (call : WakeupCall) : Attended (g.wake call).group := by
  cases call with
  | refresh => exact h.refresh hg
  | keepalive process => exact h.paperwork (.keepAlive g process)

lemma act (hg : Sound g) (h : Attended g) {a : Action} (ha : (Occurrence.act a).Undisturbed g) :
    Attended (g.act a).group := by
  cases hown : a.isSupervision with
  | false => exact outward hg h (outward_act hg h ha hown)
  | true =>
    cases a with
    | startRegistration l => exact h.startRegistration hg l
    | stopRegistration => exact h.stopRegistration hg
    | setRegistrationListener l =>
      simp only [Group.act, answering, setRegistrationListener]
      split
      · exact h
      · split <;> exact h.paperwork (.revise rfl fun hs => hs)
    | setConnected up =>
      simp only [Group.act, answering, setConnected]
      split_ifs
      · exact h
      · exact h.regainConnection hg
      · exact h.loseConnection hg
    | stopTimer => exact ⟨h.session, h.cell⟩
    | close => exact h.close hg
    | _ => cases hown

end Attended

/-! ### The timer -/

/-- Besides, the timer works. -/
structure Engaged (g : Group σ) : Prop extends Attended g where
  ticks : g.timer.stopped = false

end Group

/-! ### Every history -/

namespace Scene

variable {σ : Type} [Transport σ] {c c' : Scene σ} {o : Occurrence σ}

lemma Step.sound (h : c.Step o c') (ho : o.Possible) (hc : c.group.Sound) : c'.group.Sound :=
  hc.effect (h.effect ho)

lemma Step.attended (h : c.Step o c') (ho : o.Undisturbed c.group) (hsound : c.group.Sound)
    (hc : c.group.Attended) : c'.group.Attended := by
  cases h with
  | act a => exact hc.act hsound ho
  | handOver => exact hc.handOver hsound _
  | wake => exact hc.wake hsound _
  | ring | drift => exact ⟨hc.session, hc.cell⟩

/-- As long as the application keeps away from it, the session of the supervisor only registers. -/
lemma Reachable.attended (h : c.Reachable (Interleaves Occurrence.Undisturbed)) :
    c.group.Sound ∧ c.group.Attended := by
  refine h.invariant (P := fun c => c.group.Sound ∧ c.group.Attended) (fun _ _ _ => ?_) ?_
  · exact ⟨Group.sound_start _ _ _, Group.attended_start _ _ _⟩
  · rintro c c' - ⟨o, ho, hstep⟩ ⟨hsound, hattended⟩
    exact ⟨hstep.sound ho.1 hsound, hstep.attended ho hsound hattended⟩

lemma Reachable.undisturbed (h : c.Reachable (Interleaves Occurrence.Supervised)) :
    c.Reachable (Interleaves Occurrence.Undisturbed) :=
  h.mono fun _ _ hstep => hstep.mono fun _ _ ho => ho.undisturbed

/-- The timer works as long as the application keeps away from it as well. -/
lemma Reachable.engaged (h : c.Reachable (Interleaves Occurrence.Supervised)) :
    c.group.Sound ∧ c.group.Engaged := by
  obtain ⟨hsound, hattended⟩ := h.undisturbed.attended
  refine ⟨hsound, hattended, ?_⟩
  refine h.invariant (P := fun c => c.group.timer.stopped = false) (fun _ _ _ => rfl) ?_
  rintro c c' - ⟨o, ho, hstep⟩ hticks
  refine (hstep.stopped ?_).trans hticks
  rintro rfl
  exact ho.2

end Scene

end SipAgent
