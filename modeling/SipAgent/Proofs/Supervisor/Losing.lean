import SipAgent.Proofs.Group.Disconnecting
import SipAgent.Proofs.Group.Settling
import SipAgent.Proofs.Supervisor.Engaged
import SipAgent.Proofs.Supervisor.InOrder

/-!
# The data connection is lost

Whatever is under way when the data connection goes, it ends there: nobody has a key any more,
nothing is queued, nothing is asked of the network, and everybody who was under way tells so once
(`connection_loss_flushes_once`). The listener of the registration is told in one of two ways, by
the session that registers through the supervisor, or by the supervisor itself (`Group.bulletin`);
which one it is depends on whether the session has a key, so it is never both.
-/

namespace SipAgent

namespace Group

variable {σ : Type} [Transport σ] {g g' : Group σ} {id : SessionId} {ds : List Delivery}

/-! ### The loss -/

/-- What is left when the data connection is lost. -/
structure Flushed (g : Group σ) (lost : Change σ Unit) : Prop where
  network : lost.group.network = g.network
  keys : lost.group.registry.bindings = []
  /-- Whoever had a key is idle. -/
  idle : ∀ key id, g.registry.get? key = some id →
    lost.group.session? id = some (.idle id .dialog)
  /-- Whoever had a key tells of the failure, and of nothing else. -/
  told : ∀ key id, g.registry.get? key = some id → ∃ s a, g.cells[id]? = some ⟨s, a⟩ ∧
    lost.deliveries.filter (·.session = id) = [⟨a, id, s.lossNotice⟩]
  queue : lost.group.timer.queue = []
  registered : lost.group.supervisor.registered = false

omit [Transport σ] in
lemma bulletin_session {d : Delivery} (h : d ∈ g.bulletin) :
    g.supervisor.session = some d.session ∧ d.session ∉ g.registry.owners := by
  unfold bulletin at h
  split at h
  · next id hid =>
    split at h
    · next hcond =>
      obtain rfl := List.mem_singleton.mp h
      simp only [Bool.and_eq_true, Bool.not_eq_true', List.contains_eq_mem,
        decide_eq_false_iff_not] at hcond
      exact ⟨hid, hcond.2⟩
    · cases h
  · cases h

omit [Transport σ] in
/-- A supervisor that is not running, or whose session has a key, does not speak for it. -/
lemma bulletin_eq_nil (h : g.supervisor.running = false ∨
    ∃ id, g.supervisor.session = some id ∧ id ∈ g.registry.owners) : g.bulletin = [] := by
  refine List.eq_nil_iff_forall_not_mem.mpr fun d hd => ?_
  rcases h with hstopped | ⟨id, hid, howner⟩
  · cases hstopped.symm.trans (g.mem_bulletin hd).1
  · obtain ⟨hsession, hother⟩ := bulletin_session hd
    obtain rfl := Option.some.inj (hid.symm.trans hsession)
    exact hother howner

omit [Transport σ] in
/-- Among sessions that are listed once, each tells one thing. -/
lemma filter_farewells {ids : List SessionId} (hnodup : ids.Nodup) (hid : id ∈ ids) :
    (ids.filterMap g.farewell?).filter (·.session = id) = (g.farewell? id).toList := by
  induction ids with
  | nil => cases hid
  | cons i more ih =>
    obtain ⟨hnot, hmore⟩ := List.nodup_cons.mp hnodup
    have hfirst : ∀ d, g.farewell? i = some d → d.session = i := fun d => farewell?_session
    by_cases hi : i = id
    · subst hi
      have hnone : (more.filterMap g.farewell?).filter (·.session = i) = [] := by
        refine List.filter_eq_nil_iff.mpr fun d hd => ?_
        obtain ⟨j, hj, hsome⟩ := List.mem_filterMap.mp hd
        have hne : j ≠ i := fun h => hnot (h ▸ hj)
        simp [farewell?_session hsome, hne]
      cases hsome : g.farewell? i with
      | none => simp [hsome, hnone]
      | some d => simp [hsome, hfirst d hsome, hnone]
    · have hmem := (List.mem_cons.mp hid).resolve_left (Ne.symm hi)
      rw [← ih hmore hmem]
      cases hsome : g.farewell? i with
      | none => simp [hsome]
      | some d => simp [hsome, hfirst d hsome, hi]

lemma cutOff_eq (hg : Sound g) (hlisted : g.registry.Unambiguous) :
    g.cutOff.group.network = g.network ∧ g.cutOff.group.registry.bindings = [] ∧
      (∀ id ∈ g.registry.owners, g.cutOff.group.session? id = some (.idle id .dialog)) ∧
      g.cutOff.deliveries = g.registry.owners.filterMap g.farewell? := by
  have hkeyed : ∀ id ∈ g.registry.owners, ∃ key, g.registry.get? key = some id :=
    fun id => hlisted.mem_owners_iff.mp
  obtain ⟨hnetwork, hget, hcells, hdeliveries⟩ := disconnect_eq (hg.keeps (keeps_offline g))
    g.registry.nodup_owners hkeyed
  refine ⟨hnetwork, Registry.bindings_eq_nil fun key => ?_, fun id hid => ?_, hdeliveries⟩
  · rw [Option.eq_none_iff_forall_ne_some]
    intro owner howner
    obtain ⟨hkey, hnot⟩ := (hget key owner).mp howner
    exact hnot (Registry.mem_owners hkey)
  · obtain ⟨key, hkey⟩ := hkeyed id hid
    obtain ⟨s, hs, -⟩ := hg.owners key id hkey
    obtain ⟨a, hcell⟩ := session?_eq_some.mp hs
    refine session?_eq_some.mpr ⟨a, (hcells id).trans ?_⟩
    rw [if_pos hid]
    simp [hcell]

lemma flushed_loseConnection (hg : Sound g) (hlisted : g.registry.Unambiguous)
    (hcurrent : g.OnlyCurrent) : Flushed g g.loseConnection := by
  obtain ⟨hnetwork, hkeys, hidle, hdeliveries⟩ := cutOff_eq hg hlisted
  obtain ⟨timer, error, -, hqueued, heq⟩ := g.loseConnection_eq
  rw [heq]
  refine ⟨hnetwork, hkeys, fun key id hkey => hidle id (Registry.mem_owners hkey),
    fun key id hkey => ?_, Timer.queue_eq_nil_iff.mpr (hqueued hcurrent), rfl⟩
  have howner := Registry.mem_owners hkey
  have hnone : g.bulletin.filter (·.session = id) = [] := by
    refine List.filter_eq_nil_iff.mpr fun d hd => ?_
    obtain ⟨-, hnot⟩ := bulletin_session hd
    simp only [decide_eq_true_eq]
    rintro rfl
    exact hnot howner
  obtain ⟨s, hs, -⟩ := hg.owners key id hkey
  obtain ⟨a, hcell⟩ := session?_eq_some.mp hs
  refine ⟨s, a, hcell, ?_⟩
  rw [List.filter_append, hnone, List.append_nil, hdeliveries,
    filter_farewells g.registry.nodup_owners howner]
  simp [farewell?, hcell]

/-! ### What comes of the notices -/

/-- What is handed over on account of a notice: itself, and what the supervisor passes on. -/
def relay (g : Group σ) (d : Delivery) : List Delivery :=
  if g.takesNotice d then [d, g.tellListener d.session d.notice] else [d]

/-- The failure by which the listener of the registration is told. -/
def lossFailure : Notice :=
  .registrationFailed .dataConnectionLost "data connection lost"

/-! ### The session of the supervisor -/

omit [Transport σ] in
/-- Whoever has a key is not idle. -/
lemma stateOf_ne_ready_of_owner (hg : Sound g) (hlisted : g.registry.Unambiguous)
    (howner : id ∈ g.registry.owners) : g.stateOf id ≠ .ready := by
  obtain ⟨key, hkey⟩ := hlisted.mem_owners_iff.mp howner
  obtain ⟨s, hs, -, hbusy, -⟩ := hg.owners key id hkey
  obtain ⟨a, hcell⟩ := session?_eq_some.mp hs
  rw [stateOf_of_cell hcell]
  exact hbusy

/-- If it waits for the registrar and has a key, it is idle afterwards and has one thing to tell. -/
lemma cutOff_of_owner (hg : Sound g) (hlisted : g.registry.Unambiguous) (hattended : Attended g)
    (hrunning : g.supervisor.running = true) (hid : g.supervisor.session = some id)
    (hbusy : (g.stateOf id).isRegistration = true) (howner : id ∈ g.registry.owners) :
    g.cutOff.group.stateOf id = .ready ∧ ∃ before after,
      g.cutOff.deliveries = before ++ ⟨.supervisor, id, lossFailure⟩ :: after ∧
        ∀ d ∈ before ++ after, d.session ≠ id := by
  obtain ⟨-, -, hidle, hdeliveries⟩ := cutOff_eq hg hlisted
  obtain ⟨s, a, hcell, -, ha⟩ := hattended.cell id hid
  obtain rfl := ha.of_running hrunning
  rw [stateOf_of_cell hcell] at hbusy
  have hfarewell : g.farewell? id = some ⟨.supervisor, id, lossFailure⟩ := by
    simp only [farewell?, hcell, Option.map_some, Session.lossNotice, Session.failureNotice,
      if_pos hbusy]
    rfl
  obtain ⟨earlier, later, howners⟩ := List.append_of_mem howner
  have hnodup := g.registry.nodup_owners
  rw [howners, List.nodup_middle, List.nodup_cons] at hnodup
  refine ⟨?_, earlier.filterMap g.farewell?, later.filterMap g.farewell?, ?_, fun d hd => ?_⟩
  · rw [stateOf, hidle id howner]
    rfl
  · rw [hdeliveries, howners, List.filterMap_append, List.filterMap_cons_some hfarewell]
  · rw [← List.filterMap_append] at hd
    obtain ⟨i, hi, hsome⟩ := List.mem_filterMap.mp hd
    rw [farewell?_session hsome]
    rintro rfl
    exact hnodup.1 hi

/-- If it has no key, it notices nothing. -/
lemma cutOff_of_not_owner (hg : Sound g) (hlisted : g.registry.Unambiguous)
    (hattended : Attended g) (hid : g.supervisor.session = some id)
    (hnot : id ∉ g.registry.owners) :
    g.cutOff.group.stateOf id = g.stateOf id ∧ ∀ d ∈ g.cutOff.deliveries, d.session ≠ id := by
  have hkeyed : ∀ i ∈ g.registry.owners, ∃ key, g.registry.get? key = some i :=
    fun i => hlisted.mem_owners_iff.mp
  obtain ⟨-, -, hcells, hdeliveries⟩ := disconnect_eq (hg.keeps (keeps_offline g))
    g.registry.nodup_owners hkeyed
  obtain ⟨s, a, hcell, -⟩ := hattended.cell id hid
  refine ⟨?_, fun d hd => ?_⟩
  · rw [stateOf_of_cell hcell]
    exact stateOf_of_cell ((hcells id).trans ((if_neg hnot).trans hcell))
  · have hd : d ∈ g.registry.owners.filterMap g.farewell? := hdeliveries ▸ hd
    obtain ⟨i, hi, hsome⟩ := List.mem_filterMap.mp hd
    rw [farewell?_session hsome]
    rintro rfl
    exact hnot hi

/-- A supervisor that does not speak for its session has no failure of its own to note. -/
lemma lastError_loseConnection (h : g.bulletin = []) :
    g.loseConnection.group.supervisor.lastError = g.supervisor.lastError := by
  obtain ⟨timer, hsilenced, -⟩ := g.cutOff.group.silence_eq
  have hcut : { g with connected := false }.disconnect g.registry.owners = g.cutOff := rfl
  unfold Group.loseConnection
  dsimp only
  rw [hcut, hsilenced, supervisor_cutOff]
  unfold bulletin at h
  split at h
  · next id hid =>
    simp only [hid]
    split at h
    · cases h
    · next hnot => rw [if_neg hnot]
  · next hnone => simp only [hnone]

/-! ### What comes of it -/

/-- Every notice tells that the data connection is lost. -/
def TellLoss (ds : List Delivery) : Prop :=
  ∀ d ∈ ds, ∃ registration,
    d.notice = Session.failureNotice registration .dataConnectionLost "data connection lost"

/-- The supervisor passes such notices on and does nothing else. -/
lemma settle_of_tellLoss (hds : TellLoss ds) : (g.settle ds).2 = ds.flatMap g.relay := by
  induction ds generalizing g with
  | nil => rw [settle_nil, List.flatMap_nil]
  | cons d more ih =>
    obtain ⟨registration, hnotice⟩ := hds d List.mem_cons_self
    have hmore : TellLoss more := fun d hd => hds d (List.mem_cons_of_mem _ hd)
    have hasks : g.asksAgain d.notice = false := by
      rw [hnotice]
      cases registration <;> rfl
    rw [settle_cons, handOver_eq, List.flatMap_cons, relay]
    cases htakes : g.takesNotice d with
    | false => exact congrArg (d :: ·) (ih hmore)
    | true =>
      have hfailed : registration = true := by
        rw [takesNotice, hnotice] at htakes
        cases registration with
        | true => rfl
        | false => simp [Session.failureNotice, Notice.isRegistration] at htakes
      subst hfailed
      have hnoted : g.noting d.session d.notice =
          g.noteFailure .dataConnectionLost "data connection lost" := by
        rw [hnotice]
        rfl
      simp only [hasks, hnoted, Bool.false_eq_true, if_false, if_true, List.cons_append,
        List.nil_append, settle_cons]
      exact congrArg (d :: g.tellListener d.session d.notice :: ·) (ih hmore)


omit [Transport σ] in
/-- Whatever a notice comes to is about the same session. -/
lemma filter_relay (g : Group σ) (ds : List Delivery) (id : SessionId) :
    (ds.flatMap g.relay).filter (fun d => d.session = id ∧ d.addressee ≠ .supervisor) =
      ((ds.filter (·.session = id)).flatMap g.relay).filter (·.addressee ≠ .supervisor) := by
  induction ds with
  | nil => rfl
  | cons d more ih =>
    have hsame : ∀ e ∈ g.relay d, e.session = d.session := by
      intro e he
      unfold relay at he
      split at he
      · rcases List.mem_pair.mp he with rfl | rfl <;> rfl
      · rw [List.mem_singleton.mp he]
    rw [List.flatMap_cons, List.filter_append, ih]
    by_cases hd : d.session = id
    · rw [List.filter_cons_of_pos (by simpa using hd), List.flatMap_cons, List.filter_append]
      congr 1
      refine List.filter_congr fun e he => ?_
      simp [hsame e he, hd]
    · rw [List.filter_cons_of_neg (by simpa using hd), List.filter_eq_nil_iff.mpr, List.nil_append]
      intro e he
      simp [hsame e he, hd]

/-- What the listener of the registration hears of the loss. -/
structure Heard (g : Group σ) (settled : List Delivery) : Prop where
  /-- A supervisor that is running lets it know, once. -/
  running : g.supervisor.running = true → ∃ id, g.supervisor.session = some id ∧
    settled.filter (fun d => d.session = id ∧ d.addressee ≠ .supervisor) =
      [⟨.listener g.supervisor.listener, id, lossFailure⟩]
  /-- Otherwise a notice only goes to whom its session reports to, and the session that registers
  has nobody else than the supervisor, who does not care. -/
  idle : g.supervisor.running = false → ∀ d ∈ settled, g.farewell? d.session = some d ∧
    (g.supervisor.session = some d.session →
      d.addressee = .supervisor ∨ d.addressee = .listener .nobody)

omit [Transport σ] in
lemma tellLoss_farewells (g : Group σ) (ids : List SessionId) :
    TellLoss (ids.filterMap g.farewell?) := by
  intro d hd
  obtain ⟨id, -, hsome⟩ := List.mem_filterMap.mp hd
  obtain ⟨cell, -, rfl⟩ := Option.map_eq_some_iff.mp hsome
  exact ⟨cell.session.state.isRegistration, rfl⟩

omit [Transport σ] in
lemma tellLoss_bulletin (g : Group σ) : TellLoss g.bulletin := by
  intro d hd
  unfold bulletin at hd
  split at hd
  · split at hd
    · obtain rfl := List.mem_singleton.mp hd
      exact ⟨true, rfl⟩
    · cases hd
  · cases hd

omit [Transport σ] in
/-- What the session that registers tells the supervisor is passed on. -/
lemma relay_of_session (hrunning : g.supervisor.running = true)
    (hid : g.supervisor.session = some id) :
    (g.relay ⟨.supervisor, id, lossFailure⟩).filter (·.addressee ≠ .supervisor) =
      [⟨.listener g.supervisor.listener, id, lossFailure⟩] := by
  have htakes : g.takesNotice ⟨.supervisor, id, lossFailure⟩ = true := by
    simp [takesNotice, supervises, hrunning, hid, lossFailure, Notice.isRegistration]
  rw [relay, if_pos htakes]
  simp [tellListener]

lemma deliveries_loseConnection (hg : Sound g) (hlisted : g.registry.Unambiguous) :
    g.loseConnection.deliveries = g.registry.owners.filterMap g.farewell? ++ g.bulletin := by
  obtain ⟨-, -, -, hdeliveries⟩ := cutOff_eq hg hlisted
  obtain ⟨timer, error, -, -, heq⟩ := g.loseConnection_eq
  rw [heq, ← hdeliveries]

/-- The session of a supervisor that is running tells the supervisor, or else the supervisor tells
the listener. -/
lemma told_of_running (hg : Sound g) (hlisted : g.registry.Unambiguous) (hcurrent : g.OnlyCurrent)
    (hattended : Attended g) (hrunning : g.supervisor.running = true)
    (hid : g.supervisor.session = some id) :
    g.loseConnection.deliveries.filter (·.session = id) = [⟨.supervisor, id, lossFailure⟩] ∨
      g.loseConnection.deliveries.filter (·.session = id) =
        [⟨.listener g.supervisor.listener, id, lossFailure⟩] := by
  obtain ⟨s, a, hcell, hs, ha⟩ := hattended.cell id hid
  obtain rfl := ha.of_running hrunning
  by_cases howner : id ∈ g.registry.owners
  · obtain ⟨key, hkey⟩ := hlisted.mem_owners_iff.mp howner
    obtain ⟨t, b, hcell', htold⟩ := (flushed_loseConnection hg hlisted hcurrent).told key id hkey
    obtain ⟨rfl, rfl⟩ := Cell.mk.inj (Option.some.inj (hcell'.symm.trans hcell))
    obtain ⟨u, hu, hholds⟩ := hg.owners key id hkey
    obtain rfl := Option.some.inj ((session?_eq_some.mpr ⟨_, hcell⟩).symm.trans hu)
    have hnotice : t.lossNotice = lossFailure := by
      rw [Session.lossNotice, hs.state.resolve_left hholds.busy]
      rfl
    exact .inl (hnotice ▸ htold)
  · have hnone : (g.registry.owners.filterMap g.farewell?).filter (·.session = id) = [] := by
      refine List.filter_eq_nil_iff.mpr fun d hd => ?_
      obtain ⟨i, hi, hsome⟩ := List.mem_filterMap.mp hd
      simp only [farewell?_session hsome, decide_eq_true_eq]
      rintro rfl
      exact howner hi
    have hbulletin : g.bulletin = [g.tellListener id lossFailure] := by
      simp only [bulletin, hid]
      rw [if_pos (by simp [hrunning, howner])]
      rfl
    rw [deliveries_loseConnection hg hlisted, List.filter_append, hnone, hbulletin]
    exact .inr (by simp [tellListener])

lemma heard_loseConnection (hg : Sound g) (hlisted : g.registry.Unambiguous)
    (hcurrent : g.OnlyCurrent) (hattended : Attended g) :
    Heard g (g.loseConnection.group.settle g.loseConnection.deliveries).2 := by
  have hdeliveries := deliveries_loseConnection hg hlisted
  have htells : TellLoss g.loseConnection.deliveries := by
    intro d hd
    rw [hdeliveries] at hd
    rcases List.mem_append.mp hd with hd | hd
    · exact tellLoss_farewells g _ d hd
    · exact tellLoss_bulletin g d hd
  have hrelay : g.loseConnection.group.relay = g.relay := by
    obtain ⟨timer, error, -, -, heq⟩ := g.loseConnection_eq
    rw [heq]
    rfl
  rw [settle_of_tellLoss htells, hrelay]
  constructor
  · intro hrunning
    obtain ⟨id, hid⟩ := hattended.session hrunning
    refine ⟨id, hid, ?_⟩
    rw [filter_relay]
    rcases told_of_running hg hlisted hcurrent hattended hrunning hid with htold | htold
    · rw [htold, List.flatMap_singleton]
      exact relay_of_session hrunning hid
    · rw [htold]
      simp [relay, takesNotice]
  · intro hidle d hd
    have hnobody : g.bulletin = [] := by
      refine List.eq_nil_iff_forall_not_mem.mpr fun d hd => ?_
      cases (g.mem_bulletin hd).1.symm.trans hidle
    have hkept : g.relay = fun d => [d] := by
      funext d
      simp [relay, takesNotice, supervises, hidle]
    rw [hdeliveries, hnobody, List.append_nil, hkept, List.flatMap_singleton'] at hd
    obtain ⟨id, -, hsome⟩ := List.mem_filterMap.mp hd
    rw [farewell?_session hsome]
    refine ⟨hsome, fun hid => ?_⟩
    obtain ⟨s, a, hcell, -, ha⟩ := hattended.cell id hid
    obtain rfl : _ = d := by simpa [farewell?, hcell] using hsome
    exact ha.imp_right (·.2)

end Group

namespace Scene

variable {σ : Type} [Transport σ] {c c' : Scene (Journal σ)}

/-- Until the data connection is back, it cannot be lost again. -/
lemma offline_until_regained
    (h : Relation.ReflTransGen (Interleaves fun _ o => o ≠ .act (.setConnected true)) c c')
    (hc : c.group.connected = false) : c'.group.connected = false := by
  induction h with
  | refl => exact hc
  | tail _ hstep ih =>
    obtain ⟨o, ho, hstep⟩ := hstep
    exact hstep.offline ho ih

/-- Whatever is under way when the data connection of an open group is lost, it ends there: nobody
has a key, whoever had one is idle and has told of the failure once, the network is asked for
nothing, no wake-up is left, and no registration holds. If the session that registers is left to
the supervisor, the listener of the registration is told once by a supervisor that is running, and
not at all by one that is not. Until the data connection is back, losing it again does nothing. -/
theorem connection_loss_flushes_once
    (h : c.Reachable (Interleaves fun _ => Occurrence.Possible)) (hopen : c.group.closed = false)
    (hup : c.group.connected = true) :
    let lost := c.group.setConnected false
    c.group.Flushed lost ∧
    (c.Reachable (Interleaves Occurrence.Undisturbed) →
      c.group.Heard (lost.group.settle lost.deliveries).2) ∧
    ∀ c', Relation.ReflTransGen (Interleaves fun _ o => o ≠ .act (.setConnected true))
        (c.acting (.setConnected false)) c' →
      c'.group.setConnected false = ⟨c'.group, [], ()⟩ := by
  have hlose : c.group.setConnected false = c.group.loseConnection := by
    unfold Group.setConnected
    rw [if_neg (by simp [hopen, hup])]
    rfl
  obtain ⟨hsound, hlisted⟩ := h.sound
  have hcurrent := h.inOrder.current
  dsimp only
  rw [hlose]
  refine ⟨Group.flushed_loseConnection hsound hlisted hcurrent, fun halone => ?_,
    fun c' hrun => ?_⟩
  · obtain ⟨-, hattended⟩ := halone.attended
    exact Group.heard_loseConnection hsound hlisted hcurrent hattended
  · refine c'.group.setConnected_of_offline (offline_until_regained hrun ?_)
    change (c.group.setConnected false).group.connected = false
    obtain ⟨timer, error, -, -, heq⟩ := c.group.loseConnection_eq
    rw [hlose, heq]
    exact congrArg Books.connected c.group.books_cutOff

/-- The supervisor has just started, and its first request is under way. -/
def starting : Scene (Journal Recorder) :=
  let alice := Profile.ofUri ⟨some "alice", "localhost", none⟩ ""
  (Scene.start alice .default (Journal.opened (Recorder.ofHost "localhost"))).acting
    (.startRegistration (.named "user"))

/-- The first request is under way when the connection is lost: it is over, the listener is told
once, and a second loss does nothing. -/
theorem connection_loss_flushes_once_of_request :
    let lost := starting.group.setConnected false
    starting.group.registry.owners = [0] ∧ lost.group.registry.bindings = [] ∧
      lost.group.network = starting.group.network ∧
      (lost.group.settle lost.deliveries).2.filter
          (fun d => d.session = 0 ∧ d.addressee ≠ .supervisor) =
        [⟨.listener (.named "user"), 0, Group.lossFailure⟩] ∧
      (starting.acting (.setConnected false)).group.setConnected false =
        ⟨(starting.acting (.setConnected false)).group, [], ()⟩ := by
  have hreachable : starting.Reachable (Proceeds Occurrence.Undisturbed) := by
    unfold starting
    exact .acting ⟨_, _, _, .refl⟩ rfl ⟨⟨nofun, trivial⟩, trivial⟩
  have halone : starting.Reachable (Interleaves Occurrence.Undisturbed) :=
    hreachable.mono fun _ _ h => h.interleaves
  have hpossible : starting.Reachable (Interleaves fun _ => Occurrence.Possible) :=
    halone.mono fun _ _ h => h.mono fun _ _ ho => ho.1
  obtain ⟨hflushed, hheard, hagain⟩ :=
    connection_loss_flushes_once hpossible (by decide +kernel) (by decide +kernel)
  obtain ⟨id, hid, htold⟩ := (hheard halone).running (by decide +kernel)
  have hsession : starting.group.supervisor.session = some 0 := by decide +kernel
  have hlistener : starting.group.supervisor.listener = .named "user" := by decide +kernel
  obtain rfl : id = 0 := Option.some.inj (hid.symm.trans hsession)
  rw [hlistener] at htold
  exact ⟨by decide +kernel, hflushed.keys, hflushed.network, htold, hagain _ .refl⟩

end Scene

end SipAgent
