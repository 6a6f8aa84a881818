import SipAgent.Proofs.Group.Disconnecting
import SipAgent.Proofs.Supervisor.Engaged

/-!
# Nothing is under way while the data connection is down

The session of the supervisor asks only while the data connection is up, and loses its key together
with the connection. While the connection is down no signal can reach it, so it has nothing to tell.
-/

namespace SipAgent

namespace Group

variable {σ : Type} {g g' : Group σ} {id : SessionId}
  {ds : List Delivery}

/-- The session of the supervisor has a key only while the data connection is up. -/
def KeyedOnline (g : Group σ) : Prop :=
  ∀ id key, g.supervisor.session = some id → g.registry.get? key = some id → g.connected = true

namespace KeyedOnline

lemma of_connected (h : g.connected = true) : KeyedOnline g :=
  fun _ _ _ _ => h

lemma spares (h : KeyedOnline g) (hg' : Spares g g')
    (hconnected : g.connected = true → g'.connected = true) : KeyedOnline g' := by
  intro id key hid hkey
  rw [hg'.session] at hid
  exact hconnected (h id key hid (hg'.owned id key hid hkey))

lemma paperwork (h : KeyedOnline g) (hg' : Paperwork g g') : KeyedOnline g' :=
  h.spares hg'.spares hg'.connected.trans

lemma setAddressee (h : KeyedOnline g) (id : SessionId) (a : Addressee) :
    KeyedOnline (g.setAddressee id a) := by
  intro i key hi hkey
  rw [supervisor_setAddressee] at hi
  rw [(rests_setAddressee g id a).toKeeps.get?] at hkey
  exact (congrArg Books.connected (books_setAddressee g id a)).trans (h i key hi hkey)

/-- A session that is new has no key. -/
lemma engaging (hg : Sound g) (h : KeyedOnline g) (l : Listener) :
    KeyedOnline (g.engaging l).2 := by
  have hbooks := g.books_engaging l
  intro id key hid hkey
  rw [(keeps_engaging g l).get?] at hkey
  refine (congrArg Books.connected hbooks).trans ?_
  obtain rfl := Option.some.inj (hid.symm.trans (congrArg (·.supervisor.session) hbooks))
  cases hsession : g.supervisor.session with
  | some id =>
    have hsame : (g.engaging l).1 = id := by
      simp only [Group.engaging, registrationSession, started, hsession]
    rw [hsame] at hkey
    exact h id key hsession hkey
  | none =>
    have hnew : (g.engaging l).1 = g.cells.length := by
      simp only [Group.engaging, registrationSession, started, hsession, addSession]
    rw [hnew] at hkey
    obtain ⟨s, hs, -⟩ := hg.owners key _ hkey
    rw [session?_length] at hs
    cases hs

variable [Transport σ]

lemma startRegistration (hg : Sound g) (h : KeyedOnline g) (l : Listener) :
    KeyedOnline (g.startRegistration l).group := by
  cases hopen : g.closed with
  | true =>
    rw [startRegistration_of_closed g l hopen]
    exact h
  | false =>
  cases hidle : g.supervisor.running with
  | true =>
    rw [startRegistration_of_running g l hopen hidle]
    exact h.paperwork (.revise rfl fun hs => hs)
  | false =>
  rw [startRegistration_eq g l hopen hidle]
  dsimp only
  split
  · next hup =>
    have hasked := (connected_dispatch (g.engaging l).2 (g.engaging l).1 .deregister).trans hup
    split
    · exact of_connected hasked
    · exact (of_connected hasked).paperwork (.scheduleRetry _)
  · exact h.engaging hg l

lemma stopRegistration (h : KeyedOnline g) : KeyedOnline g.stopRegistration.group := by
  have hretired : KeyedOnline g.retired := h.paperwork (.retired g)
  rcases g.stopRegistration_eq with ⟨-, heq⟩ | heq | ⟨id, -, heq | ⟨hup, heq⟩⟩
  · rw [heq]
    exact h
  · rw [heq]
    exact hretired
  · rw [heq]
    exact hretired.setAddressee id _
  · rw [heq]
    refine of_connected ?_
    rw [connected_dispatch, connected_dismissed]
    exact hup

/-- Once everybody with a key has been told of the loss, the session of the supervisor has none. -/
lemma unkeyed_of_disconnect (hg : Sound g) (hattended : Attended g)
    (hid : g.supervisor.session = some id) {ids : List SessionId}
    (hids : ∀ key, g.registry.get? key = some id → id ∈ ids) (key : CallId) :
    (g.disconnect ids).group.registry.get? key ≠ some id := by
  -- at every moment the session is still on the list, or has no key any more
  induction ids generalizing g with
  | nil =>
    intro hkey
    cases hids key hkey
  | cons i more ih =>
    apply ih (hg.dispatch i _) (hattended.connectionLost hg i)
    · rw [supervisor_dispatch]
      exact hid
    intro key' hkey'
    obtain ⟨s, a, hcell, hs, -⟩ := hattended.cell id hid
    by_cases hi : i = id
    · subst hi
      obtain ⟨s', told, hexchange, -, hcell', -⟩ :=
        dispatch_exchange (e := .connectionLost) hg hcell hs nofun
      have hready := hexchange.of_connectionLost.1
      have hs' := session?_eq_some.mpr ⟨a, hcell'⟩
      exact absurd hkey' ((hg.dispatch i _).not_owner_of_ready hs' hready key')
    · have howner := hids key' (dispatch_owner_of_ne hg hcell (Ne.symm hi) hkey')
      exact (List.mem_cons.mp howner).resolve_left (Ne.symm hi)

lemma loseConnection (hg : Sound g) (hattended : Attended g) :
    KeyedOnline g.loseConnection.group := by
  obtain ⟨timer, error, -, -, heq⟩ := g.loseConnection_eq
  rw [heq]
  intro id key hid hkey
  exact absurd hkey (unkeyed_of_disconnect (hg.keeps (keeps_offline g)) hattended.offline hid
    (fun _ => Registry.mem_owners) key)

lemma onRegistrationDone (h : KeyedOnline g) (id : SessionId) (duration : Int) :
    KeyedOnline (g.onRegistrationDone id duration).group := by
  by_cases hpos : 0 < duration
  · rw [onRegistrationDone_of_pos g id hpos]
    exact h.paperwork (((Paperwork.accepted g _).trans (.scheduleRefresh _ _)).trans
      (.startKeepalive _))
  · rw [onRegistrationDone_of_not_pos g id hpos]
    dsimp only
    split
    · next hup => exact of_connected ((connected_dispatch _ _ _).trans hup)
    · exact h.paperwork (.ended g)

lemma handOver (h : KeyedOnline g) (d : Delivery) : KeyedOnline (g.handOver d).group := by
  unfold Group.handOver
  split
  · exact h
  split
  · split
    · exact h.paperwork (.revise rfl fun hs => hs)
    · exact h.onRegistrationDone _ _
    · exact h.paperwork (.onRegistrationFailed _ _ _ _)
    · exact h.paperwork ((Paperwork.noteFailure _ _ _).trans (.scheduleRetry _))
    · exact h
  · exact h

lemma wake (h : KeyedOnline g) (call : WakeupCall) : KeyedOnline (g.wake call).group := by
  cases call with
  | keepalive process => exact h.paperwork (.keepAlive g process)
  | refresh =>
    simp only [Group.wake]
    rcases g.refresh_eq with ⟨-, heq⟩ | ⟨-, hup, id, -, heq⟩
    · rw [heq]
      exact h
    · rw [heq]
      exact of_connected ((connected_dispatch _ _ _).trans hup)

lemma outward (h : KeyedOnline g) (hg' : Outward g g' ds) : KeyedOnline g' := by
  cases hg' with
  | aside hbooks hspares => exact h.spares hspares (congrArg Books.connected hbooks).trans
  | hears hid hkey => exact of_connected ((connected_dispatch _ _ _).trans (h _ _ hid hkey))

lemma act (hg : Sound g) (hattended : Attended g) (h : KeyedOnline g) {a : Action}
    (ha : (Occurrence.act a).Undisturbed g) : KeyedOnline (g.act a).group := by
  cases hown : a.isSupervision with
  | false => exact h.outward (outward_act hg hattended ha hown)
  | true =>
    cases a with
    | startRegistration l => exact h.startRegistration hg l
    | stopRegistration => exact h.stopRegistration
    | setRegistrationListener l =>
      simp only [Group.act, answering, setRegistrationListener]
      split
      · exact h
      · split <;> exact h.paperwork (.revise rfl fun hs => hs)
    | setConnected up =>
      simp only [Group.act, answering, setConnected]
      split_ifs
      · exact h
      · unfold Group.regainConnection
        dsimp only
        split
        · split
          · exact of_connected rfl
          · exact of_connected (connected_dispatch _ _ _)
        · exact of_connected rfl
      · exact loseConnection hg hattended
    | stopTimer => exact h
    | close =>
      simp only [Group.act, answering, close]
      split
      · exact h
      · exact fun _ _ _ hkey => by cases hkey
    | _ => cases hown

end KeyedOnline

end Group

namespace Scene

variable {σ : Type} [Transport σ] {c c' : Scene σ} {o : Occurrence σ}

lemma Step.keyedOnline (h : c.Step o c') (ho : o.Undisturbed c.group) (hsound : c.group.Sound)
    (hattended : c.group.Attended) (hc : c.group.KeyedOnline) : c'.group.KeyedOnline := by
  cases h with
  | act a => exact hc.act hsound hattended ho
  | handOver => exact hc.handOver _
  | ring => exact hc
  | wake => exact hc.wake _
  | drift => exact hc

lemma Reachable.keyedOnline (h : c.Reachable (Interleaves Occurrence.Undisturbed)) :
    c.group.KeyedOnline := by
  refine h.invariant (P := fun c => c.group.KeyedOnline) (fun _ _ _ => nofun) ?_
  rintro c c' hreachable ⟨o, ho, hstep⟩ hc
  obtain ⟨hsound, hattended⟩ := hreachable.attended
  exact hstep.keyedOnline ho hsound hattended hc

end Scene

end SipAgent
