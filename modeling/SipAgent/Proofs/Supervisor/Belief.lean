import SipAgent.Proofs.Group.Account
import SipAgent.Proofs.Supervisor.Consistency
import SipAgent.Proofs.Supervisor.Losing
import SipAgent.Proofs.Supervisor.Progress
import SipAgent.Proofs.Supervisor.Schedule

/-!
# What a supervisor believes

Nobody keeps what the listener of the registration has been told. What is left of it are the
beliefs of the supervisor, whether it is registered, until when, and what went wrong last, and the
state of its session. `Group.Believes` says which beliefs go with which last notice. It names the
five ways in which a supervisor that has been started can stand.
-/

namespace SipAgent

/-- An outcome says something about the registration, and not that it is on its way. -/
lemma Notice.isRegistration_of_isOutcome {n : Notice} (h : n.isOutcome = true) :
    n.isRegistration = true ∧ n ≠ .registering := by
  cases n with
  | registrationDone | registrationTimeout | registrationFailed => exact ⟨rfl, nofun⟩
  | _ => cases h

namespace Group

variable {σ : Type} {g g₁ g' : Group σ} {id : SessionId} {n : Notice} {e : SessionEvent}
  {notices ds before after waiting : List Delivery} {d : Delivery} {last : Option Notice}

/-! ### What has been told last -/

/-- What has been told last after one more notice has been handed over. Notices to the supervisor do
not count, nor do those that are handed over while the data connection is down. -/
def remember (g : Group σ) (d : Delivery) (last : Option Notice) : Option Notice :=
  match d.addressee with
  | .listener _ =>
    if g.connected ∧ g.supervisor.session = some d.session ∧ d.notice.isRegistration then
      some d.notice
    else last
  | .supervisor => last

/-- What has been told last after some more notices. -/
def remembered (g : Group σ) (notices : List Delivery) (last : Option Notice) : Option Notice :=
  notices.foldl (fun last d => g.remember d last) last

@[simp] lemma remembered_nil (g : Group σ) (last : Option Notice) : g.remembered [] last = last :=
  rfl

@[simp] lemma remembered_cons (g : Group σ) (d : Delivery) (waiting : List Delivery)
    (last : Option Notice) :
    g.remembered (d :: waiting) last = g.remembered waiting (g.remember d last) := rfl

lemma remember_congr (hconnected : g'.connected = g.connected)
    (hsession : g'.supervisor.session = g.supervisor.session) : g'.remember = g.remember := by
  funext d last
  simp only [remember, hconnected, hsession]

/-- A notice about the registration is remembered. -/
lemma remember_told (hup : g.connected = true) (hid : g.supervisor.session = some id)
    (hn : n.isRegistration = true) (l : Listener) (last : Option Notice) :
    g.remember ⟨.listener l, id, n⟩ last = some n :=
  if_pos ⟨hup, hid, hn⟩

lemma remember_of_ne (h : g.supervisor.session ≠ some d.session) (last : Option Notice) :
    g.remember d last = last := by
  unfold remember
  split
  · exact if_neg fun hcond => h hcond.2.1
  · rfl

lemma remember_of_offline (h : g.connected = false) (d : Delivery) (last : Option Notice) :
    g.remember d last = last := by
  unfold remember
  split
  · exact if_neg fun hcond => by cases h.symm.trans hcond.1
  · rfl

/-- What is said while the data connection is down is not remembered. -/
lemma remembered_of_offline (h : g.connected = false) (ds : List Delivery)
    (last : Option Notice) : g.remembered ds last = last := by
  induction ds with
  | nil => rfl
  | cons d more ih => rw [remembered_cons, remember_of_offline h, ih]

/-- What is said about other sessions is not remembered. -/
lemma remembered_of_silent (h : ∀ d ∈ ds, g.supervisor.session ≠ some d.session)
    (last : Option Notice) : g.remembered ds last = last := by
  induction ds with
  | nil => rfl
  | cons d more ih =>
    rw [remembered_cons, remember_of_ne (h d List.mem_cons_self)]
    exact ih fun d hd => h d (List.mem_cons_of_mem _ hd)

/-- What a listener is told about the registration is remembered, whatever is said about other
sessions afterwards. -/
lemma remembered_told (hup : g.connected = true) (hid : g.supervisor.session = some id)
    (hn : n.isRegistration = true) (hds : ∀ d ∈ ds, g.supervisor.session ≠ some d.session)
    (l : Listener) (last : Option Notice) :
    g.remembered (⟨.listener l, id, n⟩ :: ds) last = some n := by
  rw [remembered_cons, remember_told hup hid hn, remembered_of_silent hds]

/-! ### The session of the supervisor -/

lemma AtRest.congr (h : g.AtRest) (hsession : g'.supervisor.session = g.supervisor.session)
    (hstate : ∀ id, g.supervisor.session = some id → g'.stateOf id = g.stateOf id) :
    g'.AtRest := by
  obtain ⟨id, hid, hready⟩ := h
  exact ⟨id, hsession.trans hid, (hstate id hid).trans hready⟩

lemma Asking.congr (h : g.Asking) (hsession : g'.supervisor.session = g.supervisor.session)
    (hstate : ∀ id, g.supervisor.session = some id → g'.stateOf id = g.stateOf id) :
    g'.Asking := by
  obtain ⟨id, hid, hbusy⟩ := h
  exact ⟨id, hsession.trans hid, (congrArg _ (hstate id hid)).trans hbusy⟩

/-- Whoever has a key is not idle. -/
lemma not_atRest_of_owner (hg : Sound g) (hlisted : g.registry.Unambiguous)
    (hid : g.supervisor.session = some id) (howner : id ∈ g.registry.owners) : ¬ g.AtRest := by
  intro hrest
  exact stateOf_ne_ready_of_owner hg hlisted howner (hrest.stateOf_eq hid)

/-- The session of a supervisor that starts is idle or on its way. -/
lemma Attended.engaging_state (hattended : Attended g) (l : Listener) :
    (g.engaging l).2.AtRest ∨ (g.engaging l).2.Asking := by
  have hid : (g.engaging l).2.supervisor.session = some (g.engaging l).1 :=
    congrArg (·.supervisor.session) (g.books_engaging l)
  obtain ⟨s, a, hcell, hs, -⟩ := (hattended.engaging l).cell _ hid
  refine hs.state.imp (fun hready => ⟨_, hid, ?_⟩) fun hbusy => ⟨_, hid, ?_⟩
  · rw [stateOf_of_cell hcell]
    exact hready
  · rw [stateOf_of_cell hcell]
    exact hbusy

/-- It is idle if it was so before. -/
lemma AtRest.engaging (h : g.AtRest) (l : Listener) : (g.engaging l).2.AtRest := by
  obtain ⟨id, hid, hready⟩ := h
  have hsame : (g.engaging l).1 = id := by
    simp only [Group.engaging, registrationSession, started, hid]
  have hsession : (g.engaging l).2.supervisor.session = some (g.engaging l).1 :=
    congrArg (·.supervisor.session) (g.books_engaging l)
  refine ⟨id, hsame ▸ hsession, ?_⟩
  rw [(keeps_engaging g l).stateOf_eq]
  exact hready

/-! ### The same beliefs -/

/-- The supervisor believes the same of the same session, now or later. -/
structure SameBeliefs (g g' : Group σ) : Prop where
  running : g'.supervisor.running = g.supervisor.running
  registered : g'.supervisor.registered = g.supervisor.registered
  expiresAt : g'.supervisor.expiresAt = g.supervisor.expiresAt
  lastError : g'.supervisor.lastError = g.supervisor.lastError
  session : g'.supervisor.session = g.supervisor.session
  connected : g'.connected = g.connected
  state : ∀ id, g.supervisor.session = some id → g'.stateOf id = g.stateOf id
  now : g.now ≤ g'.now

namespace SameBeliefs

lemma trans (h : SameBeliefs g g₁) (h' : SameBeliefs g₁ g') : SameBeliefs g g' where
  running := h'.running.trans h.running
  registered := h'.registered.trans h.registered
  expiresAt := h'.expiresAt.trans h.expiresAt
  lastError := h'.lastError.trans h.lastError
  session := h'.session.trans h.session
  connected := h'.connected.trans h.connected
  state id hid := (h'.state id (h.session.trans hid)).trans (h.state id hid)
  now := Nat.le_trans h.now h'.now

/-- Neither the timer nor the network matters, nor who listens and when the next retry comes. -/
lemma besides (g : Group σ) (timer : Timer WakeupCall) (network : σ) (backoff : Backoff)
    (keepalive : Option ℕ) (listener : Listener) (keepalives : ℕ) :
    SameBeliefs g
      { g with
        timer := timer, network := network, keepalives := keepalives
        supervisor :=
          { g.supervisor with
            backoff := backoff, keepalive := keepalive, listener := listener } } :=
  ⟨rfl, rfl, rfl, rfl, rfl, rfl, fun _ _ => rfl, Nat.le_refl _⟩

lemma refl (g : Group σ) : SameBeliefs g g :=
  .besides g _ _ _ _ _ _

lemma scheduleRefresh (g : Group σ) (seconds : ℕ) : SameBeliefs g (g.scheduleRefresh seconds) := by
  obtain ⟨timer, heq, -⟩ := g.scheduleRefresh_eq seconds
  rw [heq]
  exact .besides g _ _ _ _ _ _

lemma scheduleRetry (g : Group σ) : SameBeliefs g g.scheduleRetry := by
  have hadvanced : SameBeliefs g g.advanced := .besides g _ _ _ _ _ _
  rcases g.scheduleRetry_eq with ⟨-, -, heq⟩ | ⟨-, heq⟩
  · rw [heq]
    exact hadvanced.trans (.scheduleRefresh _ _)
  · rw [heq]
    exact .refl g

lemma startKeepalive [Transport σ] (g : Group σ) : SameBeliefs g g.startKeepalive := by
  rcases g.startKeepalive_eq with heq | ⟨-, timer, heq, -⟩
  · rw [heq]
    exact .refl g
  · rw [heq]
    exact .besides g _ _ _ _ _ _

lemma keepAlive [Transport σ] (g : Group σ) (process : ℕ) :
    SameBeliefs g (g.keepAlive process) := by
  rcases g.keepAlive_eq process with ⟨-, heq⟩ | ⟨-, timer, network, heq, -⟩
  · rw [heq]
    exact .refl g
  · rw [heq]
    exact .besides g _ _ _ _ _ _

lemma aside (hattended : Attended g) (h : Aside g g' ds) (hnow : g.now ≤ g'.now) :
    SameBeliefs g g' := by
  have hsupervisor : g'.supervisor = g.supervisor := congrArg Books.supervisor h.books
  refine ⟨by rw [hsupervisor], by rw [hsupervisor], by rw [hsupervisor], by rw [hsupervisor],
    h.spares.session, congrArg Books.connected h.books, fun id hid => ?_, hnow⟩
  obtain ⟨s, a, hcell, -⟩ := hattended.cell id hid
  rw [stateOf_of_cell hcell, stateOf_of_cell (h.spares.cells id _ hid hcell)]

lemma atRest (h : SameBeliefs g g') (hrest : g.AtRest) : g'.AtRest :=
  hrest.congr h.session h.state

lemma asking (h : SameBeliefs g g') (hasking : g.Asking) : g'.Asking :=
  hasking.congr h.session h.state

lemma mail_eq (h : SameBeliefs g g') (notices : List Delivery) : g'.mail notices = g.mail notices :=
  mail_congr h.session notices

lemma remembered_eq (h : SameBeliefs g g') (notices : List Delivery) (last : Option Notice) :
    g'.remembered notices last = g.remembered notices last := by
  unfold remembered
  rw [remember_congr h.connected h.session]

end SameBeliefs

/-! ### The current status -/

lemma status_of_registered (hup : g.connected = true) (hrunning : g.supervisor.running = true)
    (hregistered : g.supervisor.registered = true) {moment : ℕ}
    (hmoment : g.supervisor.expiresAt = some moment) (id : SessionId) :
    g.registrationStatus id =
      .registrationDone (min (g.secondsUntil moment) 0x7fffffff : ℕ) := by
  simp [registrationStatus, hup, hrunning, hregistered, hmoment]

/-- A failure is taken for a timeout when it has the code of one. -/
lemma status_of_failed (hup : g.connected = true) (hregistered : g.supervisor.registered = false)
    {code : ErrorCode} {message : String} (herror : g.supervisor.lastError = some (code, message))
    (id : SessionId) : g.registrationStatus id =
      if code = .timeOut then .registrationTimeout else .registrationFailed code message := by
  cases code <;> simp [registrationStatus, hup, hregistered, herror]

lemma status_of_asking (hup : g.connected = true) (hrunning : g.supervisor.running = true)
    (hregistered : g.supervisor.registered = false) (herror : g.supervisor.lastError = none)
    (hbusy : (g.stateOf id).isRegistration = true) : g.registrationStatus id = .registering := by
  simp [registrationStatus, hup, hrunning, hregistered, herror, hbusy]

/-! ### What the supervisor believes -/

/-- The session can be asked, or has been asked, and then listeners know. -/
def Poised (g : Group σ) (last : Option Notice) : Prop :=
  g.AtRest ∨
    g.Asking ∧ g.supervisor.registered = false ∧ ∀ n, last = some n → n = .registering

/-- What a supervisor that has been started believes agrees with what listeners have been told
last. -/
inductive Believes (g : Group σ) (last : Option Notice) : Prop
  /-- A registration holds. -/
  | holds {moment : ℕ} (hrunning : g.supervisor.running = true) (hup : g.connected = true)
      (hrest : g.AtRest) (hregistered : g.supervisor.registered = true)
      (hmoment : g.supervisor.expiresAt = some moment) (herror : g.supervisor.lastError = none)
      (hlast : ∀ n, last = some n → ∃ duration : Int, n = .registrationDone duration ∧
        (min (g.secondsUntil moment) 0x7fffffff : ℕ) ≤ duration)
  /-- The last attempt to register has failed, and the supervisor may have given up. -/
  | failed {code : ErrorCode} {message : String}
      (hup : g.supervisor.running = true → g.connected = true) (hrest : g.AtRest)
      (hregistered : g.supervisor.registered = false)
      (herror : g.supervisor.lastError = some (code, message))
      (hlast : ∀ n, last = some n →
        n = .registrationFailed code message ∨ code = .timeOut ∧ n = .registrationTimeout)
  /-- The registrar has been asked, and has yet to answer. -/
  | asking (hrunning : g.supervisor.running = true) (hup : g.connected = true)
      (hasking : g.Asking) (hregistered : g.supervisor.registered = false)
      (herror : g.supervisor.lastError = none) (hlast : ∀ n, last = some n → n = .registering)
  /-- The data connection is down. -/
  | offline (hrunning : g.supervisor.running = true) (hdown : g.connected = false)
      (hregistered : g.supervisor.registered = false) (hpoised : g.Poised last)

namespace Believes

lemma congr (h : Believes g last) (hg' : SameBeliefs g g') : Believes g' last := by
  cases h with
  | @holds moment hrunning hup hrest hregistered hmoment herror hlast =>
    refine .holds (hg'.running.trans hrunning) (hg'.connected.trans hup) (hg'.atRest hrest)
      (hg'.registered.trans hregistered) (hg'.expiresAt.trans hmoment)
      (hg'.lastError.trans herror) fun n hn => ?_
    obtain ⟨duration, hduration, hle⟩ := hlast n hn
    have hlater : g'.secondsUntil moment ≤ g.secondsUntil moment :=
      Nat.div_le_div_right (Nat.sub_le_sub_left hg'.now _)
    exact ⟨duration, hduration, by omega⟩
  | failed hup hrest hregistered herror hlast =>
    refine .failed (fun hrunning => ?_) (hg'.atRest hrest) (hg'.registered.trans hregistered)
      (hg'.lastError.trans herror) hlast
    exact hg'.connected.trans (hup (hg'.running.symm.trans hrunning))
  | asking hrunning hup hasking hregistered herror hlast =>
    exact .asking (hg'.running.trans hrunning) (hg'.connected.trans hup) (hg'.asking hasking)
      (hg'.registered.trans hregistered) (hg'.lastError.trans herror) hlast
  | offline hrunning hdown hregistered hpoised =>
    refine .offline (hg'.running.trans hrunning) (hg'.connected.trans hdown)
      (hg'.registered.trans hregistered) (hpoised.imp hg'.atRest fun ⟨hasking, hstate⟩ => ?_)
    exact ⟨hg'.asking hasking, hg'.registered.trans hstate.1, hstate.2⟩

lemma poised (h : Believes g last) : g.Poised last := by
  cases h with
  | holds _ _ hrest => exact .inl hrest
  | failed _ hrest => exact .inl hrest
  | asking _ _ hasking hregistered _ hlast => exact .inr ⟨hasking, hregistered, hlast⟩
  | offline _ _ _ hpoised => exact hpoised

/-- A supervisor that has given up is not registered, and has an idle session. -/
lemma resigned (h : Believes g last) (hstopped : g.supervisor.running = false) :
    g.supervisor.registered = false ∧ g.AtRest := by
  cases h with
  | failed _ hrest hregistered => exact ⟨hregistered, hrest⟩
  | holds hruns | asking hruns | offline hruns => cases hstopped.symm.trans hruns

/-- It does not mind the data connection. -/
lemma up_or_down (h : Believes g last) (hstopped : g.supervisor.running = false)
    (hrunning : g'.supervisor.running = false) (hregistered : g'.supervisor.registered = false)
    (herror : g'.supervisor.lastError = g.supervisor.lastError)
    (hsession : g'.supervisor.session = g.supervisor.session)
    (hstate : ∀ id, g.supervisor.session = some id → g'.stateOf id = g.stateOf id) :
    Believes g' last := by
  cases h with
  | failed _ hrest _ herror' hlast =>
    refine .failed (fun hruns => ?_) (hrest.congr hsession hstate) hregistered
      (herror.trans herror') hlast
    cases hrunning.symm.trans hruns
  | holds hruns | asking hruns | offline hruns => cases hstopped.symm.trans hruns

lemma setListener (h : Believes g last) (l : Listener) :
    Believes { g with supervisor := { g.supervisor with listener := l } } last :=
  h.congr (.besides g _ _ _ _ _ _)

/-- The status that another listener is told counts as told. -/
lemma replayed (h : Believes g last) (hid : g.supervisor.session = some id) (l : Listener) :
    Believes g (g.remember ⟨.listener l, id, g.registrationStatus id⟩ last) := by
  cases hconnected : g.connected with
  | false =>
    rw [remember_of_offline hconnected]
    exact h
  | true =>
  cases h with
  | @holds moment hrunning hup hrest hregistered hmoment herror hlast =>
    refine .holds hrunning hup hrest hregistered hmoment herror fun n hn => ?_
    rw [status_of_registered hup hrunning hregistered hmoment, remember_told hup hid rfl] at hn
    exact ⟨_, (Option.some.inj hn).symm, Int.le_refl _⟩
  | @failed code message hup hrest hregistered herror hlast =>
    refine .failed hup hrest hregistered herror fun n hn => ?_
    rw [status_of_failed hconnected hregistered herror] at hn
    split at hn
    · next hcode =>
      rw [remember_told hconnected hid rfl] at hn
      exact .inr ⟨hcode, (Option.some.inj hn).symm⟩
    · rw [remember_told hconnected hid rfl] at hn
      exact .inl (Option.some.inj hn).symm
  | asking hrunning hup hasking hregistered herror hlast =>
    refine .asking hrunning hup hasking hregistered herror fun n hn => ?_
    rw [status_of_asking hup hrunning hregistered herror (hasking.busy hid),
      remember_told hup hid rfl] at hn
    exact (Option.some.inj hn).symm
  | offline _ hdown => cases hdown.symm.trans hconnected

/-- A failure is noted as it has been told, but for a timeout, which is noted as a failure. -/
lemma noted (hup : g.connected = true) (hrest : g.AtRest) {code : ErrorCode} {message : String}
    (hreport : n = .registrationFailed code message ∨ code = .timeOut ∧ n = .registrationTimeout) :
    Believes (g.noteFailure code message) (some n) :=
  .failed (fun _ => hup) hrest rfl rfl fun _ htold => Option.some.inj htold ▸ hreport

/-- A supervisor that has noted a failure may give up. -/
lemma pause (h : Believes g last) (hup : g.connected = true) {failure : ErrorCode × String}
    (herror : g.supervisor.lastError = some failure) : Believes g.pause last := by
  obtain ⟨timer, heq, -⟩ := g.pause_eq
  rw [heq]
  cases h with
  | failed _ hrest _ herror' hlast => exact .failed nofun hrest rfl herror' hlast
  | offline _ hdown => cases hdown.symm.trans hup
  | holds _ _ _ _ _ hnone | asking _ _ _ _ hnone => cases hnone.symm.trans herror

lemma failing (hup : g.connected = true) (hrest : g.AtRest) (code : ErrorCode)
    (message : String) : Believes (g.onRegistrationFailed id code message).group
      (some (.registrationFailed code message)) := by
  have hnoted : Believes (g.noteFailure code message) (some (.registrationFailed code message)) :=
    noted hup hrest (.inl rfl)
  cases code with
  | invalidCredentials | serverUnreachable => exact hnoted.pause hup rfl
  | dataConnectionLost => exact hnoted
  | _ => exact hnoted.congr (.scheduleRetry _)

lemma granted [Transport σ] (hup : g.connected = true) (hrunning : g.supervisor.running = true)
    (hrest : g.AtRest) {duration : Int} (hpos : 0 < duration) :
    Believes (g.onRegistrationDone id duration).group (some (.registrationDone duration)) := by
  have hleft : (g.accepted duration).secondsUntil (g.now + duration.toNat * 1000) =
      duration.toNat := by
    show (g.now + duration.toNat * 1000 - g.now) / 1000 = duration.toNat
    rw [Nat.add_sub_cancel_left, Nat.mul_div_cancel _ (by decide)]
  have haccepted : Believes (g.accepted duration) (some (.registrationDone duration)) :=
    .holds hrunning hup hrest rfl rfl rfl fun n hn =>
      ⟨duration, (Option.some.inj hn).symm, by rw [hleft]; omega⟩
  rw [onRegistrationDone_of_pos g id hpos]
  exact (haccepted.congr (.scheduleRefresh _ _)).congr (.startKeepalive _)

end Believes

end Group

end SipAgent
