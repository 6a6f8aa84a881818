import SipAgent.Proofs.Group.Debts
import SipAgent.Proofs.Supervisor.Consistency
import SipAgent.Proofs.Supervisor.Schedule

/-!
# The last grant

Whether a registration holds is a flag, and nobody compares it with the clock. It is truthful only
through the refresh that was scheduled when the registration was granted: `Group.Leased` says how
the flag, the refresh and the last grant hang together.
-/

namespace SipAgent

/-- A supervisor that is told this no longer takes itself for registered. -/
def Notice.unregisters : Notice → Bool
  | .registering | .registrationFailed .. | .registrationTimeout => true
  | .registrationDone duration => duration ≤ 0
  | _ => false

/-! ### The last grant -/

/-- A registration that a registrar has granted. -/
structure Grant where
  /-- The moment at which the answer of the registrar came in. -/
  moment : ℕ
  /-- The seconds for which the registration is granted. -/
  seconds : ℕ
  /-- No refresh has taken effect since, the supervisor has not been stopped, and the data
  connection has not been taken down. -/
  stands : Bool
  deriving DecidableEq, Repr

namespace Grant

/-- Something has been done about the registration. -/
def past (t : Grant) : Grant :=
  { t with stands := false }

/-- The seconds that the supervisor is told. -/
def told (t : Grant) : ℕ :=
  min t.seconds 0x7fffffff

/-- The moment at which the refresh is due. -/
def due (t : Grant) (settings : RegistrationSettings) : ℕ :=
  t.moment + settings.refreshDelay t.told * 1000

/-- A registration that holds for longer than the margin is refreshed before its end. -/
lemma due_lt {t : Grant} {settings : RegistrationSettings} (hmargin : 1 ≤ settings.minExpiry.toNat)
    (h : settings.minExpiry.toNat < t.seconds) :
    t.due settings < t.moment + t.seconds * 1000 := by
  have hdelay : settings.refreshDelay t.told < t.seconds := by
    unfold RegistrationSettings.refreshDelay told
    omega
  unfold due
  omega

/-- A registration that holds for no longer than the margin is refreshed when the margin is over. -/
lemma due_of_short {t : Grant} {settings : RegistrationSettings}
    (h : t.seconds ≤ settings.minExpiry.toNat) :
    t.due settings = t.moment + settings.minExpiry.toNat * 1000 := by
  have hdelay : settings.refreshDelay t.told = settings.minExpiry.toNat := by
    unfold RegistrationSettings.refreshDelay told
    omega
  rw [due, hdelay]

end Grant

namespace Group

/-- A registration holds only for a supervisor that is running in an open group while the data
connection is up. -/
lemma InOrder.not_registered {σ : Type} {g : Group σ} {wakeups : List WakeupCall}
    (h : g.InOrder True wakeups)
    (hcannot : g.supervisor.running = false ∨ g.closed = true ∨ g.connected = false) :
    g.supervisor.registered = false := by
  by_contra hregistered
  have hrunning := h.registered (by simpa using hregistered)
  rcases hcannot with hstopped | hclosed | hdown
  · cases hstopped.symm.trans hrunning
  · cases (h.closed hclosed).symm.trans hrunning
  · exact hregistered (h.offline trivial hdown).1

/-- So a supervisor that takes itself for registered can refresh its registration. -/
lemma InOrder.not_registered_of_idle_refresh {σ : Type} {g : Group σ} {wakeups : List WakeupCall}
    (h : g.InOrder True wakeups) (hatRest : g.supervisor.registered = true → g.AtRest)
    (hcannot : g.closed = true ∨ g.supervisor.running = false ∨ g.connected = false ∨
      g.supervisor.session = none) : g.supervisor.registered = false := by
  rcases hcannot with hclosed | hstopped | hdown | hnone
  · exact h.not_registered (.inr (.inl hclosed))
  · exact h.not_registered (.inl hstopped)
  · exact h.not_registered (.inr (.inr hdown))
  · by_contra hregistered
    obtain ⟨id, hid, -⟩ := hatRest (by simpa using hregistered)
    cases hnone.symm.trans hid

variable {σ : Type} {g g' : Group σ} {id : SessionId} {t : Grant} {x : Option Grant}
  {notices ds waiting : List Delivery} {wakeups : List WakeupCall} {d : Delivery}

/-- The last grant after an occurrence. -/
def lease (g : Group σ) : Occurrence σ → Option Grant → Option Grant
  | .act (.signal (.response r)), x =>
    if g.grants r then some ⟨g.now, r.negotiatedExpiry.toNat, true⟩ else x
  | .act .stopRegistration, x | .act .close, x | .act (.setConnected false), x
  | .wake .refresh, x => x.map Grant.past
  | _, x => x

/-! ### What a grant that stands stands for -/

/-- The supervisor has yet to be told of a grant, or it takes itself for registered and its refresh
is on the way. -/
inductive Stands (g : Group σ) (t : Grant) (notices : List Delivery) (wakeups : List WakeupCall) :
    Prop where
  | coming (hrunning : g.supervisor.running = true) (hpos : 0 < t.told)
      (hmail : g.mail notices = [.registrationDone t.told]) (hnow : g.now = t.moment)
  | holding (hregistered : g.supervisor.registered = true) (hmail : g.mail notices = [])
      (hnow : g.now ≤ t.due g.settings)
      (hdue : t.due g.settings ∈ g.timer.dues .refresh ∨ .refresh ∈ wakeups)

/-- A supervisor that takes itself for registered has a grant whose refresh is not overdue, and that
stands unless the supervisor is about to be told otherwise. -/
structure Leased (g : Group σ) (notices : List Delivery) (wakeups : List WakeupCall)
    (x : Option Grant) : Prop where
  registered : g.supervisor.registered = true → ∃ t, x = some t ∧ g.now ≤ t.due g.settings ∧
    (t.stands = true ∨ ∃ n ∈ g.mail notices, n.unregisters = true)
  stands : ∀ t, x = some t → t.stands = true → g.Stands t notices wakeups
  granted : g.supervisor.running = true → ∀ duration : Int, 0 < duration →
    .registrationDone duration ∈ g.mail notices → ∃ t, x = some t ∧ t.stands = true

/-- What is done about a grant is done on time. -/
lemma Stands.now_le (h : g.Stands t notices wakeups) : g.now ≤ t.due g.settings := by
  cases h with
  | coming _ _ _ hnow =>
    rw [hnow]
    exact Nat.le_add_right _ _
  | holding _ _ hnow => exact hnow

lemma Stands.registered (h : g.Stands t [] wakeups) : g.supervisor.registered = true := by
  cases h with
  | coming _ _ hmail => cases hmail
  | holding hregistered => exact hregistered

lemma registered_scheduleRetry (g : Group σ) :
    g.scheduleRetry.supervisor.registered = g.supervisor.registered := by
  rcases g.scheduleRetry_eq with ⟨-, -, heq⟩ | ⟨-, heq⟩
  · obtain ⟨timer, hrefresh, -⟩ := g.advanced.scheduleRefresh_eq g.supervisor.backoff.delay.toNat
    rw [heq, hrefresh]
    rfl
  · rw [heq]

/-- A supervisor that is told this no longer takes itself for registered. -/
lemma registered_noting [Transport σ] (g : Group σ) (id : SessionId) {n : Notice}
    (hn : n.unregisters = true) : (g.noting id n).supervisor.registered = false := by
  have hpaused : ∀ g : Group σ, g.pause.supervisor.registered = false := by
    intro g
    obtain ⟨timer, heq, -⟩ := g.pause_eq
    rw [heq]
  cases n with
  | registering => rfl
  | registrationDone duration =>
    have hnot : ¬ 0 < duration := by simpa [Notice.unregisters] using hn
    simp only [noting, if_neg hnot]
    rfl
  | registrationFailed code message =>
    cases code with
    | invalidCredentials | serverUnreachable => exact hpaused _
    | dataConnectionLost => rfl
    | _ => exact registered_scheduleRetry _
  | registrationTimeout => exact registered_scheduleRetry _
  | _ => cases hn

lemma registered_noting_of_pos [Transport σ] (g : Group σ) (id : SessionId) {duration : Int}
    (hpos : 0 < duration) :
    (g.noting id (.registrationDone duration)).supervisor.registered = true := by
  obtain ⟨timer, hrefresh, -⟩ :=
    (g.accepted duration).scheduleRefresh_eq (g.settings.refreshDelay duration.toNat)
  simp only [noting, if_pos hpos]
  rw [onRegistrationDone_of_pos g id hpos, hrefresh]
  rcases startKeepalive_eq { g.accepted duration with timer := timer } with
    heq | ⟨-, timer', heq, -⟩
  · rw [heq]
    rfl
  · rw [heq]
    rfl

namespace Leased

lemma of_unregistered (hregistered : g.supervisor.registered = false)
    (hx : ∀ t, x = some t → t.stands = false)
    (hmail : g.supervisor.running = true → ∀ duration : Int, 0 < duration →
      .registrationDone duration ∉ g.mail notices) : Leased g notices wakeups x where
  registered hs := by
    rw [hregistered] at hs
    cases hs
  stands t ht hstands := by
    rw [hx t ht] at hstands
    cases hstands
  granted hrunning duration hpos hdone := absurd hdone (hmail hrunning duration hpos)

/-- It does not matter what else happens at the same moment. -/
lemma congr (h : Leased g notices wakeups x) (hinstant : g.Instant g')
    (hrunning : g'.supervisor.running = g.supervisor.running)
    (hregistered : g'.supervisor.registered = g.supervisor.registered)
    (hdues : g'.timer.dues .refresh = g.timer.dues .refresh)
    (hmail : g'.mail waiting = g.mail notices) : Leased g' waiting wakeups x where
  registered hs := by
    obtain ⟨t, ht, hnow, hstands⟩ := h.registered (hregistered.symm.trans hs)
    rw [hinstant.now, hinstant.settings, hmail]
    exact ⟨t, ht, hnow, hstands⟩
  stands t ht hstands := by
    cases h.stands t ht hstands with
    | coming hruns hpos hcoming hnow =>
      exact .coming (hrunning.trans hruns) hpos (hmail.trans hcoming) (hinstant.now.trans hnow)
    | holding hholds hnothing hnow hdue =>
      refine .holding (hregistered.trans hholds) (hmail.trans hnothing) ?_ ?_
      · rw [hinstant.now, hinstant.settings]
        exact hnow
      · rw [hinstant.settings, hdues]
        exact hdue
  granted hs duration hpos hdone := by
    rw [hmail] at hdone
    exact h.granted (hrunning.symm.trans hs) duration hpos hdone

lemma of_mail_eq (h : Leased g notices wakeups x) (hmail : g.mail waiting = g.mail notices) :
    Leased g waiting wakeups x :=
  h.congr (.refl g) rfl rfl rfl hmail

/-- Nothing stands while the supervisor is not registered and has been told everything. -/
lemma not_stands (h : Leased g [] wakeups x) (hregistered : g.supervisor.registered = false) :
    ∀ t, x = some t → t.stands = false := by
  intro t ht
  by_contra hstands
  have hholds := (h.stands t ht (by simpa using hstands)).registered
  cases hregistered.symm.trans hholds

/-- Whatever else is done, a grant that no longer stands does not matter. -/
lemma not_stands_past (x : Option Grant) : ∀ t, x.map Grant.past = some t → t.stands = false := by
  intro t ht
  obtain ⟨t', -, rfl⟩ := Option.map_eq_some_iff.mp ht
  rfl

/-- A supervisor that is not running has no lease. -/
lemma of_not_running (hstopped : g.supervisor.running = false)
    (hbooks : g.supervisor.registered = true → g.supervisor.running = true)
    (hx : ∀ t, x = some t → t.stands = false) : Leased g notices wakeups x := by
  refine of_unregistered ?_ hx fun hrunning => ?_
  · by_contra hregistered
    cases hstopped.symm.trans (hbooks (by simpa using hregistered))
  · cases hstopped.symm.trans hrunning

lemma aside (h : Leased g [] wakeups x) (hg' : Aside g g' ds) (hinstant : g.Instant g') :
    Leased g' ds wakeups x := by
  have hsupervisor : g'.supervisor = g.supervisor := congrArg Books.supervisor hg'.books
  refine h.congr hinstant (congrArg _ hsupervisor) (congrArg _ hsupervisor)
    (congrArg (·.timer.dues .refresh) hg'.books) (mail_eq_nil fun d hd _ => ?_)
  rw [hsupervisor]
  exact hg'.silent d hd

end Leased

end Group

end SipAgent
