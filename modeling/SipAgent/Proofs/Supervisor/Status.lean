import SipAgent.Proofs.Supervisor.Echo

/-!
# A new listener learns the status

A listener that takes the place of another one is told how the registration stands. Beside a history
stands what has been told last; the status agrees with it because the beliefs of the supervisor do,
with one exception: they do not tell a failure with the code of a timeout from a timeout.
-/

namespace SipAgent

/-- A status agrees with what has been told last: it says the same, or that the same registration
holds for the time that is left. -/
def Notice.Agrees : Notice → Notice → Prop
  | .registering, .registering => True
  | .registrationDone duration, .registrationDone left => 0 ≤ left ∧ left ≤ duration
  | .registrationFailed code message, .registrationFailed code' message' =>
    code' = code ∧ message' = message
  | .registrationTimeout, .registrationTimeout => True
  | _, _ => False

namespace Group

variable {σ : Type} {g g' : Group σ} {notices : List Delivery} {n : Notice}
  {x : Option (Option Notice)}

/-- The status agrees with what has been told last, unless that was a failure with the code of a
timeout. -/
lemma Believes.agrees_iff (h : Believes g (some n)) (hup : g.connected = true) :
    ∃ id, g.supervisor.session = some id ∧ (n.Agrees (g.registrationStatus id) ↔
      ∀ message, n ≠ .registrationFailed .timeOut message) := by
  cases h with
  | @holds moment hrunning _ hrest hregistered hmoment _ hlast =>
    obtain ⟨id, hid, -⟩ := hrest
    obtain ⟨duration, rfl, hle⟩ := hlast n rfl
    refine ⟨id, hid, ?_⟩
    rw [status_of_registered hup hrunning hregistered hmoment]
    exact iff_of_true ⟨Int.natCast_nonneg _, hle⟩ nofun
  | @failed code message _ hrest hregistered herror hlast =>
    obtain ⟨id, hid, -⟩ := hrest
    refine ⟨id, hid, ?_⟩
    rw [status_of_failed hup hregistered herror]
    rcases hlast n rfl with rfl | ⟨rfl, rfl⟩
    · by_cases hcode : code = .timeOut
      · subst hcode
        exact iff_of_false (fun hagrees => hagrees) fun hnot => hnot message rfl
      · rw [if_neg hcode]
        refine iff_of_true ⟨rfl, rfl⟩ fun message' hfailed => hcode ?_
        exact (Notice.registrationFailed.inj hfailed).1
    · rw [if_pos rfl]
      exact iff_of_true trivial nofun
  | asking hrunning _ hasking hregistered herror hlast =>
    obtain ⟨id, hid, hbusy⟩ := hasking
    obtain rfl := hlast n rfl
    refine ⟨id, hid, ?_⟩
    rw [status_of_asking hup hrunning hregistered herror hbusy]
    exact iff_of_true trivial nofun
  | offline _ hdown => cases hdown.symm.trans hup

/-! ### Every occurrence -/

/-- What has been told last after an occurrence, if the supervisor has been started and not been
stopped since. -/
def memory (g : Group σ) : Occurrence σ → Option (Option Notice) → Option (Option Notice)
  | .act (.startRegistration _), x =>
    if g.closed || g.supervisor.running then x else some (x.getD none)
  | .act .stopRegistration, _ | .act .close, _ => none
  | .handOver d, x => x.map (g.remember d)
  | _, x => x

/-- If the supervisor has been started and has not been stopped since, what it believes agrees with
what listeners have been told last. -/
def Recalls (g : Group σ) (notices : List Delivery) (x : Option (Option Notice)) : Prop :=
  ∀ last, x = some last → g.Echoes notices last

namespace Recalls

lemma congr (h : Recalls g notices x) (hg' : SameBeliefs g g') : Recalls g' notices x :=
  fun last hx => (h last hx).congr hg'

variable [Transport σ]

lemma startRegistration (hg : Sound g) (hattended : Attended g) (h : Recalls g [] x)
    (l : Listener) :
    Recalls (g.startRegistration l).group (g.startRegistration l).deliveries
      (g.memory (.act (.startRegistration l)) x) := by
  intro last hx
  simp only [memory] at hx
  cases hopen : g.closed with
  | true =>
    rw [hopen, Bool.true_or, if_pos rfl] at hx
    rw [startRegistration_of_closed g l hopen]
    exact h last hx
  | false =>
  cases hidle : g.supervisor.running with
  | true =>
    rw [hidle, Bool.or_true, if_pos rfl] at hx
    rw [startRegistration_of_running g l hopen hidle]
    exact .settled rfl ((h last hx).believes.setListener l)
  | false =>
    rw [hopen, hidle, Bool.or_false, if_neg Bool.false_ne_true, Option.some.injEq] at hx
    refine Echoes.starts hg hattended l hopen hidle ?_
    -- A supervisor that starts for the first time may find its session still busy.
    cases x with
    | none =>
      obtain rfl : none = last := hx
      exact (hattended.engaging_state l).imp_right fun hasking => ⟨hasking, nofun⟩
    | some last' =>
      obtain ⟨-, hrest⟩ := (h last' rfl).believes.resigned hidle
      exact .inl (hrest.engaging l)

/-- Whatever is done by a thread that has handed everything over. -/
lemma act (hg : Sound g) (hlisted : g.registry.Unambiguous) (hattended : Attended g)
    (hkeyed : KeyedOnline g) (h : Recalls g [] x) {a : Action}
    (ha : (Occurrence.act a).Undisturbed g) :
    Recalls (g.act a).group (g.act a).deliveries (g.memory (.act a) x) := by
  by_cases hsignal : ∃ s, a = .signal s
  · obtain ⟨s, rfl⟩ := hsignal
    intro last hx
    simp only [Group.act, answering, processSignal]
    split
    · exact h last hx
    split
    · exact h last hx
    next id hresolve =>
    by_cases hid : g.supervisor.session = some id
    · obtain ⟨t, a, hcell, ht, -⟩ := hattended.cell id hid
      have howner := hg.owner_of_resolve (session?_eq_some.mpr ⟨a, hcell⟩) ht.role hresolve
      exact Echoes.heard hg hlisted hattended hkeyed hid howner (by cases s <;> rfl)
        (by cases s <;> simp [SessionEvent.ofSignal]) (h last hx).believes
    · have haside := Aside.dispatch hg hattended hid (.ofSignal s)
      have hnow := (Instant.dispatch g id (.ofSignal s)).now
      have hbeliefs := SameBeliefs.aside hattended haside (Nat.le_of_eq hnow.symm)
      refine .silent ((h last hx).believes.congr hbeliefs) fun d hd => ?_
      rw [hbeliefs.session]
      exact haside.silent d hd
  cases hown : a.isSupervision with
  | false =>
    have haside := Aside.act hg hattended ha hown (not_exists.mp hsignal)
    have hlater : g.now ≤ (g.act a).group.now := by
      by_cases htick : ∃ milliseconds, a = .tick milliseconds
      · obtain ⟨milliseconds, rfl⟩ := htick
        exact Nat.le_add_right _ _
      · exact Nat.le_of_eq (Instant.act g (not_exists.mp htick)).now.symm
    have hbeliefs := SameBeliefs.aside hattended haside hlater
    have hsame : g.memory (.act a) x = x := by
      cases a <;> first | rfl | cases hown
    rw [hsame]
    intro last hx
    refine .silent ((h last hx).believes.congr hbeliefs) fun d hd => ?_
    rw [hbeliefs.session]
    exact haside.silent d hd
  | true =>
    cases a with
    | startRegistration l => exact h.startRegistration hg hattended l
    | stopRegistration | close =>
      intro last hx
      cases hx
    | setRegistrationListener l =>
      exact fun last hx => Echoes.setRegistrationListener (h last hx).believes l
    | setConnected up =>
      intro last hx
      simp only [Group.act, answering, setConnected]
      split_ifs with hcannot hup
      · exact h last hx
      · exact Echoes.regainConnection hg hattended (h last hx).believes
      · refine Echoes.loseConnection hg hlisted hattended ?_ (h last hx).believes
        rw [Bool.or_eq_true, decide_eq_true_eq, not_or] at hcannot
        simpa [hup] using hcannot.2
    | stopTimer => exact h.congr (.besides g _ _ _ _ _ _)
    | _ => cases hown

end Recalls

end Group

namespace Scene

variable {σ : Type} [Transport σ] {c c' : Scene σ} {o : Occurrence σ} {x : Option (Option Notice)}
  {n : Notice}

lemma recalls_step (hreachable : c.Reachable (Proceeds Occurrence.Undisturbed))
    (h : c.TakesAlone Occurrence.Undisturbed o c') (hc : c.group.Recalls c.notices x) :
    c'.group.Recalls c'.notices (c.group.memory o x) := by
  have hinterleaves := hreachable.mono fun _ _ hstep => hstep.interleaves
  obtain ⟨hsound, hattended⟩ := hinterleaves.attended
  have hkeyed := hinterleaves.keyedOnline
  obtain ⟨-, hlisted⟩ :=
    (hinterleaves.mono fun _ _ hstep => hstep.mono fun _ _ ho => ho.1).sound
  cases h with
  | begins hidle ho hstep =>
    rw [hidle] at hc
    cases hstep with
    | act a =>
      simp only [acting, hidle, List.nil_append]
      exact hc.act hsound hlisted hattended hkeyed ho
    | handOver hnotices =>
      rw [hidle] at hnotices
      simp at hnotices
    | ring | drift =>
      rw [hidle]
      exact hc.congr (.besides c.group _ _ _ _ _ _)
    | wake hwakeups =>
      simp only [hidle, List.nil_append]
      exact fun last hx => Group.Echoes.wake hsound hattended (hc last hx).believes _
  | delivers hnotices hd =>
    rw [hnotices] at hc
    rw [delivering_eq hnotices]
    intro last hx
    obtain ⟨last', hx', rfl⟩ := Option.map_eq_some_iff.mp hx
    exact (hc last' hx').handOver hsound hattended

/-- The scenes of a history of one thread, each with what listeners have been told last about the
registration since the supervisor was started, while the data connection was up. -/
def Remembering (c : Scene σ) (x : Option (Option Notice)) : Prop :=
  c.Account (TakesAlone Occurrence.Undisturbed) Group.memory none x

lemma Remembering.reachable (h : c.Remembering x) :
    c.Reachable (Proceeds Occurrence.Undisturbed) :=
  Account.reachable h fun _ _ _ hstep => hstep.proceeds

lemma Remembering.recalls (h : c.Remembering x) : c.group.Recalls c.notices x := by
  induction h with
  | start => exact nofun
  | step h hstep ih => exact recalls_step (Remembering.reachable h) hstep ih

/-- As long as nothing about the registration waits to be handed over, a listener that takes the
place of another one is told the status, and the status agrees with what was told last, unless that
was a failure with the code of a timeout: such a failure is taken for a timeout. -/
theorem status_agrees_iff (h : c.Remembering (some (some n))) (hopen : c.group.closed = false)
    (hup : c.group.connected = true)
    (hquiet : ∀ d ∈ c.notices, c.group.supervisor.session ≠ some d.session) (l : Listener) :
    ∃ id status, c.group.supervisor.session = some id ∧
      (c.group.act (.setRegistrationListener l)).deliveries = [⟨.listener l, id, status⟩] ∧
      (n.Agrees status ↔ ∀ message, n ≠ .registrationFailed .timeOut message) := by
  have hbelieves : c.group.Believes (some n) := by
    cases h.recalls (some n) rfl with
    | settled _ hbelieves => rwa [Group.remembered_of_silent hquiet] at hbelieves
    | @due id told before after _ hid hnotices =>
      refine absurd hid (hquiet ⟨.supervisor, id, told⟩ ?_)
      rw [hnotices]
      exact List.mem_append_right _ List.mem_cons_self
  obtain ⟨id, hid, hagrees⟩ := hbelieves.agrees_iff hup
  refine ⟨id, _, hid, ?_, hagrees⟩
  simp only [Group.act, Group.answering, Group.setRegistrationListener, hopen,
    Bool.false_eq_true, if_false, hid]
  rfl

/-- A registration is asked for and answered, the listener is told of it, and time passes. -/
def answered (answer : ClientTransaction → Response) (milliseconds : ℕ) :
    Option (Scene (Journal Recorder) × Option (Option Notice)) :=
  play (fun _ o => o.isOrdinary) Group.memory
    (Move.registering .nobody ++
      [.answer answer, .deliver, .deliver, .always (.tick milliseconds)])
    ofAlice none

lemma remembering_answered {answer : ClientTransaction → Response} {milliseconds : ℕ}
    (h : (answered answer milliseconds).isSome = true) :
    ((answered answer milliseconds).get h).1.Remembering
      ((answered answer milliseconds).get h).2 := by
  refine account_of_play (fun c o c' hpermits hstep => ?_) (.start _ _ _) (Option.some_get h).symm
  exact hstep.mono fun _ _ => (Occurrence.supervised_of_isOrdinary hpermits).undisturbed

/-- A second after a registration has been granted for an hour, it holds for a second less. -/
theorem status_agrees_iff_of_grant :
    let p := (answered (.answering · 200 "OK") 1000).get (by decide +kernel)
    p.1.Remembering p.2 ∧ p.2 = some (some (.registrationDone 3600)) ∧
      p.1.group.closed = false ∧ p.1.group.connected = true ∧ p.1.notices = [] ∧
      (p.1.group.act (.setRegistrationListener (.named "late"))).deliveries =
        [⟨.listener (.named "late"), 0, .registrationDone 3599⟩] ∧
      (Notice.registrationDone 3600).Agrees (.registrationDone 3599) := by
  intro p
  have hremembering : p.1.Remembering p.2 := remembering_answered (by decide +kernel)
  have hmemory : p.2 = some (some (.registrationDone 3600)) := by decide +kernel
  have hopen : p.1.group.closed = false := by decide +kernel
  have hup : p.1.group.connected = true := by decide +kernel
  have hidle : p.1.notices = [] := by decide +kernel
  have htold : (p.1.group.act (.setRegistrationListener (.named "late"))).deliveries =
      [⟨.listener (.named "late"), 0, .registrationDone 3599⟩] := by decide +kernel
  have hquiet : ∀ d ∈ p.1.notices, p.1.group.supervisor.session ≠ some d.session := by
    rw [hidle]
    exact nofun
  obtain ⟨id, status, -, hstatus, hagrees⟩ :=
    status_agrees_iff (hmemory ▸ hremembering) hopen hup hquiet (.named "late")
  rw [htold, List.cons.injEq, Delivery.mk.injEq] at hstatus
  obtain ⟨⟨-, -, rfl⟩, -⟩ := hstatus
  exact ⟨hremembering, hmemory, hopen, hup, hidle, htold, hagrees.mpr nofun⟩

/-- A registrar that answers with the status of a timeout has not been silent, but that is what
another listener is told. -/
theorem timed_out_answer_confused :
    let p := (answered (.answering · 408 "Request Timeout") 0).get (by decide +kernel)
    let told := Notice.registrationFailed .timeOut "Request Timeout (408)"
    p.1.Remembering p.2 ∧ p.2 = some (some told) ∧ p.1.group.closed = false ∧
      p.1.group.connected = true ∧ p.1.notices = [] ∧
      (p.1.group.act (.setRegistrationListener (.named "late"))).deliveries =
        [⟨.listener (.named "late"), 0, .registrationTimeout⟩] ∧
      ¬ told.Agrees .registrationTimeout :=
  ⟨remembering_answered (by decide +kernel), by decide +kernel, by decide +kernel,
    by decide +kernel, by decide +kernel, by decide +kernel, fun hagrees => hagrees⟩

end Scene

end SipAgent
