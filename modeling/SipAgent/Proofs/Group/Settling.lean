import SipAgent.Proofs.Session.Registration
import SipAgent.Proofs.Supervisor.Bookkeeping

/-!
# Handing everything over

A signal has been dealt with once every notice that it causes has been handed over, and every notice
that these cause in turn: `Group.heed`. That comes to an end because the supervisor, which is the only
one to whom a notice means anything, asks for one registration at most, and only when another one
has ended. What it puts down besides, `Group.noting`, is in its own books.
-/

namespace SipAgent

/-- The notice is one of those that a supervisor waits for. -/
def Notice.isRegistration : Notice → Bool
  | .registering | .registrationDone _ | .registrationFailed .. | .registrationTimeout => true
  | _ => false

/-- The number of notices that are handed over on account of this one, itself included, is no
more. -/
def Delivery.weight (d : Delivery) : Nat :=
  match d.addressee, d.notice with
  | .listener _, _ => 1
  | .supervisor, .registrationDone _ => 4
  | .supervisor, _ => 2

lemma Delivery.weight_le (d : Delivery) (h : ∀ duration, d.notice ≠ .registrationDone duration) :
    d.weight ≤ 2 := by
  unfold weight
  split
  · decide
  · next duration _ hd => exact absurd hd (h duration)
  · exact Nat.le_refl _

/-- The number of notices that are handed over on account of all of these is no more. -/
def Delivery.burden : List Delivery → Nat
  | [] => 0
  | d :: later => d.weight + burden later

lemma Delivery.burden_append (first later : List Delivery) :
    burden (first ++ later) = burden first + burden later := by
  induction first with
  | nil => exact (Nat.zero_add _).symm
  | cons d first ih => simp only [List.cons_append, burden, ih, Nat.add_assoc]

namespace Session

variable {σ : Type} [Transport σ] {e : SessionEvent}

/-- Whoever is asked to register has one thing to tell, which is never that a registration has been
granted or has ended. -/
lemma reports_of_asked (profile : Profile) (fresh : SessionId) (s : Session)
    (he : e.isRegistration = true) (net : σ) :
    (s.process profile fresh e net).1.reports = [] ∨
      ∃ report, (s.process profile fresh e net).1.reports = [report] ∧
        ∀ duration, report.notice ≠ .registrationDone duration := by
  have hresponse : ∀ r, e ≠ .response r := by rintro r rfl; cases he
  have hrequest : ∀ r, e ≠ .request r := by rintro r rfl; cases he
  have hfailed : ∀ cause, ∃ report, (s.transportFailed e cause).reports = [report] ∧
      ∀ duration, report.notice ≠ .registrationDone duration := by
    intro cause
    obtain ⟨code, message, -, h⟩ :=
      transportFailed_of_registration (s := s) (e := e) (by simp [he]) cause
    rw [h]
    exact ⟨_, rfl, by simp⟩
  cases hrole : s.role with
  | dialog =>
    rcases reaction_process (Promise.nothing_keptBy σ) profile fresh hrole e net with h | ⟨cause, h⟩
    · generalize (s.process profile fresh e net).1 = o at h
      cases h with
      | refused | consumed => exact .inl rfl
      | ended hending => cases hending <;> cases he
      | registers => exact .inr ⟨_, rfl, by simp⟩
      | calls _ _ _ _ _ _ hcalls => rw [hcalls] at he; cases he
      | challenged r _ _ hr | alerted r _ hr | answered r _ hr | changed r _ hr | keepsCall r _ hr =>
        exact absurd hr (hresponse r)
      | cancelsCall _ hends | cancelsChange _ hends => rw [hends] at he; cases he
      | accepts _ _ _ _ _ _ hanswers => rw [hanswers] at he; cases he
      | confirmed r _ hr | acceptsChange r _ _ _ hr | changeConfirmed r _ hr =>
        exact absurd hr (hrequest r)
      | startsChange _ _ _ _ _ hchanges => rcases hchanges with rfl | ⟨_, rfl⟩ <;> cases he
    · exact .inr (h ▸ hfailed cause)
  | receiver =>
    rcases intake_process (Promise.nothing_keptBy σ) profile fresh hrole e net with h | ⟨cause, h⟩
    · generalize (s.process profile fresh e net).1 = o at h
      cases h with
      | refused | consumed => exact .inl rfl
      | takesIn r _ _ hr => exact absurd hr (hrequest r)
    · exact .inr (h ▸ hfailed cause)

end Session

namespace Group

variable {σ : Type} [Transport σ] {g g₁ g' : Group σ} {id : SessionId}

/-! ### What a notice comes to -/

/-- The books after a notice of the session that is supervised. -/
def noting (g : Group σ) (id : SessionId) : Notice → Group σ
  | .registering => (g.onRegistering id).group
  | .registrationDone duration =>
    if 0 < duration then (g.onRegistrationDone id duration).group else g.ended
  | .registrationFailed code message => (g.onRegistrationFailed id code message).group
  | .registrationTimeout => (g.onRegistrationTimeout id).group
  | _ => g

omit [Transport σ] in
/-- A registration has ended, and another one can be asked for. -/
def asksAgain (g : Group σ) : Notice → Bool
  | .registrationDone duration => !decide (0 < duration) && g.connected
  | _ => false

omit [Transport σ] in
/-- The notice is for the supervisor. -/
def takesNotice (g : Group σ) (d : Delivery) : Bool :=
  d.addressee = .supervisor && g.supervises d.session && d.notice.isRegistration

/-- A notice for the supervisor is noted and passed on; if it says that a registration has ended, the
supervisor asks for the next one. Any other notice changes nothing. -/
lemma handOver_eq (g : Group σ) (d : Delivery) :
    g.handOver d =
      if g.takesNotice d then
        let told := g.tellListener d.session d.notice
        let change := g.ended.dispatch d.session (.register g.settings.expiry)
        if g.asksAgain d.notice then ⟨change.group, told :: change.deliveries, ()⟩
        else ⟨g.noting d.session d.notice, [told], ()⟩
      else ⟨g, [], ()⟩ := by
  obtain ⟨addressee, i, notice⟩ := d
  cases addressee with
  | listener l => rfl
  | supervisor =>
    unfold handOver takesNotice
    cases hsupervises : g.supervises i with
    | false => simp
    | true =>
      cases notice with
      | registrationDone duration =>
        simp only [Notice.isRegistration, asksAgain, noting]
        by_cases hpos : 0 < duration
        · rw [onRegistrationDone_of_pos g i hpos]
          simp [hpos]
        · rw [onRegistrationDone_of_not_pos g i hpos]
          simp [hpos]
      | registrationFailed code message =>
        simp only [Notice.isRegistration, asksAgain, noting, onRegistrationFailed]
        cases code <;> rfl
      | _ => simp only [Notice.isRegistration, asksAgain, noting]; rfl

omit [Transport σ] in
/-- A supervisor that is running notes what its session says about the registration. -/
lemma takesNotice_of_running {n : Notice} (hrunning : g.supervisor.running = true)
    (hid : g.supervisor.session = some id) (hn : n.isRegistration = true) :
    g.takesNotice ⟨.supervisor, id, n⟩ = true := by
  simp [takesNotice, supervises, hrunning, hid, hn]

/-- The supervisor makes nothing of what others are told, or what other sessions say. -/
lemma handOver_of_not_supervised {d : Delivery}
    (h : ¬ (d.addressee = .supervisor ∧ g.supervisor.session = some d.session)) :
    g.handOver d = ⟨g, [], ()⟩ := by
  have hnot : g.takesNotice d = false := by
    simp only [takesNotice, supervises, Bool.and_eq_false_iff, decide_eq_false_iff_not]
    tauto
  rw [handOver_eq, hnot]
  rfl

/-! ### Handing over until nothing is left -/

lemma weight_asked (g : Group σ) (id : SessionId) (expiry : UInt32) :
    Delivery.burden (g.dispatch id (.register expiry)).deliveries ≤ 2 := by
  cases hcell : g.cells[id]? with
  | none =>
    rw [dispatch_of_none (by rw [session?, hcell]; rfl)]
    exact Nat.zero_le _
  | some cell =>
    rw [dispatch_deliveries hcell]
    rcases Session.reports_of_asked g.profile g.cells.length cell.session
      (e := .register expiry) rfl g.network with h | ⟨report, h, hnot⟩
    · rw [outcomeOf, h]
      exact Nat.zero_le _
    · rw [outcomeOf, h]
      exact Delivery.weight_le ⟨cell.addressee, report.session, report.notice⟩ hnot

/-- Handing a notice over causes less than what it has been reckoned for. -/
lemma weight_handOver (g : Group σ) (d : Delivery) :
    Delivery.burden (g.handOver d).deliveries < d.weight := by
  have hpos : 0 < d.weight := by
    unfold Delivery.weight
    split <;> decide
  rw [handOver_eq]
  split
  · next htakes =>
    simp only [takesNotice, Bool.and_eq_true, decide_eq_true_eq] at htakes
    have haddressee := htakes.1.1
    obtain ⟨addressee, i, notice⟩ := d
    subst haddressee
    split
    · next hasks =>
      have hasked := weight_asked g.ended i g.settings.expiry
      cases notice with
      | registrationDone duration =>
        simp only [Delivery.burden, Delivery.weight, tellListener]
        exact Nat.lt_of_le_of_lt (Nat.add_le_add_left hasked 1) (by decide)
      | _ => cases hasks
    · cases notice <;> simp [Delivery.burden, Delivery.weight, tellListener]
  · exact hpos

/-- Hand notices over, each followed by those that it causes, until none is left: the group
afterwards, and all notices in the order in which they were handed over. -/
def settle (g : Group σ) : List Delivery → Group σ × List Delivery
  | [] => (g, [])
  | d :: waiting =>
    let settled := settle (g.handOver d).group ((g.handOver d).deliveries ++ waiting)
    (settled.1, d :: settled.2)
termination_by waiting => Delivery.burden waiting
decreasing_by
  rw [Delivery.burden_append]
  exact Nat.add_lt_add_right (weight_handOver g d) _

/-- Deal with a signal: the group afterwards, and all notices in the order in which they were handed
over. -/
def heed (g : Group σ) (m : Signal) : Group σ × List Delivery :=
  (g.processSignal m).group.settle (g.processSignal m).deliveries

@[simp] lemma settle_nil (g : Group σ) : g.settle [] = (g, []) := by
  rw [settle]

lemma settle_cons (g : Group σ) (d : Delivery) (waiting : List Delivery) :
    g.settle (d :: waiting) =
      (((g.handOver d).group.settle ((g.handOver d).deliveries ++ waiting)).1,
        d :: ((g.handOver d).group.settle ((g.handOver d).deliveries ++ waiting)).2) := by
  rw [settle]

end Group

end SipAgent
