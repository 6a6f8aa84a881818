import SipAgent.Proofs.Session.Plan
import SipAgent.Proofs.Transport.Journal

/-!
# What a session does with one event

A script that goes through leads to a reaction, and one that does not makes the session fail as a
whole: `Session.reaction_process` says so of sessions that own a dialog, and `Session.intake_process`
of receivers.
-/

namespace SipAgent

namespace Session

variable {σ : Type} {R : Promise} {profile : Profile} {s : Session} {e : SessionEvent}

/-- How an event ends for a session, given how its script went. -/
def conclusion (s : Session) (e : SessionEvent) : Except TransportError Outcome → Outcome
  | .ok outcome => outcome
  | .error cause => s.transportFailed e cause

/-- A script goes as the list of reactions says, or a command of it is refused. Registrations are
only sent from the idle state. -/
def Reacts (R : Promise) (profile : Profile) (s : Session) (e : SessionEvent) :
    Except TransportError Outcome → Prop
  | .ok outcome => Reaction R profile s e outcome
  | .error _ => e.isRegistration → s.state = .ready

lemma process_fst [Transport σ] (profile : Profile) (fresh : SessionId) (s : Session)
    (e : SessionEvent) (net : σ) :
    (s.process profile fresh e net).1 =
      s.conclusion e ((s.script profile fresh e).run net).1 := by
  unfold process conclusion
  split <;> simp [*]

/-- A journal does not change what a session does, and holds what it asks for. -/
lemma process_journal [Transport σ] (profile : Profile) (fresh : SessionId) (s : Session)
    (e : SessionEvent) (net : σ) (earlier : List Call) :
    s.process profile fresh e (⟨net, earlier⟩ : Journal σ) =
      ((s.process profile fresh e net).1,
        ⟨(s.process profile fresh e net).2,
          earlier ++ (s.script profile fresh e).calls net⟩) := by
  unfold process
  rw [Script.run_journal]
  rcases (s.script profile fresh e).run net with ⟨cause | outcome, net'⟩ <;> rfl

/-! ### Steps that plans share -/

section Steps

variable {α : Type} {P : Except TransportError α → Prop} {next : Script α}

lemma meets_respond (refused : ∀ cause, P (.error cause)) (h : next.Meets R P) (r : Request)
    (status : UInt16) : (respond r status next).Meets R P :=
  ⟨refused, fun _ _ => h⟩

lemma meets_acknowledge (refused : ∀ cause, P (.error cause)) (h : next.Meets R P) (s : Session)
    (r : Response) : (s.acknowledge r next).Meets R P := by
  unfold acknowledge
  split
  · exact ⟨refused, fun _ _ => h⟩
  · exact refused _

lemma meets_hangUp (refused : ∀ cause, P (.error cause)) (h : next.Meets R P) (s : Session) :
    (s.hangUp next).Meets R P := by
  unfold hangUp
  split
  · exact ⟨refused, fun _ _ => h⟩
  · exact h

lemma meets_cancelRequest (refused : ∀ cause, P (.error cause)) (h : next.Meets R P)
    (s : Session) : (s.cancelRequest next).Meets R P := by
  unfold cancelRequest
  split
  · exact ⟨refused, fun _ _ => h⟩
  · exact h

lemma meets_abandonDialog (h : next.Meets R P) (s : Session) :
    (s.abandonDialog next).Meets R P := by
  unfold abandonDialog
  split
  · exact h
  · exact h

lemma meets_withLocalTag {next : Tag → Script α} (h : ∀ tag, (next tag).Meets R P)
    (s : Session) : (s.withLocalTag next).Meets R P := by
  unfold withLocalTag
  split
  · exact h _
  · exact h

variable {p q : Command → Prop}

lemma gives_acknowledge (h : next.Gives R p q) (s : Session) (r : Response)
    (hc : ∀ d, s.dialog = some d → p (.acknowledge r d)) :
    (s.acknowledge r next).Gives R p q := by
  unfold acknowledge
  split
  · next d hd => exact ⟨hc d hd, fun _ _ => h⟩
  · trivial

lemma gives_hangUp (h : next.Gives R p q) (s : Session)
    (hc : ∀ d, s.dialog = some d → p (.bye d)) : (s.hangUp next).Gives R p q := by
  unfold hangUp
  split
  · next d hd => exact ⟨hc d hd, fun _ _ => h⟩
  · exact h

lemma gives_cancelRequest (h : next.Gives R p q) (s : Session)
    (hc : ∀ t, s.clientTransaction = some t → p (.cancel t)) :
    (s.cancelRequest next).Gives R p q := by
  unfold cancelRequest
  split
  · next t ht => exact ⟨hc t ht, fun _ _ => h⟩
  · exact h

lemma gives_abandonDialog (h : next.Gives R p q) (s : Session)
    (hc : ∀ d, s.dialog = some d → q (.terminateDialog d)) :
    (s.abandonDialog next).Gives R p q := by
  unfold abandonDialog
  split
  · next d hd => exact ⟨hc d hd, h⟩
  · exact h

lemma gives_withLocalTag {next : Tag → Script α} (h : ∀ tag, (next tag).Gives R p q)
    (s : Session) : (s.withLocalTag next).Gives R p q := by
  unfold withLocalTag
  split
  · exact h _
  · exact h

end Steps

/-- An event that is no registration may be refused in every state. -/
lemma reacts_refused (he : e.isRegistration = false) (cause : TransportError) :
    Reacts R profile s e (.error cause) := by
  intro h
  rw [he] at h
  cases h

/-- A script that is done at once ends as the list says. -/
lemma reacts_done {outcome : Outcome} (h : Reaction R profile s e outcome) :
    (Script.done outcome).Meets R (Reacts R profile s e) :=
  h

lemma reacts_authenticate {r : Response} (hs : s.state.challengeable = some r.method)
    (hr : isChallenge r.status) :
    (s.authenticate profile r).Meets R (Reacts R profile s (.response r)) := by
  unfold authenticate
  split
  · next h => exact reacts_done (.ended (.badCredentials r hs hr h))
  · next h =>
    split
    · next realm hrealm => exact reacts_done (.ended (.foreignRealm r realm hs hr hrealm))
    · refine ⟨reacts_refused rfl, fun t ht => ?_⟩
      exact reacts_done (.challenged r t hs rfl hr (Nat.lt_of_not_le h) ht)

lemma reacts_startChange {offer : Octets} {script : Script Outcome} (hs : s.state = .inCall)
    (he : e = .changeCall offer ∨ ∃ peer, e = .makeCall peer offer)
    (h : s.startChange offer = some script) : script.Meets R (Reacts R profile s e) := by
  have hplain : e.isRegistration = false := by rcases he with rfl | ⟨_, rfl⟩ <;> rfl
  unfold startChange at h
  split at h
  · cases h
  · next dialog hd =>
    cases h
    refine ⟨reacts_refused hplain, fun t ht => ?_⟩
    exact reacts_done (.startsChange offer dialog t hs hd he ht)

/-- Every plan leads to a reaction of the list. -/
lemma Plan.reacts {script : Script Outcome} (h : Plan profile s e script) :
    script.Meets R (Reacts R profile s e) := by
  cases h with
  | refuses => exact reacts_done .refused
  | still _ _ h => exact reacts_done h.reaction
  | settles r status he =>
    subst he
    exact meets_respond (reacts_refused rfl) (reacts_done .consumed) r status
  | byes r he hm hs =>
    subst he
    exact meets_respond (reacts_refused rfl) (reacts_done (.ended (.bye r hs hm))) r 200
  | rejects invite hs _ he =>
    subst he
    refine meets_respond (reacts_refused rfl) ?_ invite 486
    exact reacts_done (.ended (.hungUp (by rw [hs]; rfl)))
  | withdraws r invite hs _ he hm =>
    subst he
    refine meets_respond (reacts_refused rfl) ?_ r 200
    refine meets_respond (reacts_refused rfl) ?_ invite 487
    exact reacts_done (.ended (.withdrawn r hs hm))
  | accepts invite answer hs hinvite he =>
    subst he
    unfold acceptCall
    refine meets_withLocalTag (fun tag => .send (reacts_refused rfl) fun d hd => ?_) s
    exact reacts_done (.accepts invite answer tag d hs hinvite rfl hd)
  | acceptsChange r hs he hm =>
    subst he
    unfold acceptChange
    refine meets_withLocalTag (fun tag => .send (reacts_refused rfl) fun d hd => ?_) s
    exact reacts_done (.acceptsChange r tag d hs rfl hm hd)
  | registers expiry next hs he hnext =>
    intro tag
    refine ⟨fun _ _ => hs, fun t ht => ?_⟩
    exact reacts_done (.registers expiry next tag t hs he hnext ht)
  | calls callee offer hs he =>
    subst he
    intro tag
    refine ⟨reacts_refused rfl, fun reply ht => ?_⟩
    exact reacts_done (.calls callee offer tag reply.1 reply.2 hs rfl ht)
  | startsChange offer hs he hscript => exact reacts_startChange hs he hscript
  | challenged r hs he hr => subst he; exact reacts_authenticate hs hr
  | acknowledges r _ he h =>
    subst he
    exact meets_acknowledge (reacts_refused rfl) (reacts_done h.reaction) s r
  | endsAnswered r _ he h =>
    subst he
    refine meets_acknowledge (reacts_refused rfl) (meets_hangUp (reacts_refused rfl) ?_ s) s r
    exact reacts_done h.reaction
  | hangsUp hs _ he =>
    subst he
    exact meets_hangUp (reacts_refused rfl) (reacts_done (.ended (.hungUp hs))) s
  | cancels _ he h =>
    subst he
    exact meets_cancelRequest (reacts_refused rfl) (reacts_done h.reaction) s
  | abandons _ _ h => exact meets_abandonDialog (reacts_done h.reaction) s

lemma reacts_dialogScript (profile : Profile) (s : Session) (e : SessionEvent) :
    (s.dialogScript profile e).Meets R (Reacts R profile (s.attaching e) e) :=
  (plan_dialogScript profile s e).reacts

/-! ### The machine -/

lemma script_of_dialog (hs : s.role = .dialog) (profile : Profile) (fresh : SessionId)
    (e : SessionEvent) : s.script profile fresh e = s.dialogScript profile e := by
  rw [script, hs]

lemma script_of_receiver (hs : s.role = .receiver) (profile : Profile) (fresh : SessionId)
    (e : SessionEvent) : s.script profile fresh e = s.receiverScript fresh e := by
  rw [script, hs]

/-- Whatever the network replies, the script of a session that owns a dialog goes as the list
says. -/
theorem reacts_run [Transport σ] (hR : R.KeptBy σ) (profile : Profile) (fresh : SessionId)
    {s : Session} (hs : s.role = .dialog) (e : SessionEvent) (net : σ) :
    Reacts R profile (s.attaching e) e ((s.script profile fresh e).run net).1 := by
  have h := (reacts_dialogScript (R := R) profile s e).run hR net
  rwa [script_of_dialog hs]

/-- A session that owns a dialog does nothing but what the list says, or fails as a whole. -/
theorem reaction_process [Transport σ] (hR : R.KeptBy σ) (profile : Profile) (fresh : SessionId)
    {s : Session} (hs : s.role = .dialog) (e : SessionEvent) (net : σ) :
    Reaction R profile (s.attaching e) e (s.process profile fresh e net).1 ∨
      ∃ cause, (s.process profile fresh e net).1 = s.transportFailed e cause := by
  have h := reacts_run hR profile fresh hs e net
  rw [process_fst]
  cases hrun : ((s.script profile fresh e).run net).1 with
  | ok outcome =>
    rw [hrun] at h
    exact .inl h
  | error cause => exact .inr ⟨cause, rfl⟩

/-- A session that owns a dialog stays who it is, and speaks of itself only. -/
lemma process_session [Transport σ] (profile : Profile) (fresh : SessionId) (hs : s.role = .dialog)
    (e : SessionEvent) (net : σ) :
    (s.process profile fresh e net).1.session.id = s.id ∧
      (s.process profile fresh e net).1.session.role = .dialog ∧
      ∀ report ∈ (s.process profile fresh e net).1.reports, report.session = s.id := by
  rcases reaction_process (Promise.nothing_keptBy σ) profile fresh hs e net with h | ⟨cause, h⟩
  · refine ⟨h.session_id.trans (attaching_id s e), ?_, fun report hreport => ?_⟩
    · rw [h.session_role, attaching_role, hs]
    · rw [h.reports_session report hreport, attaching_id]
  · rw [h]
    refine ⟨rfl, hs, ?_⟩
    rintro report (_ | ⟨_, ⟨⟩⟩)
    rfl

/-! ### Receivers -/

/-- What a receiver can do with an event. -/
inductive Intake (R : Promise) (s : Session) (fresh : SessionId) (e : SessionEvent) :
    Outcome → Prop where
  | refused : Intake R s fresh e s.refused
  | consumed : Intake R s fresh e s.consumed
  | takesIn (r : Request) (tag : Tag) (t : ServerTransaction) (he : e = .request r)
      (hm : r.method = .invite) (ht : R (.ringing r tag) t) :
      Intake R s fresh e
        ⟨s, true, [⟨fresh, .ringing r.sender r.body⟩], [.bind fresh r.callId],
          some (takingIn fresh r tag t)⟩

/-- A script of a receiver goes as the list says, or a command of it is refused. -/
def TakesIn (R : Promise) (s : Session) (fresh : SessionId) (e : SessionEvent) :
    Except TransportError Outcome → Prop
  | .ok outcome => Intake R s fresh e outcome
  | .error _ => True

lemma takesIn_receiverScript (s : Session) (fresh : SessionId) (e : SessionEvent) :
    (s.receiverScript fresh e).Meets R (TakesIn R s fresh e) := by
  have hrefused : ∀ cause, TakesIn R s fresh e (.error cause) := fun _ => trivial
  have hconsumed : (Script.done s.consumed).Meets R (TakesIn R s fresh e) := Intake.consumed
  unfold receiverScript
  split
  · next r =>
    split
    · next hm =>
      intro tag
      exact ⟨hrefused, fun t ht => Intake.takesIn r tag t rfl hm ht⟩
    · exact meets_respond hrefused hconsumed r 200
    · exact meets_respond hrefused hconsumed r 481
    · exact meets_respond hrefused hconsumed r 481
    · exact Intake.refused
    · exact Intake.refused
  · exact Intake.refused

/-- A receiver does nothing but take invitations in, or fails as a whole. -/
theorem intake_process [Transport σ] (hR : R.KeptBy σ) (profile : Profile) (fresh : SessionId)
    {s : Session} (hs : s.role = .receiver) (e : SessionEvent) (net : σ) :
    Intake R s fresh e (s.process profile fresh e net).1 ∨
      ∃ cause, (s.process profile fresh e net).1 = s.transportFailed e cause := by
  have h := (takesIn_receiverScript (R := R) s fresh e).run hR net
  rw [process_fst, script_of_receiver hs]
  cases hrun : ((s.receiverScript fresh e).run net).1 with
  | ok outcome =>
    rw [hrun] at h
    exact .inl h
  | error cause => exact .inr ⟨cause, rfl⟩

/-- A receiver spawns a session for an invitation only. -/
lemma takingIn_of_spawned [Transport σ] (hR : R.KeptBy σ) {fresh : SessionId} {receiver : Session}
    (hr : receiver.role = .receiver) {r : Request} {net : σ}
    (hs : (receiver.process profile fresh (.request r) net).1.spawned = some s) :
    r.method = .invite ∧ ∃ tag t, R (.ringing r tag) t ∧ s = takingIn fresh r tag t := by
  rcases intake_process hR profile fresh hr (.request r) net with h | ⟨cause, h⟩
  · generalize (receiver.process profile fresh (.request r) net).1 = o at h hs
    cases h with
    | refused | consumed => cases hs
    | takesIn _ tag t he hm ht =>
      cases he
      cases hs
      exact ⟨hm, tag, t, ht, rfl⟩
  · rw [h] at hs
    cases hs

section TakingIn

variable (fresh : SessionId) (r : Request) (tag : Tag) (t : ServerTransaction)

@[simp] lemma takingIn_id : (takingIn fresh r tag t).id = fresh := by simp [takingIn, idle]

@[simp] lemma takingIn_role : (takingIn fresh r tag t).role = .dialog := by simp [takingIn, idle]

end TakingIn

end Session

end SipAgent