import SipAgent.Proofs.Session.Process

/-!
# What a session asks of the network

`Session.Asks` lists the commands that a session can give about an event. Every one of them is about
the event itself or about something that the session holds: there is nothing else that a session
could name. `Session.gives_script` says that the list is complete, over any network.
-/

namespace SipAgent

namespace Session

variable {σ : Type} {profile : Profile} {s : Session} {e : SessionEvent}

/-- The commands that a session can give about an event, once the dialog that the event carries has
been attached to it. -/
inductive Asks (profile : Profile) (s : Session) (e : SessionEvent) : Command → Prop where
  /-- An invitation is declined in two ways only. -/
  | responds (r : Request) (status : UInt16) (hr : e = .request r ∨ s.invite = some r)
      (hstatus : r.method = .invite → status = 486 ∨ status = 487) :
      Asks profile s e (.respond r status)
  | rings (r : Request) (tag : Tag) (he : e = .request r) : Asks profile s e (.ringing r tag)
  | accepts (r : Request) (answer : Octets) (tag : Tag) (t : ServerTransaction)
      (hr : e = .request r ∨ s.invite = some r) :
      Asks profile s e (.acceptInvite r profile answer tag t)
  | registers (tag : Tag) (expiry : UInt32) (he : e.isRegistration) :
      Asks profile s e (.register profile tag expiry)
  | calls (callee : Uri) (offer : Octets) (tag : Tag) (he : e = .makeCall callee offer) :
      Asks profile s e (.invite profile callee offer tag)
  | changes (d : Dialog) (offer : Octets) (hd : s.dialog = some d) (he : e.isCommand) :
      Asks profile s e (.reinvite d offer)
  | authenticates (r : Response) (he : e = .response r) :
      Asks profile s e (.authenticate r profile.credentials)
  | acknowledges (r : Response) (d : Dialog) (he : e = .response r) (hd : s.dialog = some d) :
      Asks profile s e (.acknowledge r d)
  | hangsUp (d : Dialog) (hd : s.dialog = some d) : Asks profile s e (.bye d)
  | cancels (t : ClientTransaction) (ht : s.clientTransaction = some t) :
      Asks profile s e (.cancel t)

/-- The command by which a session gives up its dialog; nothing depends on its success. -/
def GivesUp (s : Session) (c : Command) : Prop :=
  ∃ d, s.dialog = some d ∧ c = .terminateDialog d

/-- A plan asks for nothing else. -/
lemma Plan.gives {script : Script Outcome} (h : Plan profile s e script) :
    script.Gives .nothing (Asks profile s e) s.GivesUp := by
  cases h with
  | refuses | still => trivial
  | settles r status he _ hstatus =>
    exact ⟨.responds r status (.inl he) fun h => .inl (hstatus h), fun _ _ => trivial⟩
  | byes r he hm =>
    refine ⟨.responds r 200 (.inl he) fun h => ?_, fun _ _ => trivial⟩
    rw [hm] at h
    cases h
  | rejects invite _ hinvite =>
    exact ⟨.responds invite 486 (.inr hinvite) fun _ => .inl rfl, fun _ _ => trivial⟩
  | withdraws r invite _ hinvite he hm =>
    refine ⟨.responds r 200 (.inl he) fun h => ?_, fun _ _ => ?_⟩
    · rw [hm] at h
      cases h
    · exact ⟨.responds invite 487 (.inr hinvite) fun _ => .inr rfl, fun _ _ => trivial⟩
  | accepts invite answer _ hinvite =>
    unfold acceptCall
    refine gives_withLocalTag (fun tag => ?_) s
    exact ⟨.accepts invite answer tag _ (.inr hinvite), fun _ _ => trivial⟩
  | acceptsChange r _ he =>
    unfold acceptChange
    refine gives_withLocalTag (fun tag => ?_) s
    exact ⟨.accepts r _ tag _ (.inl he), fun _ _ => trivial⟩
  | registers expiry next _ he => exact fun tag => ⟨.registers tag expiry he, fun _ _ => trivial⟩
  | calls callee offer _ he => exact fun tag => ⟨.calls callee offer tag he, fun _ _ => trivial⟩
  | startsChange offer _ he hscript =>
    have hcommand : e.isCommand := by rcases he with rfl | ⟨_, rfl⟩ <;> rfl
    unfold startChange at hscript
    split at hscript
    · cases hscript
    · next d hd =>
      cases hscript
      exact ⟨.changes d offer hd hcommand, fun _ _ => trivial⟩
  | challenged r _ he =>
    unfold authenticate
    split
    · trivial
    · split
      · trivial
      · exact ⟨.authenticates r he, fun _ _ => trivial⟩
  | acknowledges r _ he => exact gives_acknowledge (by trivial) s r fun d => .acknowledges r d he
  | endsAnswered r _ he =>
    refine gives_acknowledge ?_ s r fun d => .acknowledges r d he
    exact gives_hangUp (by trivial) s .hangsUp
  | hangsUp => exact gives_hangUp (by trivial) s .hangsUp
  | cancels => exact gives_cancelRequest (by trivial) s .cancels
  | abandons => exact gives_abandonDialog (by trivial) s fun d hd => ⟨d, hd, rfl⟩

lemma gives_receiverScript (profile : Profile) (s : Session) (fresh : SessionId)
    (e : SessionEvent) :
    (s.receiverScript fresh e).Gives .nothing (Asks profile (s.attaching e) e)
      (s.attaching e).GivesUp := by
  have hresponds : ∀ (r : Request) (status : UInt16), e = .request r → r.method ≠ .invite →
      (respond r status (.done s.consumed)).Gives .nothing (Asks profile (s.attaching e) e)
        (s.attaching e).GivesUp := fun r status he hm =>
    ⟨.responds r status (.inl he) fun h => absurd h hm, fun _ _ => trivial⟩
  unfold receiverScript
  split
  · next r =>
    split
    · exact fun tag => ⟨.rings r tag rfl, fun _ _ => trivial⟩
    · next hm => exact hresponds r 200 rfl (by rw [hm]; decide)
    · next hm => exact hresponds r 481 rfl (by rw [hm]; decide)
    · next hm => exact hresponds r 481 rfl (by rw [hm]; decide)
    · trivial
    · trivial
  · trivial

/-- Whatever a session is in, and whatever happens to it, it asks for nothing else. -/
theorem gives_script (profile : Profile) (fresh : SessionId) (s : Session) (e : SessionEvent) :
    (s.script profile fresh e).Gives .nothing (Asks profile (s.attaching e) e)
      (s.attaching e).GivesUp := by
  unfold script
  split
  · exact (plan_dialogScript profile s e).gives
  · exact gives_receiverScript profile s fresh e

end Session

end SipAgent
