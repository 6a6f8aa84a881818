import SipAgent.Proofs.Session.Asking
import SipAgent.Proofs.Session.Registration
import SipAgent.Proofs.Session.Shape
import SipAgent.Proofs.Transport.Carrying

/-!
# Sessions within one Call-ID

A session names nothing but what it holds and what the event brings. When all of this belongs to one
Call-ID, so does every command that the session gives (`Session.Within.gives_script`), the key that it
has afterwards, and every key that it asks the registry for.
-/

namespace SipAgent

/-- A message and the dialog that it carries belong to one Call-ID; a command is to register, and
registrations go out under this Call-ID. -/
structure SessionEvent.Within (registrations : Option CallId) (key : CallId) (e : SessionEvent) :
    Prop where
  request : ∀ r, e = .request r → r.callId = key
  response : ∀ r, e = .response r → r.callId = key
  dialog : ∀ d, e.dialog? = some d → d.callId = key
  command : e.isCommand = true → e.isRegistration = true ∧ registrations = some key

namespace Session

variable {profile : Profile} {s : Session} {e : SessionEvent} {key : CallId}
  {registrations : Option CallId}

/-- Nothing that the session holds belongs to another Call-ID. -/
structure Within (s : Session) (key : CallId) : Prop where
  own : ∀ k, s.key = some k → k = key
  dialog : ∀ d, s.dialog = some d → d.callId = key
  clientTransaction : ∀ t, s.clientTransaction = some t → t.callId = key
  invite : ∀ r, s.invite = some r → r.callId = key

lemma within_idle (id : SessionId) (role : Role) (key : CallId) : (idle id role).Within key where
  own k h := by cases h
  dialog d h := by cases h
  clientTransaction t h := by cases h
  invite r h := by cases h

/-- A session has its key for all that it holds. -/
lemma Shaped.within (hs : s.Shaped) (hkey : ∀ k, s.key = some k → k = key) : s.Within key := by
  cases hs with
  | idle id => exact within_idle id .dialog key
  | busy k hb =>
    obtain rfl := hkey k hb.under.own
    exact ⟨hkey, hb.under.dialog, hb.under.clientTransaction, hb.under.invite⟩

namespace Within

lemma attaching (hs : s.Within key) (he : e.Within registrations key) :
    (s.attaching e).Within key := by
  unfold Session.attaching
  split
  · next d hd =>
    refine ⟨hs.own, ?_, hs.clientTransaction, hs.invite⟩
    rintro _ ⟨⟩
    exact he.dialog d hd
  · exact hs

lemma asks (hs : s.Within key) (he : e.Within registrations key) {c : Command}
    (h : Asks profile s e c) : c.callId? registrations = some key := by
  cases h with
  | responds r _ hr | accepts r _ _ _ hr =>
    exact congrArg some (hr.elim (he.request r) (hs.invite r))
  | rings r _ hr => exact congrArg some (he.request r hr)
  | registers _ _ hr => exact (he.command (isCommand_of_isRegistration hr)).2
  | calls callee offer _ hcall =>
    subst hcall
    obtain ⟨hnot, -⟩ := he.command rfl
    cases hnot
  | changes d _ hd | hangsUp d hd => exact congrArg some (hs.dialog d hd)
  | authenticates r hr | acknowledges r _ hr => exact congrArg some (he.response r hr)
  | cancels t ht => exact congrArg some (hs.clientTransaction t ht)

/-- Everything that the session asks for goes out under the Call-ID. -/
theorem gives_script (hs : s.Within key) (he : e.Within registrations key) (profile : Profile)
    (fresh : SessionId) :
    (s.script profile fresh e).Gives .nothing (·.callId? registrations = some key)
      (·.callId? registrations = some key) := by
  have hattached := hs.attaching he
  refine (Session.gives_script profile fresh s e).mono (fun c hc => hattached.asks he hc) ?_
  rintro _ ⟨d, hd, rfl⟩
  exact congrArg some (hattached.dialog d hd)

end Within

end Session

/-! ### Registrations over a recorder -/

namespace Recorder

variable {r r' : Recorder}

/-- The Call-ID of registrations, once there is one, stays the same. -/
def Retains (r r' : Recorder) : Prop :=
  ∀ key, r.registrationCallId = some key → r'.registrationCallId = some key

namespace Retains

lemma refl (r : Recorder) : Retains r r :=
  fun _ h => h

lemma trans {r₁ : Recorder} (h : Retains r r₁) (h' : Retains r₁ r') : Retains r r' :=
  fun key hkey => h' key (h key hkey)

lemma of_eq (h : r'.registrationCallId = r.registrationCallId) : Retains r r' :=
  fun _ hkey => h.trans hkey

-- Drawing identifiers is stated for any later supply, so that nobody computes with the next one.
lemma supplying (r : Recorder) (supply : IdSupply) : Retains r { r with supply := supply } :=
  fun _ h => h

lemma record {α : Type} (r : Recorder) (c : Recorded) (next : Recorder → α × Recorder)
    (hnext : ∀ r, Retains r (next r).2) : Retains r (r.record c next).2 := by
  unfold Recorder.record
  split
  · exact .refl r
  · exact hnext { r with commands := r.commands ++ [c] }

lemma registrationId (r : Recorder) : Retains r r.registrationId.2 := by
  intro key hkey
  simp only [Recorder.registrationId, hkey]

/-- No command makes a recorder forget it. -/
lemma perform (c : Command) (r : Recorder) : Retains r (Recorder.perform c r).2 := by
  have hopens : ∀ (r : Recorder) method callId, Retains r (r.openTransaction method callId).2 :=
    fun _ _ _ => .of_eq rfl
  cases c with
  | register profile tag expiry =>
    exact (registrationId r).trans (record _ _ _ fun r => hopens r _ _)
  | invite profile callee offer tag =>
    have hdraws : Retains r r.drawCallId.2 := supplying r r.supply.next
    exact hdraws.trans (record _ _ _ fun r => hopens r _ _)
  | reinvite | authenticate => exact record _ _ _ fun r => hopens r _ _
  | _ => exact record _ _ _ .refl

lemma run {α : Type} (script : Script α) (r : Recorder) : Retains r (script.run r).2 := by
  induction script generalizing r with
  | done value => exact .refl r
  | fail cause => exact .refl r
  | send c next ih =>
    have hperform := Retains.perform c r
    change Retains r (Transport.perform c r).2 at hperform
    simp only [Script.run]
    split
    · next reply r' hreply =>
      rw [hreply] at hperform
      exact hperform.trans (ih reply r')
    · next cause r' hreply =>
      rw [hreply] at hperform
      exact hperform
  | attempt c next ih => exact (Retains.perform c r).trans (ih _)
  | freshTag next ih =>
    have hdraw : Retains r r.drawTag.2 := supplying r r.supply.next
    rw [Script.run_freshTag]
    exact hdraw.trans (ih _ _)

end Retains

/-- A registration is sent under the Call-ID that registrations share. -/
lemma registrationCallId_of_register {profile : Profile} {tag : Tag} {expiry : UInt32}
    {t : ClientTransaction}
    (h : perform (.register profile tag expiry) r = (.ok t, r')) :
    r'.registrationCallId = some t.callId := by
  have hid : r.registrationId.2.registrationCallId = some r.registrationId.1 := by
    unfold registrationId
    split
    · next key hkey => exact hkey
    · rfl
  simp only [perform, record] at h
  split at h
  · cases h
  · cases h
    exact hid

end Recorder

namespace Session

variable {s : Session} {e : SessionEvent}

lemma process_snd {σ : Type} [Transport σ] (profile : Profile) (fresh : SessionId) (s : Session)
    (e : SessionEvent) (net : σ) :
    (s.process profile fresh e net).2 = ((s.script profile fresh e).run net).2 := by
  unfold process
  split <;> simp [*]

/-- The session registers under the Call-ID that registrations share. -/
def RegistersUnder (s : Session) (registrations : Option CallId) : Prop :=
  s.state.isRegistration = true → ∃ key, s.key = some key ∧ registrations = some key

/-- A session that sends a registration does so under the shared Call-ID. -/
lemma registersUnder_of_asked (profile : Profile) (fresh : SessionId) (hrole : s.role = .dialog)
    (hs : s.state = .ready) (he : e.isRegistration = true) (r : Recorder) :
    (s.process profile fresh e r).1.session.RegistersUnder
      (s.process profile fresh e r).2.registrationCallId := by
  obtain ⟨expiry, next, -, hscript⟩ := script_of_asked profile fresh hrole hs he
  rw [process_fst, process_snd, hscript, startRegistration, Script.run_freshTag]
  unfold Script.run
  split
  · next t r' hreply =>
    exact fun _ => ⟨t.callId, rfl, Recorder.registrationCallId_of_register hreply⟩
  · next cause r' hreply =>
    intro hbusy
    cases hbusy

/-- A session that goes on registering does so under the same Call-ID. -/
lemma Reaction.registersUnder {profile : Profile} {registrations : Option CallId} {o : Outcome}
    (h : Reaction Recorder.promise profile s e o)
    (hasked : ¬ (e.isRegistration = true ∧ s.state = .ready)) (hrecv : s.Receives e)
    (hs : s.RegistersUnder registrations) : o.session.RegistersUnder registrations := by
  cases h with
  | refused | consumed => exact hs
  | registers _ _ _ _ hready he => exact absurd ⟨he, hready⟩ hasked
  | challenged r t _ he _ _ ht =>
    intro hbusy
    obtain ⟨key, hkey, hregistrations⟩ := hs hbusy
    have hsame := (hrecv.response r he).symm.trans hkey
    exact ⟨key, (congrArg some ht.2).trans hsame, hregistrations⟩
  | ended | calls | alerted | answered | cancelsCall | accepts | confirmed | acceptsChange
  | changeConfirmed | startsChange | changed | cancelsChange | keepsCall =>
    intro hbusy
    cases hbusy

/-- Whatever happens to it, a session registers under the shared Call-ID only. -/
theorem registersUnder_process (profile : Profile) (fresh : SessionId) (hrole : s.role = .dialog)
    (hrecv : s.Receives e) {r : Recorder} (hs : s.RegistersUnder r.registrationCallId) :
    (s.process profile fresh e r).1.session.RegistersUnder
      (s.process profile fresh e r).2.registrationCallId := by
  by_cases hasked : e.isRegistration = true ∧ s.state = .ready
  · exact registersUnder_of_asked profile fresh hrole hasked.2 hasked.1 r
  have hkept : (s.process profile fresh e r).1.session.RegistersUnder r.registrationCallId := by
    rcases reaction_process Recorder.keeps_promise profile fresh hrole e r with h | ⟨cause, h⟩
    · refine h.registersUnder ?_ ?_ ?_
      · rwa [attaching_state]
      · exact ⟨by simpa using hrecv.request, by simpa using hrecv.response,
          by simpa using hrecv.dialog⟩
      · unfold RegistersUnder
        rwa [attaching_state, attaching_key]
    · rw [h]
      intro hbusy
      cases hbusy
  intro hbusy
  obtain ⟨key, hkey, hregistrations⟩ := hkept hbusy
  refine ⟨key, hkey, ?_⟩
  rw [process_snd]
  exact Recorder.Retains.run _ r key hregistrations

end Session

end SipAgent
