import SipAgent.Proofs.Transport.Journal
import SipAgent.Transport.Recorder

/-!
# Commands under one Call-ID

Every command goes out under a Call-ID: that of the message or of the handle that it is about, and
registrations under the one that they share. `Recorder.Carries` says what becomes of a recorder that
carries out commands under one Call-ID only: it records commands under this Call-ID, draws some
identifiers, and nothing else of it changes.
-/

namespace SipAgent

/-- The Call-ID under which a command goes out, given the one that registrations share. An invitation
draws its own, and a keepalive has none that matters. -/
def Command.callId? (registrations : Option CallId) : Command → Option CallId
  | .register .. => registrations
  | .invite .. => none
  | .reinvite dialog _ => dialog.callId
  | .cancel transaction => transaction.callId
  | .bye dialog => dialog.callId
  | .respond request _ => request.callId
  | .ringing request _ => request.callId
  | .acceptInvite request .. => request.callId
  | .acknowledge response _ => response.callId
  | .authenticate response _ => response.callId
  | .keepalive _ => none
  | .terminateDialog dialog => dialog.callId

/-- The Call-ID of a recorded command. -/
def Recorded.callId? : Recorded → Option CallId
  | .register callId _ => callId
  | .invite callId .. => callId
  | .reinvite callId _ => callId
  | .cancel callId => callId
  | .bye callId => callId
  | .response callId .. => callId
  | .ringing callId => callId
  | .inviteOk callId _ => callId
  | .ack callId => callId
  | .challenge callId _ => callId
  | .keepalive => none
  | .terminateDialog callId => callId

/-! ### Draws -/

namespace IdSupply

/-- The supply after some draws. -/
def after (supply : IdSupply) : Nat → IdSupply
  | 0 => supply
  | draws + 1 => (supply.after draws).next

@[simp] lemma after_zero (supply : IdSupply) : supply.after 0 = supply := rfl

lemma after_succ (supply : IdSupply) (draws : Nat) :
    supply.after (draws + 1) = (supply.after draws).next := rfl

lemma after_after (supply : IdSupply) (first later : Nat) :
    (supply.after first).after later = supply.after (first + later) := by
  induction later with
  | zero => rfl
  | succ later ih => rw [after_succ, ih, ← Nat.add_assoc, after_succ]

end IdSupply

namespace Recorder

/-- The second recorder is what becomes of the first one when it carries out commands under one
Call-ID. -/
structure Carries (key : CallId) (r r' : Recorder) : Prop where
  host : r'.host = r.host
  address : r'.address = r.address
  registrationCallId : r'.registrationCallId = r.registrationCallId
  failing : r'.failing = r.failing
  unreachable : r'.unreachable = r.unreachable
  commands : ∃ more, r'.commands = r.commands ++ more ∧ ∀ c ∈ more, c.callId? = some key
  supply : ∃ draws, r'.supply = r.supply.after draws

variable {key : CallId} {r r₁ r' : Recorder}

namespace Carries

lemma refl (key : CallId) (r : Recorder) : Carries key r r :=
  ⟨rfl, rfl, rfl, rfl, rfl, ⟨[], by simp, by simp⟩, ⟨0, rfl⟩⟩

lemma trans (h : Carries key r r₁) (h' : Carries key r₁ r') : Carries key r r' where
  host := h'.host.trans h.host
  address := h'.address.trans h.address
  registrationCallId := h'.registrationCallId.trans h.registrationCallId
  failing := h'.failing.trans h.failing
  unreachable := h'.unreachable.trans h.unreachable
  commands := by
    obtain ⟨more, hmore, hkey⟩ := h.commands
    obtain ⟨more', hmore', hkey'⟩ := h'.commands
    refine ⟨more ++ more', by rw [hmore', hmore, List.append_assoc], fun c hc => ?_⟩
    exact (List.mem_append.mp hc).elim (hkey c) (hkey' c)
  supply := by
    obtain ⟨draws, hdraws⟩ := h.supply
    obtain ⟨draws', hdraws'⟩ := h'.supply
    exact ⟨draws + draws', by rw [hdraws', hdraws, IdSupply.after_after]⟩

lemma drawTag (key : CallId) (r : Recorder) : Carries key r r.drawTag.2 := by
  simp only [Recorder.drawTag]
  exact ⟨rfl, rfl, rfl, rfl, rfl, ⟨[], (List.append_nil _).symm, by simp⟩, ⟨1, rfl⟩⟩

lemma openTransaction (key : CallId) (r : Recorder) (method : Method) (callId : CallId) :
    Carries key r (r.openTransaction method callId).2 :=
  ⟨rfl, rfl, rfl, rfl, rfl, ⟨[], (List.append_nil _).symm, by simp⟩, ⟨1, rfl⟩⟩

/-- A command is recorded, or refused. -/
lemma record {α : Type} {c : Recorded} (hc : c.callId? = some key) (next : Recorder → α × Recorder)
    (hnext : ∀ r, Carries key r (next r).2) : Carries key r (r.record c next).2 := by
  unfold Recorder.record
  split
  · exact .refl key r
  · have hrecorded : Carries key r { r with commands := r.commands ++ [c] } :=
      ⟨rfl, rfl, rfl, rfl, rfl, ⟨[c], rfl, List.forall_mem_singleton.mpr hc⟩, ⟨0, rfl⟩⟩
    exact hrecorded.trans (hnext _)

lemma perform {c : Command} (hc : c.callId? r.registrationCallId = some key) :
    Carries key r (Recorder.perform c r).2 := by
  cases c with
  | register profile tag expiry =>
    have hid : r.registrationId = (key, r) := by
      have hregistered : r.registrationCallId = some key := hc
      simp only [registrationId, hregistered]
    simp only [Recorder.perform, hid]
    exact .record rfl _ fun r => .openTransaction key r _ _
  | invite => cases hc
  | keepalive => cases hc
  | reinvite | authenticate =>
    refine .record ?_ _ fun r => .openTransaction key r _ _
    exact hc
  | _ =>
    refine .record ?_ _ fun r => .refl key r
    exact hc

/-- A script whose commands are under one Call-ID. -/
theorem run {α : Type} {script : Script α} {registrations : Option CallId}
    (h : script.Gives .nothing (·.callId? registrations = some key)
      (·.callId? registrations = some key))
    (hr : r.registrationCallId = registrations) : Carries key r (script.run r).2 := by
  induction script generalizing r with
  | done value => exact .refl key r
  | fail cause => exact .refl key r
  | send c next ih =>
    obtain ⟨hc, hnext⟩ := h
    have hperform := Carries.perform (r := r) (c := c) (hr ▸ hc)
    have hregistrations := hperform.registrationCallId.trans hr
    simp only [Script.run]
    split
    · next reply r' hreply =>
      have hsame : (Recorder.perform c r).2 = r' := congrArg Prod.snd hreply
      rw [hsame] at hperform hregistrations
      exact hperform.trans (ih reply (hnext reply trivial) hregistrations)
    · next cause r' hreply =>
      have hsame : (Recorder.perform c r).2 = r' := congrArg Prod.snd hreply
      exact hsame ▸ hperform
  | attempt c next ih =>
    obtain ⟨hc, hnext⟩ := h
    have hperform := Carries.perform (r := r) (c := c) (hr ▸ hc)
    exact hperform.trans (ih hnext (hperform.registrationCallId.trans hr))
  | freshTag next ih =>
    have hdraw := Carries.drawTag key r
    rw [Script.run_freshTag]
    exact hdraw.trans (ih _ (h _) (hdraw.registrationCallId.trans hr))

end Carries

end Recorder

end SipAgent
