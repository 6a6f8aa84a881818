import Mathlib.Tactic.Lemma
import SipAgent.Proofs.Session.Script
import SipAgent.Transport.Recorder

/-!
# What the recorder promises

The handles that a recorder gives back belong to the request, the dialog or the transaction that the
command was about: `Recorder.promise` says how, command by command, whatever state the recorder is
in.
-/

namespace SipAgent

namespace Recorder

/-- What the recorder promises of the replies to its commands. -/
def promise : Promise
  | .register .., t => t.method = .register
  | .invite .., reply => reply.1.method = .invite ∧ reply.2.callId = reply.1.callId
  | .reinvite dialog _, t => t.method = .invite ∧ t.callId = dialog.callId
  | .ringing request _, t => t = request.serverTransaction
  | .acceptInvite request .., dialog => dialog.callId = request.callId
  | .authenticate response _, t => t.method = response.method ∧ t.callId = response.callId
  | _, _ => True

/-- A recorded command is answered as its last part says. -/
lemma record_ok {α : Type} {r r' : Recorder} {c : Recorded} {next : Recorder → α × Recorder}
    {value : α} (h : r.record c next = (.ok value, r')) :
    (next { r with commands := r.commands ++ [c] }).1 = value := by
  unfold record at h
  split at h
  · cases h
  · cases h
    rfl

/-- A recorder keeps its promise in every state. -/
theorem keeps_promise : promise.KeptBy Recorder := by
  intro c net net' reply h
  change perform c net = (.ok reply, net') at h
  cases c with
  | cancel | bye | respond | acknowledge | keepalive | terminateDialog => trivial
  | register profile tag expiry =>
    simp only [perform] at h
    rw [← record_ok h]
    rfl
  | invite profile callee offer tag =>
    simp only [perform] at h
    rw [← record_ok h]
    exact ⟨rfl, rfl⟩
  | reinvite dialog offer =>
    simp only [perform] at h
    rw [← record_ok h]
    exact ⟨rfl, rfl⟩
  | ringing request tag =>
    simp only [perform] at h
    rw [← record_ok h]
    rfl
  | acceptInvite request profile answer tag transaction =>
    simp only [perform] at h
    rw [← record_ok h]
    rfl
  | authenticate response credentials =>
    simp only [perform] at h
    rw [← record_ok h]
    exact ⟨rfl, rfl⟩

end Recorder

end SipAgent
