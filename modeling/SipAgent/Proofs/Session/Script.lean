import Mathlib.Tactic.Lemma
import SipAgent.Session.Script

/-!
# What holds of all runs of a script

A script branches on the replies of the network. `Script.Meets` says that a property holds at the
end of every branch, whether the script gets through or a command is refused, as long as the replies
are as the network promises. `Meets.run` carries such a property over to a run on any network that
keeps its promise, so what is shown once of the branches holds over every network.
-/

namespace SipAgent

/-- What a network promises of the replies to its commands. -/
def Promise : Type :=
  (c : Command) → c.Reply → Prop

/-- The promise of a network that may answer anything. -/
def Promise.nothing : Promise :=
  fun _ _ => True

/-- Every reply of a network is as promised. -/
def Promise.KeptBy (R : Promise) (σ : Type) [Transport σ] : Prop :=
  ∀ (c : Command) (net net' : σ) (reply : c.Reply),
    Transport.perform c net = (.ok reply, net') → R c reply

lemma Promise.nothing_keptBy (σ : Type) [Transport σ] : Promise.nothing.KeptBy σ :=
  fun _ _ _ _ _ => trivial

namespace Script

variable {α σ : Type} {R : Promise} {P Q : Except TransportError α → Prop}

lemma run_freshTag [Transport σ] (next : Tag → Script α) (net : σ) :
    (Script.freshTag next).run net =
      (next (Transport.freshTag net).1).run (Transport.freshTag net).2 := rfl

lemma run_attempt [Transport σ] (c : Command) (next : Script α) (net : σ) :
    (Script.attempt c next).run net = next.run (Transport.perform c net).2 := rfl

/-- A script goes on with the reply to a command that is carried out. -/
lemma run_send_of_perform [Transport σ] {c : Command} {next : c.Reply → Script α} {net net' : σ}
    {reply : c.Reply} (h : Transport.perform c net = (.ok reply, net')) :
    (Script.send c next).run net = (next reply).run net' := by
  rw [run, h]

/-- A script that begins with a command gets through only if the command is carried out. -/
lemma perform_of_run_send [Transport σ] {c : Command} {next : c.Reply → Script α} {net : σ}
    {value : α} (h : ((Script.send c next).run net).1 = .ok value) :
    ∃ reply net', Transport.perform c net = (.ok reply, net') ∧
      ((next reply).run net').1 = .ok value := by
  rcases hreply : Transport.perform c net with ⟨cause | reply, net'⟩
  · rw [run, hreply] at h
    cases h
  · rw [run_send_of_perform hreply] at h
    exact ⟨reply, net', rfl, h⟩

/-- The property holds at the end of every branch that promised replies can take, and wherever a
command may be refused. -/
def Meets (R : Promise) (P : Except TransportError α → Prop) : Script α → Prop
  | .done value => P (.ok value)
  | .fail cause => P (.error cause)
  | .send c next => (∀ cause, P (.error cause)) ∧ ∀ reply, R c reply → (next reply).Meets R P
  | .attempt _ next => next.Meets R P
  | .freshTag next => ∀ tag, (next tag).Meets R P

@[simp] lemma meets_done (value : α) : (Script.done value).Meets R P ↔ P (.ok value) := Iff.rfl

@[simp] lemma meets_fail (cause : TransportError) :
    (Script.fail cause : Script α).Meets R P ↔ P (.error cause) := Iff.rfl

lemma Meets.send {c : Command} {next : c.Reply → Script α} (refused : ∀ cause, P (.error cause))
    (h : ∀ reply, R c reply → (next reply).Meets R P) : (Script.send c next).Meets R P :=
  ⟨refused, h⟩

/-- A property of all branches holds of a run on a network that keeps its promise. -/
theorem Meets.run [Transport σ] (hR : R.KeptBy σ) {script : Script α} (h : script.Meets R P)
    (net : σ) : P (script.run net).1 := by
  induction script generalizing net with
  | done value => exact h
  | fail cause => exact h
  | send c next ih =>
    obtain ⟨refused, h⟩ := h
    simp only [Script.run]
    split
    · next reply net' hreply => exact ih reply (h reply (hR c net net' reply hreply)) net'
    · next cause net' _ => exact refused cause
  | attempt c next ih => exact ih h _
  | freshTag next ih => exact ih _ (h _) _

/-! ### Commands given -/

/-- The commands that a run gives to the network, in order. If the network refuses one, it is the
last. -/
def commands [Transport σ] : Script α → σ → List Command
  | .done _, _ => []
  | .fail _, _ => []
  | .send c next, net =>
    match Transport.perform c net with
    | (.ok reply, net) => c :: (next reply).commands net
    | (.error _, _) => [c]
  | .attempt c next, net => c :: next.commands (Transport.perform c net).2
  | .freshTag next, net =>
    let (tag, net) := Transport.freshTag net
    (next tag).commands net

@[simp] lemma commands_done [Transport σ] (value : α) (net : σ) :
    (Script.done value).commands net = [] := rfl

lemma eq_of_head?_commands [Transport σ] {c first : Command} {next : c.Reply → Script α} {net : σ}
    (h : ((Script.send c next).commands net).head? = some first) : c = first := by
  simp only [commands] at h
  split at h <;> exact Option.some.inj h

/-! ### Refused commands -/

/-- The command of a run that the network refused, and why. -/
def refusal? [Transport σ] : Script α → σ → Option (Command × TransportError)
  | .done _, _ => none
  | .fail _, _ => none
  | .send c next, net =>
    match Transport.perform c net with
    | (.ok reply, net) => (next reply).refusal? net
    | (.error cause, _) => some (c, cause)
  | .attempt c next, net => next.refusal? (Transport.perform c net).2
  | .freshTag next, net =>
    let (tag, net) := Transport.freshTag net
    (next tag).refusal? net

/-- No branch fails by itself: whatever goes wrong is a command that the network refuses. -/
def Unfailing : Script α → Prop
  | .done _ => True
  | .fail _ => False
  | .send _ next => ∀ reply, (next reply).Unfailing
  | .attempt _ next => next.Unfailing
  | .freshTag next => ∀ tag, (next tag).Unfailing

lemma Unfailing.refused [Transport σ] {script : Script α} (h : script.Unfailing) {net : σ}
    {cause : TransportError} (hrun : (script.run net).1 = .error cause) :
    (script.refusal? net).isSome := by
  induction script generalizing net with
  | done value => simp at hrun
  | fail cause => exact h.elim
  | send c next ih =>
    simp only [Script.run, refusal?] at hrun ⊢
    rcases hreply : Transport.perform c net with ⟨_ | reply, net'⟩
    · rfl
    · rw [hreply] at hrun
      exact ih reply (h reply) hrun
  | attempt c next ih => exact ih h hrun
  | freshTag next ih => exact ih _ (h _) hrun

end Script

end SipAgent
