import SipAgent.Transport.Command

/-!
# Scripts

How a session reacts to an event is a script: the commands it gives to the network, one after the
other, each reply deciding how it goes on. A script says nothing about the network, so whatever
holds of all its branches holds over every network. The first command that fails ends the script,
except for an attempt, whose outcome is ignored.
-/

namespace SipAgent

/-- Commands to the network, and a result when all of them succeed. -/
inductive Script (α : Type) where
  | done (value : α)
  | fail (cause : TransportError)
  | send (c : Command) (next : c.Reply → Script α)
  | attempt (c : Command) (next : Script α)
  | freshTag (next : Tag → Script α)

namespace Script

variable {α β σ : Type}

/-- Go on with the result of a script. -/
def bind (script : Script α) (next : α → Script β) : Script β :=
  match script with
  | .done value => next value
  | .fail cause => .fail cause
  | .send c k => .send c fun reply => (k reply).bind next
  | .attempt c k => .attempt c (k.bind next)
  | .freshTag k => .freshTag fun tag => (k tag).bind next

/-- Change the result of a script. -/
def map (f : α → β) (script : Script α) : Script β :=
  script.bind fun value => .done (f value)

/-- Run a script on a network. -/
def run [Transport σ] : Script α → σ → Except TransportError α × σ
  | .done value, net => (.ok value, net)
  | .fail cause, net => (.error cause, net)
  | .send c k, net =>
    match Transport.perform c net with
    | (.ok reply, net) => (k reply).run net
    | (.error cause, net) => (.error cause, net)
  | .attempt c k, net => k.run (Transport.perform c net).2
  | .freshTag k, net =>
    let (tag, net) := Transport.freshTag net
    (k tag).run net

/-! ### Small facts -/

@[simp] theorem bind_done (value : α) (next : α → Script β) :
    (Script.done value).bind next = next value := rfl

@[simp] theorem bind_send (c : Command) (k : c.Reply → Script α) (next : α → Script β) :
    (Script.send c k).bind next = .send c fun reply => (k reply).bind next := rfl

@[simp] theorem run_done [Transport σ] (value : α) (net : σ) :
    (Script.done value).run net = (.ok value, net) := rfl

@[simp] theorem run_fail [Transport σ] (cause : TransportError) (net : σ) :
    (Script.fail cause : Script α).run net = (.error cause, net) := rfl

end Script

end SipAgent
