import SipAgent.Group.Operations

/-!
# Actions on a group

Everything that an application, a network and a clock can do with a group, as data. `Group.act`
carries one action out, so a history of a group is a list of actions and what it left to hand over.
-/

namespace SipAgent

/-- What is done with a group. -/
inductive Action where
  | createSession (listener : Listener)
  /-- The user gives a session a command. -/
  | command (session : SessionId) (event : SessionEvent)
  | setListener (session : SessionId) (listener : Listener)
  | openToCalls (listener : Listener)
  | closeToCalls
  /-- The network hands a signal over. -/
  | signal (s : Signal)
  | startRegistration (listener : Listener)
  | stopRegistration
  | setRegistrationListener (listener : Listener)
  /-- The data connection goes up or down. -/
  | setConnected (up : Bool)
  /-- The clock goes on, in milliseconds. -/
  | tick (milliseconds : Nat)
  /-- The alarm of the timer rings. -/
  | ring
  | stopTimer
  | close
  deriving DecidableEq, Repr

/-- What an action answers. -/
inductive Answer where
  | done
  | created (session : SessionId)
  /-- Whether a session consumed the signal. -/
  | consumed (processed : Bool)
  | refused (cause : AgentError)
  deriving DecidableEq, Repr

namespace Group

variable {σ : Type}

/-- A change with another result. -/
def answering {α : Type} (c : Change σ α) (answer : α → Answer) : Change σ Answer :=
  ⟨c.group, c.deliveries, answer c.result⟩

/-- The answer of what succeeds or is refused. -/
def answerOf : Except AgentError Unit → Answer
  | .ok () => .done
  | .error cause => .refused cause

/-- The alarm rings: if a wake-up has come due, the group wakes up for it. -/
def ring [Transport σ] (g : Group σ) : Change σ Unit :=
  match g.ringAlarm with
  | (some call, g) => g.wake call
  | (none, g) => ⟨g, [], ()⟩

/-- Do one thing with a group. -/
def act [Transport σ] (g : Group σ) : Action → Change σ Answer
  | .createSession l =>
    match g.createSession l with
    | .ok (id, g) => ⟨g, [], .created id⟩
    | .error cause => ⟨g, [], .refused cause⟩
  | .command id e => answering (g.command id e) answerOf
  | .setListener id l => ⟨g.setListener id l, [], .done⟩
  | .openToCalls l =>
    match g.openToCalls l with
    | .ok g => ⟨g, [], .done⟩
    | .error cause => ⟨g, [], .refused cause⟩
  | .closeToCalls => ⟨g.closeToCalls, [], .done⟩
  | .signal s => answering (g.processSignal s) .consumed
  | .startRegistration l => answering (g.startRegistration l) answerOf
  | .stopRegistration => answering g.stopRegistration fun _ => .done
  | .setRegistrationListener l => answering (g.setRegistrationListener l) fun _ => .done
  | .setConnected up => answering (g.setConnected up) fun _ => .done
  | .tick milliseconds => ⟨g.tick milliseconds, [], .done⟩
  | .ring => answering g.ring fun _ => .done
  | .stopTimer => ⟨g.stopTimer, [], .done⟩
  | .close => answering g.close fun _ => .done

end Group

end SipAgent
