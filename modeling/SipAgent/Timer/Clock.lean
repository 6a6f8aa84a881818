import SipAgent.Error
import SipAgent.Timer

/-!
# A timer on a clock

A timer together with the clock it reads and the alarm it sets. The clock moves only when it is told
to, and the alarm notes what it is set to, so whoever holds the clock decides when the alarm rings:
on time, late, twice, or for nothing.
-/

namespace SipAgent

/-- A one-shot alarm that is rung by hand. -/
structure Alarm where
  /-- The alarm has been set, and has neither rung nor been taken back since. -/
  isSet : Bool
  /-- The alarm is too late to stop: it stays set when it is taken back. -/
  late : Bool
  /-- How often the alarm was set. -/
  arms : Nat
  /-- How often the alarm was taken back. -/
  disarms : Nat
  deriving DecidableEq, Repr

/-- The alarm after an order. -/
def Alarm.obey (a : Alarm) : AlarmOrder → Alarm
  | .arm _ => { a with isSet := true, arms := a.arms + 1 }
  | .disarm => { a with isSet := a.isSet && a.late, disarms := a.disarms + 1 }

/-- What is done with a timer. -/
inductive TimerAction (κ : Type) where
  | set (delay : Nat) (callback : κ)
  | cancel (callback : κ)
  | stop
  deriving DecidableEq, Repr

/-- A timer, the moment on its clock, and its alarm. -/
structure Clock (κ : Type) where
  timer : Timer κ
  now : Nat
  alarm : Alarm
  deriving DecidableEq, Repr

namespace Clock

variable {κ : Type}

/-- A timer without wake-ups, at the start of its clock. -/
def start (late : Bool) : Clock κ :=
  ⟨.empty, 0, ⟨false, late, 0, 0⟩⟩

/-- The clock with another timer, and the order that the timer gave to the alarm. -/
def adopt (c : Clock κ) (timer : Timer κ) (order : Option AlarmOrder) : Clock κ :=
  { c with timer := timer, alarm := order.elim c.alarm c.alarm.obey }

/-- Do one thing with the timer. -/
def act [DecidableEq κ] (c : Clock κ) : TimerAction κ → Except AgentError (Clock κ)
  | .set delay callback =>
    match c.timer.set c.now delay callback with
    | some (timer, order) => .ok (c.adopt timer order)
    | none => .error .timerStopped
  | .cancel callback => .ok (c.adopt (c.timer.cancel callback).1 (c.timer.cancel callback).2)
  | .stop => .ok (c.adopt c.timer.stop.1 c.timer.stop.2)

/-- The alarm rings; the result is the callback of the wake-up that has come due, if one has. -/
def ring (c : Clock κ) : Option κ × Clock κ :=
  let c := { c with alarm := { c.alarm with isSet := false } }
  let (woken, timer, order) := c.timer.ring c.now
  (woken.map (·.callback), c.adopt timer order)

/-- Whether the timer waits for its alarm to ring at this moment. -/
def isRinging (c : Clock κ) : Bool :=
  c.timer.isRinging c.now

/-- Let the clock go on to a moment; it never goes back. -/
def moveTo (c : Clock κ) (moment : Nat) : Clock κ :=
  { c with now := max c.now moment }

end Clock

end SipAgent
