/-!
# The wake-up timer

A queue of wake-ups, each with the moment at which it is due, and one alarm that is kept set for the
earliest of them. Wake-ups that are due at the same moment keep the order in which they were set.
The alarm may ring early or late or twice: when it rings, at most one wake-up that is due leaves the
queue, and the alarm is set again for the next. Moments are milliseconds on the timer's clock.
-/

namespace SipAgent

/-- A wake-up that is queued. -/
structure WakeUp (κ : Type) where
  /-- The moment at which the wake-up is due. -/
  due : Nat
  /-- The number of wake-ups set before it. -/
  seq : Nat
  callback : κ
  deriving DecidableEq, Repr

/-- An order to the alarm: ring at a moment, or do not ring. -/
inductive AlarmOrder where
  | arm (deadline : Nat)
  | disarm
  deriving DecidableEq, Repr

/-- A timer whose wake-ups call back values of type `κ`. -/
structure Timer (κ : Type) where
  /-- The queued wake-ups, earliest first. -/
  queue : List (WakeUp κ)
  nextSeq : Nat
  /-- The moment for which the alarm is set. -/
  armedFor : Option Nat
  stopped : Bool
  deriving DecidableEq, Repr

namespace Timer

variable {κ : Type}

/-- A timer without wake-ups. -/
def empty : Timer κ :=
  ⟨[], 0, none, false⟩

/-- Queue a wake-up behind all that are due no later. -/
def enqueue (w : WakeUp κ) : List (WakeUp κ) → List (WakeUp κ)
  | [] => [w]
  | x :: rest => if w.due < x.due then w :: x :: rest else x :: enqueue w rest

/-- The moment at which the earliest wake-up is due. -/
def earliest? (t : Timer κ) : Option Nat :=
  t.queue.head?.map (·.due)

/-- Set the alarm for the earliest wake-up. -/
def armForHead (t : Timer κ) : Timer κ × Option AlarmOrder :=
  match t.earliest? with
  | some deadline => ({ t with armedFor := some deadline }, some (.arm deadline))
  | none => ({ t with armedFor := none }, some .disarm)

/-- Set a wake-up for `delay` from now. A stopped timer refuses it. -/
def set (now delay : Nat) (callback : κ) (t : Timer κ) :
    Option (Timer κ × Option AlarmOrder) :=
  if t.stopped then none
  else
    let due := now + delay
    let t' :=
      { t with queue := enqueue ⟨due, t.nextSeq, callback⟩ t.queue, nextSeq := t.nextSeq + 1 }
    match t.armedFor with
    | some armed => if due < armed then some t'.armForHead else some (t', none)
    | none => some t'.armForHead

/-- Take back every queued wake-up with a callback. -/
def cancel [DecidableEq κ] (callback : κ) (t : Timer κ) : Timer κ × Option AlarmOrder :=
  let kept := t.queue.filter fun w => w.callback ≠ callback
  let t' := { t with queue := kept }
  if kept.length = t.queue.length then (t, none)
  else if t'.earliest? = t.armedFor then (t', none)
  else t'.armForHead

/-- Drop all wake-ups and refuse new ones from now on. -/
def stop (t : Timer κ) : Timer κ × Option AlarmOrder :=
  if t.stopped then (t, none)
  else ({ t with queue := [], armedFor := none, stopped := true }, some .disarm)

/-- The queue without its earliest wake-up, and that wake-up, if it is due. -/
def popDue (now : Nat) : List (WakeUp κ) → Option (WakeUp κ) × List (WakeUp κ)
  | [] => (none, [])
  | w :: rest => if w.due ≤ now then (some w, rest) else (none, w :: rest)

/-- The alarm rings: the earliest wake-up leaves the queue if it is due, and the alarm is set again
for the one after it. A stopped timer does nothing. -/
def ring (now : Nat) (t : Timer κ) : Option (WakeUp κ) × Timer κ × Option AlarmOrder :=
  if t.stopped then (none, t, none)
  else
    let (woken, queue) := popDue now t.queue
    (woken, { t with queue := queue }.armForHead)

/-- The alarm keeps the time that it is set for: it has to ring by now. -/
def isRinging (now : Nat) (t : Timer κ) : Bool :=
  match t.armedFor with
  | some deadline => deadline ≤ now
  | none => false

/-- The number of queued wake-ups. -/
def pending (t : Timer κ) : Nat :=
  t.queue.length

end Timer

end SipAgent
