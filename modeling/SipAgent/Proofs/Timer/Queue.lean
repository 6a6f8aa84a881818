import Mathlib.Data.List.Count
import SipAgent.Timer

/-!
# What is queued in a timer

The view of a timer on which its users rely: how many wake-ups it holds for a callback. Every
operation is told by what it does to these numbers, whatever the moments at which wake-ups are due.
-/

namespace SipAgent

namespace Timer

variable {κ : Type} {t : Timer κ} {callback : κ} {now delay : Nat}

/-! ### Queues and alarms -/

@[simp] lemma armForHead_queue (t : Timer κ) : t.armForHead.1.queue = t.queue := by
  unfold armForHead
  split <;> rfl

@[simp] lemma armForHead_stopped (t : Timer κ) : t.armForHead.1.stopped = t.stopped := by
  unfold armForHead
  split <;> rfl

lemma set_eq_none (h : t.stopped = true) : t.set now delay callback = none := by
  simp [set, h]

/-- A timer that runs takes every wake-up, whatever becomes of its alarm. -/
lemma exists_set (h : t.stopped = false) (now delay : Nat) (callback : κ) :
    ∃ t' order, t.set now delay callback = some (t', order) ∧ t'.stopped = false ∧
      t'.queue = enqueue ⟨now + delay, t.nextSeq, callback⟩ t.queue := by
  let queue := enqueue ⟨now + delay, t.nextSeq, callback⟩ t.queue
  let longer : Timer κ := { t with queue := queue, nextSeq := t.nextSeq + 1 }
  have harmed : longer.armForHead.1.stopped = false ∧ longer.armForHead.1.queue = queue := by
    constructor
    · exact (armForHead_stopped longer).trans h
    · exact armForHead_queue longer
  rw [set, if_neg (by simp [h])]
  dsimp only
  split
  · split
    · exact ⟨_, _, rfl, harmed⟩
    · exact ⟨_, _, rfl, h, rfl⟩
  · exact ⟨_, _, rfl, harmed⟩

@[simp] lemma ring_stopped (now : Nat) (t : Timer κ) : (t.ring now).2.1.stopped = t.stopped := by
  unfold ring
  split <;> simp

@[simp] lemma stop_stopped (t : Timer κ) : t.stop.1.stopped = true := by
  unfold stop
  split
  · assumption
  · rfl

variable [DecidableEq κ]

@[simp] lemma cancel_stopped (callback : κ) (t : Timer κ) :
    (t.cancel callback).1.stopped = t.stopped := by
  unfold cancel
  dsimp only
  split_ifs <;> simp

lemma cancel_queue (callback : κ) (t : Timer κ) :
    (t.cancel callback).1.queue = t.queue.filter fun w => w.callback ≠ callback := by
  unfold cancel
  dsimp only
  split_ifs with h
  · exact (List.filter_eq_self.mpr (List.length_filter_eq_length_iff.mp h)).symm
  · rfl
  · simp

/-! ### The number of wake-ups for a callback -/

/-- How many wake-ups are queued for a callback. -/
def queued (t : Timer κ) (callback : κ) : Nat :=
  (t.queue.map (·.callback)).count callback

lemma queued_pos_iff : 0 < t.queued callback ↔ ∃ w ∈ t.queue, w.callback = callback := by
  simp [queued, List.count_pos_iff]

lemma queue_eq_nil_iff : t.queue = [] ↔ ∀ callback, t.queued callback = 0 := by
  constructor
  · intro h callback
    simp [queued, h]
  · intro h
    cases hqueue : t.queue with
    | nil => rfl
    | cons w rest =>
      have hw : 0 < t.queued w.callback := queued_pos_iff.mpr ⟨w, by simp [hqueue], rfl⟩
      rw [h] at hw
      cases hw

lemma queued_cancel (callback : κ) (t : Timer κ) (other : κ) :
    (t.cancel callback).1.queued other = if other = callback then 0 else t.queued other := by
  simp only [queued, cancel_queue, List.count, List.countP_map, List.countP_filter]
  split
  · next h =>
    subst h
    rw [List.countP_eq_zero]
    simp
  · next h =>
    apply List.countP_congr
    intro w _
    by_cases hw : w.callback = other <;> simp [hw, h]

lemma count_enqueue (w : WakeUp κ) (queue : List (WakeUp κ)) (callback : κ) :
    ((enqueue w queue).map (·.callback)).count callback =
      (queue.map (·.callback)).count callback + if w.callback = callback then 1 else 0 := by
  induction queue with
  | nil => simp [enqueue, List.count_cons]
  | cons x rest ih =>
    unfold enqueue
    split
    · simp [List.count_cons]
    · simp only [List.map_cons, List.count_cons, ih]
      omega

lemma queued_set {t' : Timer κ} {order : Option AlarmOrder}
    (h : t.set now delay callback = some (t', order)) (other : κ) :
    t'.stopped = false ∧
      t'.queued other = t.queued other + if callback = other then 1 else 0 := by
  cases hstopped : t.stopped with
  | true => rw [set_eq_none hstopped] at h; cases h
  | false =>
    obtain ⟨t'', order', hset, hruns, hqueue⟩ := exists_set hstopped now delay callback
    rw [h] at hset
    cases hset
    exact ⟨hruns, by rw [queued, hqueue, count_enqueue]; rfl⟩

/-- The wake-up that the alarm lets out is the only one that leaves the queue. -/
lemma queued_ring (now : Nat) (t : Timer κ) (callback : κ) :
    t.queued callback = (t.ring now).2.1.queued callback +
      ((t.ring now).1.map (·.callback)).toList.count callback := by
  unfold ring
  split
  · simp
  · cases hqueue : t.queue with
    | nil => simp [popDue, queued, hqueue]
    | cons w rest =>
      simp only [popDue]
      split
      · simp [queued, hqueue, List.count_cons]
      · simp [queued, hqueue]

lemma queued_stop (t : Timer κ) (callback : κ) :
    t.stop.1.queued callback = if t.stopped then t.queued callback else 0 := by
  unfold stop
  split <;> rfl

end Timer

end SipAgent
