import SipAgent.Proofs.Timer.Queue

/-!
# The record of a timer

Whatever is done with a timer leaves a line: when it was done, what came of it, and which order the
alarm got. The clock never goes back, and apart from that anything may be done at any moment; the
alarm in particular may ring early, late, again and again, or for nothing. `Recorded` relates a
timer to the lines that led to it, and what is said about deliveries and about the alarm is said
about these lines.
-/

namespace SipAgent

/-- The wake-up comes before another one: it is due earlier, or it is due at the same moment and was
set earlier. -/
def WakeUp.Precedes {κ : Type} (w x : WakeUp κ) : Prop :=
  w.due < x.due ∨ w.due = x.due ∧ w.seq < x.seq

/-- How wake-ups compare in a heap, where the greatest one is on top: by the moment and then by the
number, both the other way round. -/
def WakeUp.rank {κ : Type} (w x : WakeUp κ) : Ordering :=
  (compare x.due w.due).then (compare x.seq w.seq)

/-- What came of one step of a timer. -/
inductive Happening (κ : Type) where
  /-- A wake-up was to be set for a delay, and the timer took it. -/
  | taken (delay : Nat) (w : WakeUp κ)
  /-- A wake-up was to be set, and the timer refused it. -/
  | refused (delay : Nat) (callback : κ)
  | cancelled (callback : κ)
  | stopped
  /-- The alarm rang, and a wake-up was given out, if one was due. -/
  | rang (woken : Option (WakeUp κ))
  deriving DecidableEq, Repr

/-- A line of the record. -/
structure TimerNote (κ : Type) where
  moment : Nat
  happening : Happening κ
  /-- The order that the alarm got. -/
  order : Option AlarmOrder
  deriving DecidableEq, Repr

namespace WakeUp

variable {κ : Type} {w x y : WakeUp κ}

lemma Precedes.trans (h : w.Precedes x) (h' : x.Precedes y) : w.Precedes y := by
  unfold Precedes at *
  omega

lemma Precedes.ne (h : w.Precedes x) : w ≠ x := by
  rintro rfl
  unfold Precedes at h
  omega

lemma Precedes.due_le (h : w.Precedes x) : w.due ≤ x.due := by
  unfold Precedes at h
  omega

/-- The wake-up that comes before is the greater one in a heap. -/
lemma rank_eq_gt_iff : w.rank x = .gt ↔ w.Precedes x := by
  rw [rank, Ordering.then_eq_gt, Nat.compare_eq_gt, Nat.compare_eq_gt, Nat.compare_eq_eq, Precedes,
    eq_comm (a := x.due)]

end WakeUp

namespace TimerNote

variable {κ : Type}

/-- The wake-up that the timer took. -/
def accepted? (note : TimerNote κ) : Option (WakeUp κ) :=
  match note.happening with
  | .taken _ w => some w
  | _ => none

/-- The wake-up that the timer gave out. -/
def delivered? (note : TimerNote κ) : Option (WakeUp κ) :=
  match note.happening with
  | .rang woken => woken
  | _ => none

lemma delivered?_eq_some {note : TimerNote κ} {w : WakeUp κ} :
    note.delivered? = some w ↔ note.happening = .rang (some w) := by
  unfold delivered?
  split
  · next woken hrang =>
    rw [hrang, Happening.rang.injEq]
  · next hnot =>
    constructor
    · nofun
    · exact fun hrang => absurd hrang (hnot _)

end TimerNote

namespace Timer

variable {κ : Type} {t t' : Timer κ} {now delay : Nat} {callback : κ} {w : WakeUp κ}
  {note : TimerNote κ} {notes : List (TimerNote κ)}

/-- The wake-ups that the timer took, in the order in which they were set. -/
def accepted (notes : List (TimerNote κ)) : List (WakeUp κ) :=
  notes.filterMap TimerNote.accepted?

/-- The wake-ups that the timer gave out, in the order in which it did. -/
def delivered (notes : List (TimerNote κ)) : List (WakeUp κ) :=
  notes.filterMap TimerNote.delivered?

/-- The timer has been stopped. -/
def WasStopped (notes : List (TimerNote κ)) : Prop :=
  ∃ note ∈ notes, note.happening = .stopped

/-! ### Steps -/

section Steps

variable [DecidableEq κ]

/-- What one step does, and the line that it leaves. -/
inductive Step (t : Timer κ) : TimerNote κ → Timer κ → Prop where
  | taken {now delay : Nat} {callback : κ} {t' : Timer κ} {order : Option AlarmOrder}
      (h : t.set now delay callback = some (t', order)) :
      Step t ⟨now, .taken delay ⟨now + delay, t.nextSeq, callback⟩, order⟩ t'
  | refused {now delay : Nat} {callback : κ} (h : t.set now delay callback = none) :
      Step t ⟨now, .refused delay callback, none⟩ t
  | cancelled (now : Nat) (callback : κ) :
      Step t ⟨now, .cancelled callback, (t.cancel callback).2⟩ (t.cancel callback).1
  | stopped (now : Nat) : Step t ⟨now, .stopped, t.stop.2⟩ t.stop.1
  | rang (now : Nat) : Step t ⟨now, .rang (t.ring now).1, (t.ring now).2.2⟩ (t.ring now).2.1

/-- A timer, and the lines that led to it, oldest first. -/
inductive Recorded : List (TimerNote κ) → Timer κ → Prop where
  | start : Recorded [] .empty
  | step {notes : List (TimerNote κ)} {t t' : Timer κ} {note : TimerNote κ} (h : Recorded notes t)
      (hclock : ∀ earlier ∈ notes, earlier.moment ≤ note.moment) (hstep : t.Step note t') :
      Recorded (notes ++ [note]) t'

/-- Two wake-ups are set, and the later one is due first. The alarm rings early and then late. -/
def opening : List (TimerNote Bool) :=
  [⟨0, .taken 5 ⟨5, 0, false⟩, some (.arm 5)⟩,
   ⟨1, .taken 3 ⟨4, 1, true⟩, some (.arm 4)⟩,
   ⟨2, .rang none, some (.arm 4)⟩,
   ⟨6, .rang (some ⟨4, 1, true⟩), some (.arm 5)⟩]

/-- What is left is taken back, a last wake-up is given out at once, and the timer is stopped. -/
def rehearsal : List (TimerNote Bool) :=
  opening ++
    [⟨6, .cancelled false, some .disarm⟩,
     ⟨6, .taken 0 ⟨6, 2, true⟩, some (.arm 6)⟩,
     ⟨6, .rang (some ⟨6, 2, true⟩), some .disarm⟩,
     ⟨7, .stopped, some .disarm⟩]

lemma recorded_opening : Recorded opening ⟨[⟨5, 0, false⟩], 2, some 5, false⟩ := by
  have late := Recorded.start.step (by simp) (Step.taken (rfl :
    Timer.empty.set 0 5 false = some (⟨[⟨5, 0, false⟩], 1, some 5, false⟩, some (.arm 5))))
  have early := late.step (by simp) (Step.taken (rfl :
    Timer.set 1 3 true _ = some (⟨[⟨4, 1, true⟩, ⟨5, 0, false⟩], 2, some 4, false⟩, some (.arm 4))))
  exact (early.step (by simp) (.rang 2)).step (by simp) (.rang 6)

lemma recorded_rehearsal : Recorded rehearsal ⟨[], 3, none, true⟩ := by
  have taken := (recorded_opening.step (by decide) (.cancelled 6 false)).step (by decide)
    (Step.taken (rfl :
      Timer.set 6 0 true _ = some (⟨[⟨6, 2, true⟩], 3, some 6, false⟩, some (.arm 6))))
  exact (taken.step (by decide) (.rang 6)).step (by decide) (.stopped 7)

end Steps

/-! ### One more line -/

@[simp] lemma accepted_append (notes more : List (TimerNote κ)) :
    accepted (notes ++ more) = accepted notes ++ accepted more :=
  List.filterMap_append

@[simp] lemma delivered_append (notes more : List (TimerNote κ)) :
    delivered (notes ++ more) = delivered notes ++ delivered more :=
  List.filterMap_append

@[simp] lemma accepted_singleton (note : TimerNote κ) :
    accepted [note] = note.accepted?.toList := by
  unfold accepted
  cases h : note.accepted? <;> simp [h]

@[simp] lemma delivered_singleton (note : TimerNote κ) :
    delivered [note] = note.delivered?.toList := by
  unfold delivered
  cases h : note.delivered? <;> simp [h]

lemma mem_delivered : w ∈ delivered notes ↔ ∃ note ∈ notes, note.happening = .rang (some w) := by
  simp [delivered, List.mem_filterMap, TimerNote.delivered?_eq_some]

lemma wasStopped_concat :
    WasStopped (notes ++ [note]) ↔ WasStopped notes ∨ note.happening = .stopped := by
  simp [WasStopped, or_and_right, exists_or]

/-! ### What each operation does to the queue -/

lemma perm_enqueue (w : WakeUp κ) (queue : List (WakeUp κ)) :
    (enqueue w queue).Perm (w :: queue) := by
  induction queue with
  | nil => exact .refl _
  | cons x rest ih =>
    unfold enqueue
    split
    · exact .refl _
    · exact (ih.cons x).trans (.swap w x rest)

lemma mem_enqueue {x : WakeUp κ} {queue : List (WakeUp κ)} :
    x ∈ enqueue w queue ↔ x = w ∨ x ∈ queue := by
  rw [(perm_enqueue w queue).mem_iff, List.mem_cons]

/-- A wake-up that was set after all others finds its place behind those that precede it. -/
lemma sorted_enqueue {queue : List (WakeUp κ)} (h : queue.Pairwise WakeUp.Precedes)
    (hlast : ∀ x ∈ queue, x.seq < w.seq) : (enqueue w queue).Pairwise WakeUp.Precedes := by
  induction queue with
  | nil => simp [enqueue]
  | cons x rest ih =>
    obtain ⟨hx, hrest⟩ := List.pairwise_cons.mp h
    unfold enqueue
    split
    · next hdue =>
      have hfirst : w.Precedes x := .inl hdue
      refine List.pairwise_cons.mpr ⟨fun y hy => ?_, h⟩
      rcases List.mem_cons.mp hy with rfl | hy
      · exact hfirst
      · exact hfirst.trans (hx y hy)
    · next hdue =>
      refine List.pairwise_cons.mpr
        ⟨fun y hy => ?_, ih hrest fun y hy => hlast y (List.mem_cons_of_mem x hy)⟩
      rcases mem_enqueue.mp hy with rfl | hy
      · have hseq := hlast x List.mem_cons_self
        unfold WakeUp.Precedes
        omega
      · exact hx y hy

@[simp] lemma armForHead_nextSeq (t : Timer κ) : t.armForHead.1.nextSeq = t.nextSeq := by
  unfold armForHead
  split <;> rfl

/-- A timer takes wake-ups exactly as long as it has not been stopped. -/
lemma set_eq_none_iff : t.set now delay callback = none ↔ t.stopped = true := by
  refine ⟨fun h => ?_, set_eq_none⟩
  by_contra hruns
  obtain ⟨t', order, hset, -⟩ := exists_set (by simpa using hruns) now delay callback
  cases h.symm.trans hset

/-- The timer with one more wake-up in its queue, and the alarm as it was. -/
def admitting (t : Timer κ) (w : WakeUp κ) : Timer κ :=
  { t with queue := enqueue w t.queue, nextSeq := t.nextSeq + 1 }

/-- The alarm is set anew only for a wake-up that is due before the one it is set for. -/
lemma set_cases {order : Option AlarmOrder} (h : t.set now delay callback = some (t', order)) :
    t.stopped = false ∧
      let longer := t.admitting ⟨now + delay, t.nextSeq, callback⟩
      ((∃ armed, t.armedFor = some armed ∧ armed ≤ now + delay ∧ t' = longer ∧ order = none) ∨
        (∀ armed, t.armedFor = some armed → now + delay < armed) ∧
          longer.armForHead = (t', order)) := by
  cases hstopped : t.stopped with
  | true =>
    rw [set_eq_none hstopped] at h
    cases h
  | false =>
  refine ⟨rfl, ?_⟩
  have hlonger : ({ t with
      queue := enqueue ⟨now + delay, t.nextSeq, callback⟩ t.queue
      nextSeq := t.nextSeq + 1 } : Timer κ) =
      t.admitting ⟨now + delay, t.nextSeq, callback⟩ := rfl
  rw [set, if_neg (by simp [hstopped])] at h
  dsimp only at h
  rw [hlonger] at h
  split at h
  · next armed harmed =>
    split at h
    · next hearlier =>
      refine .inr ⟨fun other hother => ?_, Option.some.inj h⟩
      cases harmed.symm.trans hother
      exact hearlier
    · next hlater =>
      obtain ⟨rfl, rfl⟩ := Prod.mk.inj (Option.some.inj h)
      exact .inl ⟨armed, harmed, Nat.le_of_not_lt hlater, rfl, rfl⟩
  · next hnone =>
    refine .inr ⟨fun other hother => ?_, Option.some.inj h⟩
    cases hnone.symm.trans hother

lemma set_eq_some {order : Option AlarmOrder} (h : t.set now delay callback = some (t', order)) :
    t.stopped = false ∧ t'.stopped = false ∧ t'.nextSeq = t.nextSeq + 1 ∧
      t'.queue = enqueue ⟨now + delay, t.nextSeq, callback⟩ t.queue := by
  obtain ⟨hruns, ⟨armed, -, -, rfl, -⟩ | ⟨-, harms⟩⟩ := set_cases h
  · exact ⟨hruns, hruns, rfl, rfl⟩
  · obtain rfl : (t.admitting ⟨now + delay, t.nextSeq, callback⟩).armForHead.1 = t' :=
      congrArg Prod.fst harms
    exact ⟨hruns, (armForHead_stopped _).trans hruns, armForHead_nextSeq _, armForHead_queue _⟩

@[simp] lemma ring_nextSeq (now : Nat) (t : Timer κ) :
    (t.ring now).2.1.nextSeq = t.nextSeq := by
  unfold ring
  split <;> simp

@[simp] lemma stop_nextSeq (t : Timer κ) : t.stop.1.nextSeq = t.nextSeq := by
  unfold stop
  split <;> rfl

/-- The alarm lets the first wake-up out if it is due, and nothing otherwise. -/
lemma ring_cases (now : Nat) (t : Timer κ) :
    (t.ring now).1 = none ∧ (t.ring now).2.1.queue = t.queue ∨
      ∃ w rest, t.stopped = false ∧ t.queue = w :: rest ∧ w.due ≤ now ∧
        (t.ring now).1 = some w ∧ (t.ring now).2.1.queue = rest := by
  unfold ring
  split
  · exact .inl ⟨rfl, rfl⟩
  next hruns =>
  cases hqueue : t.queue with
  | nil => exact .inl ⟨rfl, armForHead_queue _⟩
  | cons w rest =>
    simp only [popDue]
    split
    · next hdue =>
      exact .inr ⟨w, rest, by simpa using hruns, rfl, hdue, rfl, armForHead_queue _⟩
    · exact .inl ⟨rfl, armForHead_queue _⟩

@[simp] lemma cancel_nextSeq [DecidableEq κ] (callback : κ) (t : Timer κ) :
    (t.cancel callback).1.nextSeq = t.nextSeq := by
  unfold cancel
  dsimp only
  split_ifs <;> simp

lemma stop_queue (t : Timer κ) (h : t.stopped = true → t.queue = []) : t.stop.1.queue = [] := by
  unfold stop
  split
  · next hstopped => exact h hstopped
  · rfl

end Timer

end SipAgent
