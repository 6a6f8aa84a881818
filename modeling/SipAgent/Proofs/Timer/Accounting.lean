import Mathlib.Data.List.Basic
import SipAgent.Proofs.Timer.Record

/-!
# The wake-ups of a timer are accounted for

Every wake-up that a timer takes has been given out, taken back or dropped, or it is still queued,
whatever is done with the timer. The `Ledger` says which, from the record alone and without looking
into the timer, and `Recorded.accounted` says that the timer's queue agrees with it.
-/

namespace SipAgent

/-- What has become of the wake-ups that a timer took, told from the record alone. -/
structure Ledger (κ : Type) where
  pending : List (WakeUp κ)
  cancelled : List (WakeUp κ)
  /-- What was pending when the timer was stopped. -/
  dropped : List (WakeUp κ)

namespace Ledger

variable {κ : Type} [DecidableEq κ]

/-- Nothing has been taken yet. -/
def empty : Ledger κ :=
  ⟨[], [], []⟩

/-- The ledger after one more line of the record. -/
def enter (l : Ledger κ) (note : TimerNote κ) : Ledger κ :=
  match note.happening with
  | .taken _ w => { l with pending := l.pending ++ [w] }
  | .refused _ _ => l
  | .cancelled callback =>
    { l with
      pending := l.pending.filter fun w => w.callback ≠ callback
      cancelled := l.cancelled ++ l.pending.filter fun w => w.callback = callback }
  | .stopped => { l with pending := [], dropped := l.dropped ++ l.pending }
  | .rang none => l
  | .rang (some w) => { l with pending := l.pending.erase w }

/-- The ledger of a record. -/
def of (notes : List (TimerNote κ)) : Ledger κ :=
  notes.foldl enter empty

@[simp] lemma of_concat (notes : List (TimerNote κ)) (note : TimerNote κ) :
    of (notes ++ [note]) = (of notes).enter note := by
  simp [of]

end Ledger

namespace Timer

variable {κ : Type} [DecidableEq κ] {t t' : Timer κ} {now delay : Nat} {callback : κ}
  {w : WakeUp κ} {note : TimerNote κ} {notes : List (TimerNote κ)}

/-! ### Every wake-up is accounted for -/

/-- The record tells of every wake-up where it is. -/
structure Accounted (notes : List (TimerNote κ)) (t : Timer κ) : Prop where
  /-- Wake-ups are numbered as they are set. -/
  numbered : (accepted notes).map (·.seq) = List.range t.nextSeq
  pending : (Ledger.of notes).pending.Perm t.queue
  conserved : (accepted notes).Perm
    (delivered notes ++ (Ledger.of notes).cancelled ++ (Ledger.of notes).dropped ++ t.queue)
  stopped : t.stopped = true ↔ WasStopped notes
  emptied : t.stopped = true → t.queue = []

namespace Accounted

lemma start : Accounted ([] : List (TimerNote κ)) .empty where
  numbered := rfl
  pending := .refl _
  conserved := .refl _
  stopped := by simp [WasStopped, Timer.empty]
  emptied := nofun

lemma seq_lt (h : Accounted notes t) (hw : w ∈ accepted notes) : w.seq < t.nextSeq := by
  rw [← List.mem_range, ← h.numbered]
  exact List.mem_map_of_mem hw

lemma mem_accepted_of_delivered (h : Accounted notes t) (hw : w ∈ delivered notes) :
    w ∈ accepted notes := by
  rw [h.conserved.mem_iff]
  simp [hw]

lemma mem_accepted_of_queued (h : Accounted notes t) (hw : w ∈ t.queue) : w ∈ accepted notes := by
  rw [h.conserved.mem_iff]
  simp [hw]

lemma taken (h : Accounted notes t) {order : Option AlarmOrder}
    (hset : t.set now delay callback = some (t', order)) :
    Accounted (notes ++ [⟨now, .taken delay ⟨now + delay, t.nextSeq, callback⟩, order⟩]) t' := by
  obtain ⟨hruns, hruns', hseq, hqueue⟩ := set_eq_some hset
  have hput := perm_enqueue ⟨now + delay, t.nextSeq, callback⟩ t.queue
  rw [← hqueue] at hput
  refine ⟨?_, ?_, ?_, ?_, ?_⟩
  · simp [TimerNote.accepted?, h.numbered, hseq, List.range_succ]
  · simp only [Ledger.of_concat, Ledger.enter]
    exact (List.perm_append_singleton _ _).trans ((h.pending.cons _).trans hput.symm)
  · simp only [Ledger.of_concat, Ledger.enter, accepted_append, delivered_append,
      accepted_singleton, delivered_singleton, TimerNote.accepted?, TimerNote.delivered?]
    rw [List.perm_iff_count]
    intro x
    have hcount := h.conserved.count_eq x
    have hone := hput.count_eq x
    simp only [Option.toList, List.count_append, List.count_cons, List.count_nil] at hcount hone ⊢
    omega
  · rw [wasStopped_concat, ← h.stopped, hruns, hruns']
    simp
  · intro hstopped
    cases hruns'.symm.trans hstopped

lemma refused (h : Accounted notes t) (now delay : Nat) (callback : κ) :
    Accounted (notes ++ [⟨now, .refused delay callback, none⟩]) t where
  numbered := by simpa [TimerNote.accepted?] using h.numbered
  pending := by simpa [Ledger.enter] using h.pending
  conserved := by
    simpa [Ledger.enter, TimerNote.accepted?, TimerNote.delivered?] using h.conserved
  stopped := by
    rw [wasStopped_concat, ← h.stopped]
    simp
  emptied := h.emptied

lemma cancelled (h : Accounted notes t) (now : Nat) (callback : κ) :
    Accounted (notes ++ [⟨now, .cancelled callback, (t.cancel callback).2⟩])
      (t.cancel callback).1 where
  numbered := by simpa [TimerNote.accepted?] using h.numbered
  pending := by
    simp only [Ledger.of_concat, Ledger.enter, cancel_queue]
    exact h.pending.filter _
  conserved := by
    simp only [Ledger.of_concat, Ledger.enter, accepted_append, delivered_append,
      accepted_singleton, delivered_singleton, TimerNote.accepted?, TimerNote.delivered?,
      cancel_queue]
    rw [List.perm_iff_count]
    intro x
    have hcount := h.conserved.count_eq x
    have hpending := (h.pending.filter fun w => w.callback = callback).count_eq x
    have hparts := (List.filter_append_perm (fun w => w.callback = callback) t.queue).count_eq x
    simp only [Option.toList, List.count_append, List.count_nil, decide_not] at *
    omega
  stopped := by
    rw [wasStopped_concat, ← h.stopped, cancel_stopped]
    simp
  emptied hstopped := by
    rw [cancel_stopped] at hstopped
    rw [cancel_queue, h.emptied hstopped]
    rfl

lemma stop (h : Accounted notes t) (now : Nat) :
    Accounted (notes ++ [⟨now, .stopped, t.stop.2⟩]) t.stop.1 where
  numbered := by simpa [TimerNote.accepted?] using h.numbered
  pending := by
    rw [stop_queue t h.emptied]
    simp [Ledger.enter]
  conserved := by
    rw [stop_queue t h.emptied]
    simp only [Ledger.of_concat, Ledger.enter, accepted_append, delivered_append,
      accepted_singleton, delivered_singleton, TimerNote.accepted?, TimerNote.delivered?,
      Option.toList, List.append_nil]
    rw [← List.append_assoc]
    exact h.conserved.trans (h.pending.symm.append_left _)
  stopped := by
    rw [wasStopped_concat]
    simp
  emptied _ := stop_queue t h.emptied

lemma rang (h : Accounted notes t) (now : Nat) :
    Accounted (notes ++ [⟨now, .rang (t.ring now).1, (t.ring now).2.2⟩]) (t.ring now).2.1 := by
  have hstopped : (t.ring now).2.1.stopped = true ↔
      WasStopped (notes ++ [⟨now, .rang (t.ring now).1, (t.ring now).2.2⟩]) := by
    rw [wasStopped_concat, ← h.stopped, ring_stopped]
    simp
  have hnumbered : (accepted (notes ++ [⟨now, .rang (t.ring now).1, (t.ring now).2.2⟩])).map
      (·.seq) = List.range (t.ring now).2.1.nextSeq := by
    simpa [TimerNote.accepted?] using h.numbered
  rcases ring_cases now t with ⟨hnone, hqueue⟩ | ⟨w, rest, hruns, hfirst, -, hwoken, hqueue⟩
  · refine ⟨hnumbered, ?_, ?_, hstopped, fun hs => ?_⟩
    · simpa [hnone, hqueue, Ledger.enter] using h.pending
    · simpa [hnone, hqueue, Ledger.enter, TimerNote.accepted?, TimerNote.delivered?] using
        h.conserved
    · rw [ring_stopped] at hs
      rw [hqueue, h.emptied hs]
  · have hpending : (Ledger.of notes).pending.Perm (w :: rest) := hfirst ▸ h.pending
    have hconserved := h.conserved
    rw [hfirst] at hconserved
    refine ⟨hnumbered, ?_, ?_, hstopped, fun hs => ?_⟩
    · rw [hqueue, hwoken]
      simp only [Ledger.of_concat, Ledger.enter]
      simpa using hpending.erase w
    · rw [hqueue, hwoken]
      simp only [Ledger.of_concat, Ledger.enter, accepted_append, delivered_append,
        accepted_singleton, delivered_singleton, TimerNote.accepted?, TimerNote.delivered?]
      rw [List.perm_iff_count]
      intro x
      have hcount := hconserved.count_eq x
      simp only [Option.toList, List.count_append, List.count_cons, List.count_nil] at hcount ⊢
      omega
    · rw [ring_stopped, hruns] at hs
      cases hs

/-- Whatever is done, nothing gets lost. -/
lemma step (h : Accounted notes t) (hstep : t.Step note t') : Accounted (notes ++ [note]) t' := by
  cases hstep with
  | taken hset => exact h.taken hset
  | refused => exact h.refused _ _ _
  | cancelled now callback => exact h.cancelled now callback
  | stopped now => exact h.stop now
  | rang now => exact h.rang now

end Accounted

lemma Recorded.accounted (h : Recorded notes t) : Accounted notes t := by
  induction h with
  | start => exact .start
  | step _ _ hstep ih => exact ih.step hstep

end Timer

end SipAgent
