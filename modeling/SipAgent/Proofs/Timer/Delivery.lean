import SipAgent.Proofs.Timer.Accounting

/-!
# What the timer gives out, and when

A wake-up is given out in time and in order, and never after it has been taken back
(`deliveries_in_order`). The order over a whole history rests on the clock: what is set after a
delivery cannot be due before what was given out.
-/

namespace SipAgent

namespace Timer

variable {κ : Type} {t t' : Timer κ} {now delay : Nat} {callback : κ} {w : WakeUp κ}
  {note : TimerNote κ} {notes : List (TimerNote κ)}

/-- The wake-up was set for a delay that makes it due when it is, and has not been taken back
since. -/
def Outstanding (notes : List (TimerNote κ)) (w : WakeUp κ) : Prop :=
  ∃ earlier setting later delay, notes = earlier ++ setting :: later ∧
    setting.happening = .taken delay w ∧ w.due = setting.moment + delay ∧
    ∀ note ∈ later, note.happening ≠ .cancelled w.callback

lemma outstanding_concat (hnote : note.happening = .taken delay w)
    (hdue : w.due = note.moment + delay) : Outstanding (notes ++ [note]) w :=
  ⟨notes, note, [], delay, rfl, hnote, hdue, nofun⟩

lemma Outstanding.concat (h : Outstanding notes w)
    (hnote : note.happening ≠ .cancelled w.callback) : Outstanding (notes ++ [note]) w := by
  obtain ⟨earlier, setting, later, delay, rfl, hset, hdue, hkept⟩ := h
  refine ⟨earlier, setting, later ++ [note], delay, by simp, hset, hdue, fun other hother => ?_⟩
  rcases List.mem_append.mp hother with hother | hother
  · exact hkept other hother
  · obtain rfl := List.mem_singleton.mp hother
    exact hnote

/-- The wake-up may be given out now: it is due, it has not been taken back, and the timer has not
been stopped. -/
def MayFire (before : List (TimerNote κ)) (now : Nat) (w : WakeUp κ) : Prop :=
  w.due ≤ now ∧ Outstanding before w ∧ ¬ WasStopped before

/-- The queue stands in order behind what has been given out, and nothing has been given out but
what was due. -/
structure Timely (notes : List (TimerNote κ)) (t : Timer κ) : Prop where
  sorted : t.queue.Pairwise WakeUp.Precedes
  outstanding : ∀ w ∈ t.queue, Outstanding notes w
  ahead : ∀ d ∈ delivered notes, ∀ w ∈ t.queue, d.Precedes w
  ordered : (delivered notes).Pairwise WakeUp.Precedes
  fired : ∀ before note after w, notes = before ++ note :: after →
    note.happening = .rang (some w) → MayFire before note.moment w

namespace Timely

lemma start : Timely ([] : List (TimerNote κ)) .empty where
  sorted := .nil
  outstanding := nofun
  ahead := nofun
  ordered := .nil
  fired before _ _ _ h := by simp at h

/-- What has been given out was due by the moment of some line. -/
lemma due_le (h : Timely notes t) (hw : w ∈ delivered notes) :
    ∃ note ∈ notes, w.due ≤ note.moment := by
  obtain ⟨note, hnote, hrang⟩ := mem_delivered.mp hw
  obtain ⟨before, after, rfl⟩ := List.append_of_mem hnote
  exact ⟨note, hnote, (h.fired before note after w rfl hrang).1⟩

/-- One more line, seen from all those before it. -/
lemma fired_concat (h : Timely notes t)
    (hlast : ∀ w, note.happening = .rang (some w) → MayFire notes note.moment w)
    (before : List (TimerNote κ)) (other : TimerNote κ) (after : List (TimerNote κ)) (w : WakeUp κ)
    (hnotes : notes ++ [note] = before ++ other :: after)
    (hother : other.happening = .rang (some w)) : MayFire before other.moment w := by
  rcases List.eq_nil_or_concat after with rfl | ⟨after, last, rfl⟩
  · obtain ⟨rfl, hlast'⟩ := List.append_inj' hnotes rfl
    obtain rfl := List.head_eq_of_cons_eq hlast'
    exact hlast w hother
  · rw [List.concat_eq_append, ← List.cons_append, ← List.append_assoc] at hnotes
    exact h.fired before other after w (List.append_inj' hnotes rfl).1 hother

/-- Nothing is given out, and nothing new is queued. -/
lemma kept (h : Timely notes t) (hnone : note.delivered? = none)
    (hsub : t'.queue.Sublist t.queue)
    (hkept : ∀ w ∈ t'.queue, note.happening ≠ .cancelled w.callback) :
    Timely (notes ++ [note]) t' := by
  have hdelivered : delivered (notes ++ [note]) = delivered notes := by simp [hnone]
  refine ⟨h.sorted.sublist hsub,
    fun w hw => (h.outstanding w (hsub.subset hw)).concat (hkept w hw), fun d hd w hw => ?_,
    hdelivered ▸ h.ordered, h.fired_concat fun w hrang => ?_⟩
  · exact h.ahead d (hdelivered ▸ hd) w (hsub.subset hw)
  · rw [TimerNote.delivered?_eq_some.mpr hrang] at hnone
    cases hnone

variable [DecidableEq κ]

lemma taken (h : Timely notes t) (haccounted : Accounted notes t)
    (hclock : ∀ earlier ∈ notes, earlier.moment ≤ now) {order : Option AlarmOrder}
    (hset : t.set now delay callback = some (t', order)) :
    Timely (notes ++ [⟨now, .taken delay ⟨now + delay, t.nextSeq, callback⟩, order⟩]) t' := by
  obtain ⟨-, -, -, hqueue⟩ := set_eq_some hset
  have hlast : ∀ x ∈ t.queue, x.seq < t.nextSeq := fun x hx =>
    haccounted.seq_lt (haccounted.mem_accepted_of_queued hx)
  refine ⟨?_, ?_, ?_, ?_, h.fired_concat nofun⟩
  · rw [hqueue]
    exact sorted_enqueue h.sorted hlast
  · intro w hw
    rw [hqueue] at hw
    rcases mem_enqueue.mp hw with rfl | hw
    · exact outstanding_concat rfl rfl
    · exact (h.outstanding w hw).concat nofun
  · intro d hd w hw
    simp only [delivered_append, delivered_singleton, TimerNote.delivered?, Option.toList,
      List.append_nil] at hd
    rw [hqueue] at hw
    rcases mem_enqueue.mp hw with rfl | hw
    · -- The clock had reached the moment of `d`, so the new wake-up is due no earlier.
      obtain ⟨note, hnote, hdue⟩ := h.due_le hd
      have hmoment := hclock note hnote
      have hseq := haccounted.seq_lt (haccounted.mem_accepted_of_delivered hd)
      unfold WakeUp.Precedes
      dsimp only
      omega
    · exact h.ahead d hd w hw
  · simpa [TimerNote.delivered?] using h.ordered

lemma rang (h : Timely notes t) (haccounted : Accounted notes t) (now : Nat) :
    Timely (notes ++ [⟨now, .rang (t.ring now).1, (t.ring now).2.2⟩]) (t.ring now).2.1 := by
  rcases ring_cases now t with ⟨hnone, hqueue⟩ | ⟨w, rest, hruns, hfirst, hdue, hwoken, hqueue⟩
  · exact h.kept (by simp [TimerNote.delivered?, hnone]) (hqueue ▸ .refl _) (by simp)
  · have hsorted := h.sorted
    rw [hfirst] at hsorted
    have hw : w ∈ t.queue := hfirst ▸ List.mem_cons_self
    have hrest : ∀ x ∈ rest, x ∈ t.queue := fun x hx => hfirst ▸ List.mem_cons_of_mem w hx
    have hgoing : ¬ WasStopped notes := by
      simp [← haccounted.stopped, hruns]
    rw [hwoken]
    refine ⟨hqueue ▸ hsorted.of_cons, ?_, ?_, ?_, h.fired_concat fun x hx => ?_⟩
    · intro x hx
      rw [hqueue] at hx
      exact (h.outstanding x (hrest x hx)).concat (by simp)
    · intro d hd x hx
      rw [hqueue] at hx
      simp only [delivered_append, delivered_singleton, TimerNote.delivered?, Option.toList,
        List.mem_append, List.mem_singleton] at hd
      rcases hd with hd | rfl
      · exact h.ahead d hd x (hrest x hx)
      · exact (List.pairwise_cons.mp hsorted).1 x hx
    · simp only [delivered_append, delivered_singleton, TimerNote.delivered?, Option.toList]
      refine List.pairwise_append.mpr ⟨h.ordered, List.pairwise_singleton _ _, fun d hd x hx => ?_⟩
      obtain rfl := List.mem_singleton.mp hx
      exact h.ahead d hd x hw
    · obtain rfl : w = x := by simpa using hx
      exact ⟨hdue, h.outstanding w hw, hgoing⟩

/-- Whatever is done, wake-ups leave in order. -/
lemma step (h : Timely notes t) (haccounted : Accounted notes t)
    (hclock : ∀ earlier ∈ notes, earlier.moment ≤ note.moment) (hstep : t.Step note t') :
    Timely (notes ++ [note]) t' := by
  cases hstep with
  | taken hset => exact h.taken haccounted hclock hset
  | refused => exact h.kept rfl (.refl _) nofun
  | cancelled now callback =>
    refine h.kept rfl (cancel_queue callback t ▸ List.filter_sublist) fun w hw => ?_
    rw [cancel_queue] at hw
    have hother : w.callback ≠ callback := by simpa using (List.mem_filter.mp hw).2
    intro hcancelled
    exact hother (Happening.cancelled.inj hcancelled).symm
  | stopped now =>
    have hqueue := stop_queue t haccounted.emptied
    exact h.kept rfl (hqueue ▸ List.nil_sublist _) (by simp [hqueue])
  | rang now => exact h.rang haccounted now

end Timely

variable [DecidableEq κ]

lemma Recorded.timely (h : Recorded notes t) : Timely notes t := by
  induction h with
  | start => exact .start
  | step hbefore hclock hstep ih => exact ih.step hbefore.accounted hclock hstep

/-- The queue is kept in the order of a heap: what stands in front is greater. -/
theorem Recorded.queue_ranked (h : Recorded notes t) :
    t.queue.Pairwise fun w x => w.rank x = .gt :=
  h.timely.sorted.imp WakeUp.rank_eq_gt_iff.mpr

/-- Wake-ups are numbered as they are set. What is given out was set before, is due, was not taken
back since it was set, and the timer was not stopped; it is given out once, in the order of moments
and, at one moment, of setting. What was set has been given out, taken back or dropped, or it is
queued, and no more than one of these. Setting fails exactly after a stop. -/
theorem deliveries_in_order (h : Recorded notes t) :
    (accepted notes).map (·.seq) = List.range t.nextSeq ∧
    (∀ before note after w, notes = before ++ note :: after →
      note.happening = .rang (some w) → MayFire before note.moment w) ∧
    (delivered notes).Pairwise WakeUp.Precedes ∧ (delivered notes).Nodup ∧
    (accepted notes).Perm (delivered notes ++ (Ledger.of notes).cancelled ++
      (Ledger.of notes).dropped ++ t.queue) ∧
    ∀ now delay callback, t.set now delay callback = none ↔ WasStopped notes := by
  refine ⟨h.accounted.numbered, h.timely.fired, h.timely.ordered, ?_, h.accounted.conserved, ?_⟩
  · exact h.timely.ordered.imp WakeUp.Precedes.ne
  · exact fun now delay callback => set_eq_none_iff.trans h.accounted.stopped

/-- Three wake-ups are set, one of them is taken back, and the others are given out in order. -/
theorem deliveries_in_order_rehearsed :
    delivered rehearsal = [⟨4, 1, true⟩, ⟨6, 2, true⟩] ∧
      (Ledger.of rehearsal).cancelled = [⟨5, 0, false⟩] ∧
      (delivered rehearsal).Pairwise WakeUp.Precedes ∧
      Timer.set 8 1 true ⟨[], 3, none, true⟩ = none := by
  obtain ⟨-, -, hordered, -, -, hset⟩ := deliveries_in_order recorded_rehearsal
  exact ⟨rfl, rfl, hordered, (hset 8 1 true).mpr ⟨⟨7, .stopped, some .disarm⟩, by decide, rfl⟩⟩

end Timer

end SipAgent
