import SipAgent.Proofs.Timer.Delivery

/-!
# The alarm of a timer

The alarm forgets its order when it rings, at whatever moment it does. `standing` is the order that
it has kept, as the record tells it, and `Recorded.alarmed` says that this is to ring at the moment
for which the timer believes it to be set. So there is no queued wake-up that nothing will call for
(`alarm_set_for_first`).
-/

namespace SipAgent

namespace Timer

variable {κ : Type} {t t' : Timer κ} {now delay : Nat} {callback : κ} {w : WakeUp κ}
  {note : TimerNote κ} {notes : List (TimerNote κ)} {previous order : Option AlarmOrder}

/-! ### The standing order -/

/-- The order that stands after a line: the one given in it, or the previous one, unless the alarm
rang and forgot it. -/
def nextStanding (previous : Option AlarmOrder) (note : TimerNote κ) : Option AlarmOrder :=
  match note.order, note.happening with
  | some order, _ => some order
  | none, .rang _ => none
  | none, _ => previous

/-- The last order that the alarm got since it last rang. -/
def standing (notes : List (TimerNote κ)) : Option AlarmOrder :=
  notes.foldl nextStanding none

@[simp] lemma standing_concat (notes : List (TimerNote κ)) (note : TimerNote κ) :
    standing (notes ++ [note]) = nextStanding (standing notes) note := by
  simp [standing]

/-- The order that a timer with this belief about its alarm wants to stand. -/
def Wants (armedFor : Option Nat) (order : Option AlarmOrder) : Prop :=
  match armedFor with
  | some deadline => order = some (.arm deadline)
  | none => order = none ∨ order = some .disarm

/-- The alarm is set for the first wake-up of the queue, and has the order to ring for it. -/
structure Alarmed (notes : List (TimerNote κ)) (t : Timer κ) : Prop where
  first : t.armedFor = t.earliest?
  wanted : Wants t.armedFor (standing notes)

/-! ### Each operation -/

/-- Setting the alarm for the first wake-up leaves nothing to be said about what it was set for. -/
lemma alarmed_of_armForHead (h : t.armForHead = (t', note.order)) :
    Alarmed (notes ++ [note]) t' := by
  unfold armForHead at h
  split at h
  · next deadline hfirst =>
    obtain ⟨rfl, horder⟩ := Prod.mk.inj h
    exact ⟨hfirst.symm, by simp [nextStanding, ← horder, Wants]⟩
  · next hnone =>
    obtain ⟨rfl, horder⟩ := Prod.mk.inj h
    exact ⟨hnone.symm, by simp [nextStanding, ← horder, Wants]⟩

namespace Alarmed

lemma start : Alarmed ([] : List (TimerNote κ)) .empty :=
  ⟨rfl, .inl rfl⟩

lemma armedFor_eq_none_iff (h : Alarmed notes t) : t.armedFor = none ↔ t.queue = [] := by
  simp [h.first, earliest?]

/-- The alarm gets no order, and what it is set for is still what the timer wants. -/
lemma unchanged (h : Alarmed notes t) (harmed : t'.armedFor = t.armedFor)
    (hfirst : t'.earliest? = t.armedFor) (horder : note.order = none)
    (hquiet : ∀ woken, note.happening ≠ .rang woken) : Alarmed (notes ++ [note]) t' := by
  have hstanding : standing (notes ++ [note]) = standing notes := by
    rw [standing_concat, nextStanding, horder]
    cases hhappening : note.happening with
    | rang woken => exact absurd hhappening (hquiet woken)
    | _ => rfl
  exact ⟨harmed.trans hfirst.symm, hstanding ▸ harmed ▸ h.wanted⟩

/-- A wake-up that is due no earlier than the first one does not take its place. -/
lemma earliest?_admitting (h : Alarmed notes t) {armed : Nat} (harmed : t.armedFor = some armed)
    (hlater : armed ≤ w.due) : (t.admitting w).earliest? = t.armedFor := by
  have hfirst := h.first.symm.trans harmed
  cases hqueue : t.queue with
  | nil => simp [earliest?, hqueue] at hfirst
  | cons x rest =>
    obtain rfl : x.due = armed := by simpa [earliest?, hqueue] using hfirst
    rw [h.first]
    simp [earliest?, admitting, hqueue, enqueue, Nat.not_lt.mpr hlater]

lemma taken (h : Alarmed notes t) (hset : t.set now delay callback = some (t', order)) :
    Alarmed (notes ++ [⟨now, .taken delay ⟨now + delay, t.nextSeq, callback⟩, order⟩]) t' := by
  obtain ⟨-, ⟨armed, harmed, hlater, rfl, rfl⟩ | ⟨-, harms⟩⟩ := set_cases hset
  · exact h.unchanged rfl (h.earliest?_admitting harmed hlater) rfl nofun
  · exact alarmed_of_armForHead harms

lemma cancelled [DecidableEq κ] (h : Alarmed notes t) (now : Nat) (callback : κ) :
    Alarmed (notes ++ [⟨now, .cancelled callback, (t.cancel callback).2⟩])
      (t.cancel callback).1 := by
  unfold cancel
  dsimp only
  split_ifs with hsame hhead
  · exact h.unchanged rfl h.first.symm rfl nofun
  · exact h.unchanged rfl hhead rfl nofun
  · exact alarmed_of_armForHead rfl

lemma stop (h : Alarmed notes t) (now : Nat) :
    Alarmed (notes ++ [⟨now, .stopped, t.stop.2⟩]) t.stop.1 := by
  unfold Timer.stop
  split_ifs
  · exact h.unchanged rfl h.first.symm rfl nofun
  · exact ⟨rfl, .inr (by simp [nextStanding])⟩

/-- Only the alarm of a stopped timer is not set again when it rings, and there nothing is
queued. -/
lemma rang (h : Alarmed notes t) (hemptied : t.stopped = true → t.queue = []) (now : Nat) :
    Alarmed (notes ++ [⟨now, .rang (t.ring now).1, (t.ring now).2.2⟩]) (t.ring now).2.1 := by
  unfold ring
  split_ifs with hstopped
  · refine ⟨h.first, ?_⟩
    rw [h.armedFor_eq_none_iff.mpr (hemptied hstopped)]
    exact .inl (by simp [nextStanding])
  · exact alarmed_of_armForHead rfl

lemma step [DecidableEq κ] (h : Alarmed notes t) (haccounted : Accounted notes t)
    (hstep : t.Step note t') : Alarmed (notes ++ [note]) t' := by
  cases hstep with
  | taken hset => exact h.taken hset
  | refused => exact h.unchanged rfl h.first.symm rfl nofun
  | cancelled now callback => exact h.cancelled now callback
  | stopped now => exact h.stop now
  | rang now => exact h.rang haccounted.emptied now

end Alarmed

/-! ### No wake-up is lost -/

/-- The wake-up is queued, and it precedes all others that are. -/
def IsFirst (queue : List (WakeUp κ)) (w : WakeUp κ) : Prop :=
  w ∈ queue ∧ ∀ x ∈ queue, x = w ∨ w.Precedes x

/-- The head of a sorted queue is its first wake-up, and the only one. -/
lemma isFirst_cons_iff {x : WakeUp κ} {rest : List (WakeUp κ)}
    (hsorted : (x :: rest).Pairwise WakeUp.Precedes) : IsFirst (x :: rest) w ↔ w = x := by
  have hx := (List.pairwise_cons.mp hsorted).1
  constructor
  · rintro ⟨hw, hfirst⟩
    rcases List.mem_cons.mp hw with rfl | hw
    · rfl
    · rcases hfirst x List.mem_cons_self with rfl | hwx
      · rfl
      · exact absurd rfl (hwx.trans (hx w hw)).ne
  · rintro rfl
    refine ⟨List.mem_cons_self, fun y hy => ?_⟩
    rcases List.mem_cons.mp hy with rfl | hy
    · exact .inl rfl
    · exact .inr (hx y hy)

lemma Recorded.alarmed [DecidableEq κ] (h : Recorded notes t) : Alarmed notes t := by
  induction h with
  | start => exact .start
  | step hbefore _ hstep ih => exact ih.step hbefore.accounted hstep

/-- Whatever was done with a timer, its alarm is set for the first of the queued wake-ups and has
been told so since it last rang; it is set for none, and has not been told to ring, exactly when
nothing is queued. A queue that is not empty has a first wake-up, and so for every queued wake-up
the alarm will ring by the time it is due. -/
theorem alarm_set_for_first [DecidableEq κ] (h : Recorded notes t) :
    (∀ w, IsFirst t.queue w → t.armedFor = some w.due ∧ standing notes = some (.arm w.due)) ∧
    (t.armedFor = none ↔ t.queue = []) ∧
    (t.queue = [] → standing notes = none ∨ standing notes = some .disarm) ∧
    (t.queue ≠ [] → ∃ w, IsFirst t.queue w) ∧
    ∀ w ∈ t.queue, ∃ deadline ≤ w.due, standing notes = some (.arm deadline) := by
  have hnone := h.alarmed.armedFor_eq_none_iff
  have hwanted := h.alarmed.wanted
  have hsorted := h.timely.sorted
  cases hqueue : t.queue with
  | nil =>
    rw [hnone.mpr hqueue] at hwanted
    refine ⟨fun w hw => absurd hw.1 List.not_mem_nil, hqueue ▸ hnone, fun _ => hwanted,
      fun hne => absurd rfl hne, nofun⟩
  | cons x rest =>
    have harmed : t.armedFor = some x.due := by simp [h.alarmed.first, earliest?, hqueue]
    rw [hqueue] at hsorted
    rw [harmed] at hwanted
    have hx : IsFirst (x :: rest) x := (isFirst_cons_iff hsorted).mpr rfl
    refine ⟨fun w hw => ?_, hqueue ▸ hnone, nofun, fun _ => ⟨x, hx⟩, fun w hw => ?_⟩
    · obtain rfl := (isFirst_cons_iff hsorted).mp hw
      exact ⟨harmed, hwanted⟩
    · rcases hx.2 w hw with rfl | hxw
      · exact ⟨w.due, Nat.le_refl _, hwanted⟩
      · exact ⟨x.due, hxw.due_le, hwanted⟩

/-- The alarm is set for the wake-up that is left, and for none when everything is over. -/
theorem alarm_set_for_first_rehearsed :
    IsFirst [⟨5, 0, false⟩] ⟨5, 0, false⟩ ∧ standing opening = some (.arm 5) ∧
      (standing rehearsal = none ∨ standing rehearsal = some .disarm) := by
  have hfirst : IsFirst [⟨5, 0, false⟩] ⟨5, 0, false⟩ :=
    (isFirst_cons_iff (List.pairwise_singleton _ _)).mpr rfl
  refine ⟨hfirst, ((alarm_set_for_first recorded_opening).1 _ hfirst).2, ?_⟩
  exact (alarm_set_for_first recorded_rehearsal).2.2.1 rfl

end Timer

end SipAgent
