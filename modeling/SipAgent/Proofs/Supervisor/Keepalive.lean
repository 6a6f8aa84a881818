import SipAgent.Proofs.Supervisor.Lapsing
import SipAgent.Proofs.Supervisor.Pinging

/-!
# Keepalives at regular intervals

A keepalive process sets one wake-up at a time: the next one when it takes the last. So it sends
keepalives at regular intervals only as long as no wake-up is lost, doubled or taken for that of
another process. `Group.Ticking` says where the next wake-up of the process is and when it is due.
Whatever happens to the registration, every step of every thread keeps this up until the process is
ended, as long as wake-ups take effect at the moment at which they are due
(`Scene.keepalives_regular`).
-/

namespace SipAgent

/-! ### Moments at regular intervals -/

/-- The first `n` moments after a start, at regular intervals. -/
def beats (start period n : ℕ) : List ℕ :=
  (List.range n).map fun i => start + (i + 1) * period

@[simp] lemma beats_zero (start period : ℕ) : beats start period 0 = [] := rfl

lemma beats_succ (start period n : ℕ) :
    beats start period (n + 1) = beats start period n ++ [start + (n + 1) * period] := by
  simp [beats, List.range_succ]

/-! ### What a history says -/

/-- What a history says about keepalives. -/
structure Pulse where
  /-- The moment at which the process that should be running was started. -/
  since : Option ℕ
  /-- The moments at which keepalives were sent, from the last start or end of a process on. -/
  sent : List ℕ
  deriving DecidableEq, Repr

/-- Whatever can happen, except that the timer is stopped or that what was asked of the network is
forgotten. -/
def Occurrence.KeepsTime {σ : Type} (g : Group (Journal σ)) (o : Occurrence (Journal σ)) : Prop :=
  o.Possible ∧ o.Noted g ∧ o ≠ .act .stopTimer

lemma Occurrence.keepsTime_of_isOrdinary {σ : Type} {g : Group (Journal σ)}
    {o : Occurrence (Journal σ)} (h : o.isOrdinary = true) : o.KeepsTime g := by
  refine ⟨(supervised_of_isOrdinary h (g := g)).1, ?_, ?_⟩
  · cases o with
    | drift => cases h
    | _ => trivial
  · rintro rfl
    cases h

namespace Group

section

variable {σ : Type} {g g' : Group (Journal σ)} {wakeups : List WakeupCall}

/-! ### The next keepalive -/

/-- The process has sent `n` keepalives since it was started, and one wake-up of it is on the way:
the next one. -/
structure Ticking (g : Group (Journal σ)) (wakeups : List WakeupCall) (process start n : ℕ) :
    Prop where
  current : g.supervisor.keepalive = some process
  begun : start + n * g.settings.pace ≤ g.now
  ahead : g.now ≤ start + (n + 1) * g.settings.pace
  queued : ∀ w ∈ g.timer.queue, w.callback = .keepalive process →
    w.due = start + (n + 1) * g.settings.pace
  given : .keepalive process ∈ wakeups → g.now = start + (n + 1) * g.settings.pace

variable {process start n : ℕ} {x : Pulse}

namespace Ticking

lemma inStep (h : g.Ticking wakeups process start n) (hinstant : g.Instant g')
    (h' : InStep g g') : g'.Ticking wakeups process start n where
  current := h'.keepalive.trans h.current
  begun := by rw [hinstant.settings, hinstant.now]; exact h.begun
  ahead := by rw [hinstant.settings, hinstant.now]; exact h.ahead
  queued w hw hcallback := by
    rw [hinstant.settings]
    exact h.queued w (h'.queued w hw process hcallback) hcallback
  given hgiven := by rw [hinstant.settings, hinstant.now]; exact h.given hgiven

/-- A process that was just started has sent nothing. -/
lemma of_starts (hbooks : g.InOrder False wakeups) (hinstant : g.Instant g') (h : Starts g g') :
    g'.Ticking wakeups g.keepalives g.now 0 where
  current := h.keepalive
  begun := by rw [hinstant.now, Nat.zero_mul]; exact Nat.le_refl _
  ahead := by rw [hinstant.now]; exact Nat.le_add_right _ _
  queued w hw hcallback := by
    rw [hinstant.settings, Nat.zero_add, Nat.one_mul]
    refine (h.queued w hw hcallback).resolve_left fun hqueued => ?_
    have hcurrent := hbooks.current g.keepalives (Timer.queued_pos_iff.mpr ⟨w, hqueued, hcallback⟩)
    cases h.idle.symm.trans hcurrent
  given hgiven := absurd (hbooks.numbered _ (.inr hgiven)) (Nat.lt_irrefl _)

/-- Once every wake-up that was given out has taken effect, the next one is queued. -/
lemma exists_queued (h : g.Ticking [] process start n) (hbooks : g.InOrder False [])
    (hticks : g.timer.stopped = false) :
    ∃ w ∈ g.timer.queue, w.due = start + (n + 1) * g.settings.pace := by
  have hone := hbooks.ticking hticks process h.current
  obtain ⟨w, hw, hcallback⟩ := Timer.queued_pos_iff.mp (hone ▸ Nat.one_pos)
  exact ⟨w, hw, h.queued w hw hcallback⟩

/-- Time passes, but no wake-up that is due. -/
lemma tick (h : g.Ticking [] process start n) (hbooks : g.InOrder False [])
    (hticks : g.timer.stopped = false) {milliseconds : ℕ}
    (hdue : ∀ w ∈ g.timer.queue, g.now + milliseconds ≤ w.due) :
    (g.tick milliseconds).Ticking [] process start n := by
  obtain ⟨w, hw, hnext⟩ := h.exists_queued hbooks hticks
  exact
    { current := h.current
      begun := Nat.le_add_right_of_le h.begun
      ahead := hnext ▸ hdue w hw
      queued := h.queued
      given := nofun }

/-- When the wake-up is given out, it is due. -/
lemma ringAlarm (h : g.Ticking wakeups process start n) :
    g.ringAlarm.2.Ticking (wakeups ++ g.ringAlarm.1.toList) process start n := by
  have hcases := g.timer.ring_cases g.now
  refine ⟨h.current, h.begun, h.ahead, fun w hw hcallback => ?_, fun hgiven => ?_⟩
  · refine h.queued w ?_ hcallback
    rcases hcases with ⟨-, hqueue⟩ | ⟨first, rest, -, hqueue, -, -, hrest⟩
    · exact hqueue ▸ hw
    · rw [hqueue]
      exact List.mem_cons_of_mem first (hrest ▸ hw)
  · rcases List.mem_append.mp hgiven with hgiven | hrung
    · exact h.given hgiven
    · obtain ⟨w, hw, hcallback⟩ := Option.map_eq_some_iff.mp (Option.mem_toList.mp hrung)
      rcases hcases with ⟨hnone, -⟩ | ⟨first, rest, -, hqueue, hpast, hfirst, -⟩
      · cases hnone.symm.trans hw
      · obtain rfl := Option.some.inj (hw.symm.trans hfirst)
        have hdue := h.queued w (hqueue ▸ List.mem_cons_self) hcallback
        exact Nat.le_antisymm h.ahead (hdue ▸ hpast)

/-- A wake-up that has taken effect is not given out any more. -/
lemma of_spent {before after : List WakeupCall} {call : WakeupCall}
    (h : g.Ticking (before ++ call :: after) process start n) :
    g.Ticking (before ++ after) process start n :=
  { h with
    given := fun hgiven =>
      h.given (((List.sublist_cons_self call after).append_left before).subset hgiven) }

end Ticking

/-- The process does what the history says about keepalives. -/
inductive Beating (g : Group (Journal σ)) (wakeups : List WakeupCall) : Pulse → Prop where
  | idle (hnone : g.supervisor.keepalive = none) : Beating g wakeups ⟨none, []⟩
  | running {process start n : ℕ} (h : g.Ticking wakeups process start n) :
      Beating g wakeups ⟨some start, beats start g.settings.pace n⟩

namespace Beating

lemma since_eq_none_iff (h : g.Beating wakeups x) :
    x.since = none ↔ g.supervisor.keepalive = none := by
  cases h with
  | idle hnone => exact iff_of_true rfl hnone
  | running h =>
    refine iff_of_false nofun fun hnone => ?_
    cases hnone.symm.trans h.current

lemma sent_of_idle (h : g.Beating wakeups x) (hidle : x.since = none) : x.sent = [] := by
  cases h with
  | idle => rfl
  | running => cases hidle

lemma inStep (h : g.Beating wakeups x) (hinstant : g.Instant g') (h' : InStep g g') :
    g'.Beating wakeups x := by
  cases h with
  | idle hnone => exact .idle (h'.keepalive.trans hnone)
  | running h =>
    rw [← hinstant.settings]
    exact .running (h.inStep hinstant h')

lemma of_spent {before after : List WakeupCall} {call : WakeupCall}
    (h : g.Beating (before ++ call :: after) x) : g.Beating (before ++ after) x := by
  cases h with
  | idle hnone => exact .idle hnone
  | running h => exact .running h.of_spent

lemma tick (h : g.Beating [] x) (hbooks : g.InOrder False []) (hticks : g.timer.stopped = false)
    {milliseconds : ℕ} (hdue : ∀ w ∈ g.timer.queue, g.now + milliseconds ≤ w.due) :
    (g.tick milliseconds).Beating [] x := by
  cases h with
  | idle hnone => exact .idle hnone
  | running h => exact .running (h.tick hbooks hticks hdue)

lemma ringAlarm (h : g.Beating wakeups x) :
    g.ringAlarm.2.Beating (wakeups ++ g.ringAlarm.1.toList) x := by
  cases h with
  | idle hnone => exact .idle hnone
  | running h => exact .running h.ringAlarm

end Beating

variable [Transport σ]

/-! ### What is sent -/

/-- The group after an occurrence. -/
def upon (g : Group (Journal σ)) : Occurrence (Journal σ) → Group (Journal σ)
  | .act a => (g.act a).group
  | .handOver d => (g.handOver d).group
  | .ring => g.ringAlarm.2
  | .wake call => (g.wake call).group
  | .drift network => { g with network := network }

/-- The keepalives that an occurrence leads to, each with the moment at which it is sent. -/
def pings (g : Group (Journal σ)) (o : Occurrence (Journal σ)) : List ℕ :=
  (((g.upon o).network.calls.drop g.network.calls.length).filter fun call =>
    call.command.isKeepalive).map fun _ => g.now

/-- What the history says about keepalives after an occurrence. -/
def pulse (g : Group (Journal σ)) (o : Occurrence (Journal σ)) (x : Pulse) : Pulse :=
  ⟨g.since o x.since, (if g.since o x.since = x.since then x.sent else []) ++ g.pings o⟩

variable {o : Occurrence (Journal σ)}

lemma pings_of_calls {calls : List Call}
    (h : (g.upon o).network.calls = g.network.calls ++ calls) :
    g.pings o = (calls.filter fun call => call.command.isKeepalive).map fun _ => g.now := by
  rw [pings, h, List.drop_left]

lemma Unpinged.pings_eq_nil (h : Unpinged g (g.upon o)) : g.pings o = [] := by
  obtain ⟨calls, hcalls, hnone⟩ := h.calls
  have hfilter : (calls.filter fun call => call.command.isKeepalive) = [] :=
    List.filter_eq_nil_iff.mpr fun call hcall => by simp [hnone call hcall]
  rw [pings_of_calls hcalls, hfilter, List.map_nil]

/-- The process that is running sends a keepalive, and sets the next one. -/
lemma keepAlive_of_current (hopen : g.closed = false)
    (hcurrent : g.supervisor.keepalive = some process) :
    g.keepAlive process =
      Group.setWakeup
        { g with network := (Transport.perform (.keepalive g.profile) g.network).2 }
        g.settings.keepalivePeriod (.keepalive process) := by
  unfold keepAlive
  rw [if_neg (by simp [hopen, hcurrent])]

lemma pings_keepAlive (hopen : g.closed = false)
    (hcurrent : g.supervisor.keepalive = some process) :
    g.pings (.wake (.keepalive process)) = [g.now] := by
  obtain ⟨refused, hcalls⟩ : ∃ refused, (g.upon (.wake (.keepalive process))).network.calls =
      g.network.calls ++ [⟨.keepalive g.profile, refused⟩] := by
    simp only [upon, wake]
    rw [keepAlive_of_current hopen hcurrent, (rests_setWakeup _ _ _).network]
    exact ⟨_, rfl⟩
  rw [pings_of_calls hcalls]
  rfl

/-- The wake-up that takes effect was the only one, and the next one is due one interval later. -/
lemma Ticking.keepAlive {before after : List WakeupCall}
    (h : g.Ticking (before ++ .keepalive process :: after) process start n)
    (hbooks : g.InOrder False (before ++ .keepalive process :: after))
    (hticks : g.timer.stopped = false) (hopen : g.closed = false) :
    (g.keepAlive process).Ticking (before ++ after) process start (n + 1) := by
  have hnow := h.given (by simp)
  have hnext : start + (n + 1 + 1) * g.settings.pace = g.now + g.settings.pace := by
    rw [hnow, Nat.succ_mul (n + 1), Nat.add_assoc]
  -- one wake-up of the process was on the way, and that is the one that takes effect
  have hone := hbooks.ticking hticks process h.current
  have hmore : (before ++ WakeupCall.keepalive process :: after).count (.keepalive process) =
      (before ++ after).count (.keepalive process) + 1 := by
    simp only [List.count_append, List.count_cons_self]
    omega
  have hnone : g.timer.queued (.keepalive process) = 0 := by omega
  have hlast : (before ++ after).count (.keepalive process) = 0 := by omega
  have hinstant : g.Instant (g.keepAlive process) := .wake g (.keepalive process)
  refine ⟨?_, ?_, ?_, fun w hw hcallback => ?_, fun hgiven => ?_⟩
  · rcases g.keepAlive_eq process with ⟨-, heq⟩ | ⟨-, timer, network, heq, -⟩ <;> rw [heq]
    · exact h.current
    · exact h.current
  · rw [hinstant.settings, hinstant.now]
    exact Nat.le_of_eq hnow.symm
  · rw [hinstant.settings, hinstant.now, hnext]
    exact Nat.le_add_right _ _
  · rw [hinstant.settings, hnext]
    rw [keepAlive_of_current hopen h.current] at hw
    rcases mem_setWakeup hw with hqueued | ⟨-, hdue⟩
    · have hpos := Timer.queued_pos_iff.mpr ⟨w, hqueued, hcallback⟩
      exact absurd hnone (Nat.ne_of_gt hpos)
    · exact hdue
  · exact absurd hlast (Nat.ne_of_gt (List.count_pos_iff.mpr hgiven))

/-! ### Every step -/

/-- Nothing is said anew while nothing is sent and no process is started or ended. -/
lemma pulse_of_same (hsince : g.since o x.since = x.since) (hpings : g.pings o = []) :
    g.pulse o x = x := by
  simp only [pulse, hsince, hpings, if_true, List.append_nil]

namespace Beating

/-- Whatever becomes of the process, the history says so. -/
lemma fate (h : g.Beating wakeups x) (hbooks : g.InOrder False wakeups)
    (hinstant : g.Instant (g.upon o)) (hfate : Fate g (g.upon o) x.since (g.since o x.since)) :
    (g.upon o).Beating wakeups (g.pulse o x) := by
  have hpulse := pulse.eq_def g o x
  have hidle := h.sent_of_idle
  generalize hsince : x.since = s at hfate hpulse hidle
  generalize g.since o s = s' at hfate hpulse
  cases hfate with
  | goesOn hstep =>
    rw [hstep.pings_eq_nil, if_pos rfl, List.append_nil, ← hsince] at hpulse
    rw [hpulse]
    exact h.inStep hinstant hstep
  | ends hunpinged hnone =>
    have hsent : (if none = s then x.sent else []) = [] := by
      split
      · next hsame => exact hidle hsame.symm
      · rfl
    rw [hunpinged.pings_eq_nil, hsent] at hpulse
    rw [hpulse]
    exact .idle hnone
  | starts hstarts =>
    have hrunning := Beating.running (Ticking.of_starts hbooks hinstant hstarts)
    rw [hstarts.pings_eq_nil, if_neg (by simp)] at hpulse
    rw [hpulse]
    exact hrunning

lemma keepAlive {before after : List WakeupCall}
    (h : g.Beating (before ++ .keepalive process :: after) x)
    (hbooks : g.InOrder False (before ++ .keepalive process :: after))
    (hticks : g.timer.stopped = false) :
    (g.keepAlive process).Beating (before ++ after) (g.pulse (.wake (.keepalive process)) x) := by
  by_cases hcurrent : g.supervisor.keepalive = some process
  · -- closing stops the supervisor, and with it the process
    have hopen : g.closed = false := by
      by_contra hclosed
      have hstopped := hbooks.closed (by simpa using hclosed)
      cases (hbooks.idle hstopped).1.symm.trans hcurrent
    cases h with
    | idle hnone => cases hnone.symm.trans hcurrent
    | @running current start n h =>
      obtain rfl : current = process := Option.some.inj (h.current.symm.trans hcurrent)
      have hpulse :
          g.pulse (.wake (.keepalive current)) ⟨some start, beats start g.settings.pace n⟩ =
            ⟨some start, beats start g.settings.pace (n + 1)⟩ := by
        simp only [pulse, since, if_true]
        rw [pings_keepAlive hopen hcurrent, beats_succ, h.given (by simp)]
      have hsettings : (g.keepAlive current).settings = g.settings :=
        (Instant.wake g (.keepalive current)).settings
      have hnext := Beating.running (h.keepAlive hbooks hticks hopen)
      rw [hsettings] at hnext
      rw [hpulse]
      exact hnext
  · have hignored : g.keepAlive process = g := by
      unfold Group.keepAlive
      rw [if_pos (by simp [hcurrent])]
    have hsame : g.pulse (.wake (.keepalive process)) x = x := by
      refine pulse_of_same rfl (Unpinged.pings_eq_nil ?_)
      simp only [upon, wake, hignored]
      exact .of_network rfl rfl
    rw [hsame, hignored]
    exact h.of_spent

end Beating

end

end Group

namespace Scene

variable {σ : Type} [Transport σ] {c c' : Scene (Journal σ)} {o : Occurrence (Journal σ)}
  {x : Pulse}

/-- Some thread takes this step, and wake-ups take effect at the moment at which they are due. -/
def InTime (c : Scene (Journal σ)) (o : Occurrence (Journal σ)) (c' : Scene (Journal σ)) : Prop :=
  c.Takes Occurrence.KeepsTime o c' ∧ c.Punctual o

/-- The scenes of a history in which wake-ups take effect on time, each with what the history says
about keepalives. -/
def Pulsing (c : Scene (Journal σ)) (x : Pulse) : Prop :=
  c.Account InTime Group.pulse ⟨none, []⟩ x

/-- Every wake-up that has come due has taken effect. -/
def CaughtUp (c : Scene (Journal σ)) : Prop :=
  c.wakeups = [] ∧ ∀ w ∈ c.group.timer.queue, c.group.now < w.due

instance (c : Scene (Journal σ)) : Decidable c.CaughtUp :=
  inferInstanceAs (Decidable (_ ∧ _))

lemma Pulsing.reachable (h : c.Pulsing x) :
    c.Reachable (Interleaves fun _ => Occurrence.Possible) :=
  Account.reachable h fun _ _ _ hstep => ⟨_, hstep.1.1.1, hstep.1.2⟩

/-- The timer goes on, and what has been sent is what should have been. -/
lemma InTime.beating (h : c.InTime o c') (hbooks : c.InOrder False)
    (hticks : c.group.timer.stopped = false) (hc : c.group.Beating c.wakeups x) :
    c'.group.timer.stopped = false ∧ c'.group.Beating c'.wakeups (c.group.pulse o x) := by
  obtain ⟨⟨⟨hpossible, hnoted, hstop⟩, hstep⟩, hpunctual⟩ := h
  cases hstep with
  | act a =>
    have hfate : Group.Fate c.group (c.group.upon (.act a)) x.since
        (c.group.since (.act a) x.since) :=
      Group.fate_act hbooks hpossible.1 fun ha => hstop (ha ▸ rfl)
    refine ⟨hfate.stopped.trans hticks, ?_⟩
    by_cases htick : ∃ milliseconds, a = .tick milliseconds
    · obtain ⟨milliseconds, rfl⟩ := htick
      have hunpinged : Group.Unpinged c.group (c.group.upon (.act (.tick milliseconds))) :=
        .of_network rfl rfl
      rw [Group.pulse_of_same rfl hunpinged.pings_eq_nil]
      rcases hpunctual with hnone | ⟨hwakeups, hdue⟩
      · obtain rfl : milliseconds = 0 := hnone
        exact hc.inStep ⟨rfl, rfl⟩ (.of_network rfl rfl)
      · rw [hwakeups] at hc
        have hbooks : c.group.InOrder False [] := hwakeups ▸ hbooks
        simp only [acting, hwakeups]
        exact hc.tick hbooks hticks hdue
    · exact hc.fate hbooks (.act _ (not_exists.mp htick)) hfate
  | @handOver before after d hnotices =>
    have hfate : Group.Fate c.group (c.group.upon (.handOver d)) x.since
        (c.group.since (.handOver d) x.since) :=
      Group.fate_handOver _ _ hc.since_eq_none_iff
    exact ⟨hfate.stopped.trans hticks, hc.fate hbooks (.handOver _ _) hfate⟩
  | ring =>
    have hunpinged : Group.Unpinged c.group (c.group.upon .ring) :=
      .of_network rfl (c.group.timer.ring_stopped c.group.now)
    rw [Group.pulse_of_same rfl hunpinged.pings_eq_nil]
    exact ⟨hunpinged.stopped.trans hticks, hc.ringAlarm⟩
  | @wake before after call hwakeups =>
    rw [hwakeups] at hc
    have hbooks : c.group.InOrder False (before ++ call :: after) := hwakeups ▸ hbooks
    cases call with
    | refresh =>
      have hstep : Group.InStep c.group (c.group.upon (.wake .refresh)) := .refresh c.group
      rw [Group.pulse_of_same rfl hstep.pings_eq_nil]
      exact ⟨hstep.stopped.trans hticks, (hc.inStep (.wake c.group .refresh) hstep).of_spent⟩
    | keepalive process =>
      exact ⟨(Group.Paperwork.keepAlive c.group process).stopped.trans hticks,
        hc.keepAlive hbooks hticks⟩
  | drift network =>
    have hstep : Group.InStep c.group (c.group.upon (.drift network)) :=
      ⟨⟨rfl, [], by rw [List.append_nil]; exact hnoted, by simp⟩, rfl, fun _ hw _ _ => hw⟩
    rw [Group.pulse_of_same rfl hstep.pings_eq_nil]
    exact ⟨hticks, hc.inStep ⟨rfl, rfl⟩ hstep⟩

lemma Pulsing.beating (h : c.Pulsing x) :
    c.group.timer.stopped = false ∧ c.group.Beating c.wakeups x := by
  induction h with
  | start => exact ⟨rfl, .idle rfl⟩
  | step h hstep ih => exact hstep.beating (Pulsing.reachable h).inOrder ih.1 ih.2

/-- When wake-ups take effect on time, a keepalive process that was started at some moment sends
keepalives at regular intervals from then on and at no other moment, until it is ended; and without
a process nothing is sent. -/
theorem keepalives_regular (h : c.Pulsing x) :
    (x.since = none → c.group.supervisor.keepalive = none ∧ x.sent = []) ∧
    ∀ start, x.since = some start →
      c.group.supervisor.keepalive.isSome = true ∧
      (∃ n, x.sent = beats start c.group.settings.pace n ∧
        start + n * c.group.settings.pace ≤ c.group.now ∧
        c.group.now ≤ start + (n + 1) * c.group.settings.pace) ∧
      (c.CaughtUp → x.sent = beats start c.group.settings.pace
        ((c.group.now - start) / c.group.settings.pace)) := by
  have hbooks : c.group.InOrder False c.wakeups := h.reachable.inOrder
  obtain ⟨hticks, hbeating⟩ := h.beating
  cases hbeating with
  | idle hnone => exact ⟨fun _ => ⟨hnone, rfl⟩, nofun⟩
  | @running process start n hticking =>
    refine ⟨nofun, fun t ht => ?_⟩
    obtain rfl : start = t := Option.some.inj ht
    have hbegun := hticking.begun
    refine ⟨by rw [hticking.current]; rfl, ⟨n, rfl, hbegun, hticking.ahead⟩, fun hcaught => ?_⟩
    rw [hcaught.1] at hticking hbooks
    obtain ⟨w, hw, hdue⟩ := hticking.exists_queued hbooks hticks
    have hlater := hcaught.2 w hw
    rw [hdue] at hlater
    have hcount : (c.group.now - start) / c.group.settings.pace = n :=
      Nat.div_eq_of_lt_le (by omega) (by omega)
    rw [hcount]

/-- A registration is granted behind a translator, and the alarm of the timer rings in time for the
first keepalives. -/
def keptAlive : Option (Scene (Journal Recorder) × Pulse) :=
  play (fun c o => o.isOrdinary && decide (c.Punctual o)) Group.pulse
    (Move.registering .nobody ++ [.answer (.answering · 200 "OK"), .deliver, .deliver,
      .always (.tick 10000), .ring, .wake, .always (.tick 10000), .ring, .wake,
      .always (.tick 5000)])
    (start (Profile.ofUri ⟨some "alice", "localhost", none⟩ "") .default
      (Journal.opened { Recorder.ofHost "localhost" with address := .v4 ⟨192, 168, 1, 10⟩ }))
    ⟨none, []⟩

lemma pulsing_keptAlive (h : keptAlive.isSome = true) :
    (keptAlive.get h).1.Pulsing (keptAlive.get h).2 := by
  refine account_of_play (fun c o c' hpermits hstep => ?_) (.start _ _ _) (Option.some_get h).symm
  rw [Bool.and_eq_true, decide_eq_true_eq] at hpermits
  have hkeeps := Occurrence.keepsTime_of_isOrdinary (g := c.group) hpermits.1
  exact ⟨⟨hkeeps, hstep.takes.2⟩, hpermits.2⟩

/-- Two keepalives have been sent after twenty-five seconds, when the interval is ten. -/
theorem keepalives_regular_of_translated :
    let p := keptAlive.get (by decide +kernel)
    p.1.Pulsing p.2 ∧ p.2.since = some 0 ∧ p.1.CaughtUp ∧ p.1.group.now = 25000 ∧
      p.2.sent = [10000, 20000] := by
  intro p
  have hpulsing : p.1.Pulsing p.2 := pulsing_keptAlive (by decide +kernel)
  have hsince : p.2.since = some 0 := by decide +kernel
  have hcaught : p.1.CaughtUp := by decide +kernel
  have hnow : p.1.group.now = 25000 := by decide +kernel
  have hpace : p.1.group.settings.pace = 10000 := by decide +kernel
  obtain ⟨-, -, hsent⟩ := (keepalives_regular hpulsing).2 0 hsince
  have hsent := hsent hcaught
  rw [hnow, hpace] at hsent
  exact ⟨hpulsing, hsince, hcaught, hnow, hsent⟩

end Scene

end SipAgent
