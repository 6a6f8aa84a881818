import SipAgent.Proofs.Supervisor.Leasing

/-!
# A registration is refreshed before it lapses

When wake-ups take effect at the moment at which they are due (`Scene.OnTime`), a supervisor never
takes itself for registered once its last grant has lapsed, if the grant is for longer than the
margin that is kept, and no grant is forgotten for longer than its refresh was put off.
-/

namespace SipAgent

/-- The milliseconds that pass. -/
def Occurrence.duration {σ : Type} : Occurrence σ → ℕ
  | .act (.tick milliseconds) => milliseconds
  | _ => 0

namespace Scene

variable {σ : Type} [Transport σ] {c c' : Scene σ} {o : Occurrence σ} {x : Option Grant}

/-- No time passes a wake-up that is due, or that has been given out. -/
def Punctual (c : Scene σ) (o : Occurrence σ) : Prop :=
  o.duration = 0 ∨
    c.wakeups = [] ∧ ∀ w ∈ c.group.timer.queue, c.group.now + o.duration ≤ w.due

instance (c : Scene σ) (o : Occurrence σ) : Decidable (c.Punctual o) :=
  inferInstanceAs (Decidable (_ ∨ _ ∧ _))

/-- The only thread takes this step, and wake-ups take effect at the moment at which they are
due. -/
def OnTime (c : Scene σ) (o : Occurrence σ) (c' : Scene σ) : Prop :=
  c.TakesAlone Occurrence.Supervised o c' ∧ c.Punctual o

lemma OnTime.leased (h : c.OnTime o c') (hreachable : c.Reachable (Proceeds Occurrence.Supervised))
    (hc : c.group.Leased c.notices c.wakeups x) :
    c'.group.Leased c'.notices c'.wakeups (c.group.lease o x) := by
  obtain ⟨hbooks, horderly⟩ := hreachable.orderly
  obtain ⟨hsound, hengaged⟩ := (hreachable.mono fun _ _ hstep => hstep.interleaves).engaged
  have hattended := hengaged.toAttended
  obtain ⟨hstep, hpunctual⟩ := h
  cases hstep with
  | begins hidle ho hstep =>
    rw [hidle] at hc horderly
    cases hstep with
    | act a =>
      simp only [acting, hidle, List.nil_append]
      by_cases htick : ∃ milliseconds, a = .tick milliseconds
      · obtain ⟨milliseconds, rfl⟩ := htick
        rcases hpunctual with hnone | ⟨hwakeups, hdue⟩
        · obtain rfl : milliseconds = 0 := hnone
          exact hc.congr ⟨rfl, rfl⟩ rfl rfl rfl rfl
        · rw [hwakeups] at hc ⊢
          exact hc.tick hdue
      · exact hc.act hsound hattended hbooks horderly.atRest ho (not_exists.mp htick)
    | handOver hnotices =>
      rw [hidle] at hnotices
      simp at hnotices
    | ring =>
      rw [hidle]
      exact hc.ringAlarm
    | @wake before after call hwakeups =>
      simp only [hidle, List.nil_append]
      cases call with
      | refresh => exact hc.refresh hsound hattended hbooks horderly.atRest
      | keepalive process =>
        rw [hwakeups] at hc
        exact hc.keepAlive
    | drift network =>
      rw [hidle]
      exact hc.congr ⟨rfl, rfl⟩ rfl rfl rfl rfl
  | delivers hnotices hd =>
    rw [hnotices] at hc
    rw [delivering_eq hnotices]
    exact hc.handOver hsound hattended hbooks hengaged.ticks

/-- The scenes of a history in which wake-ups take effect on time, each with the last grant. -/
def Granting (c : Scene σ) (x : Option Grant) : Prop :=
  c.Account OnTime Group.lease none x

lemma Granting.reachable (h : c.Granting x) : c.Reachable (Proceeds Occurrence.Supervised) :=
  Account.reachable h fun _ _ _ hstep => hstep.1.proceeds

lemma Granting.leased (h : c.Granting x) : c.group.Leased c.notices c.wakeups x := by
  induction h with
  | start => exact .of_unregistered rfl nofun nofun
  | step h hstep ih => exact hstep.leased (Granting.reachable h) ih

end Scene

/-! ### The request -/

/-- An idle session that is told to register asks for it. -/
lemma Session.calls_register {σ : Type} [Transport σ] {s : Session} (profile : Profile)
    (fresh : SessionId) (hrole : s.role = .dialog) (hs : s.state = .ready) (expiry : UInt32)
    (net : σ) : ∃ tag refused, (s.script profile fresh (.register expiry)).calls net =
      [⟨.register profile tag expiry, refused⟩] := by
  have hrule : s.stateRule profile (.register expiry) =
      some (s.startRegistration profile expiry .registering) := by
    rw [stateRule, hs]
    rfl
  rw [script_of_rule profile fresh hrole rfl hrule]
  exact ⟨_, Script.calls_send (fun _ _ => rfl) _⟩

/-- A refresh asks for a registration while one holds. -/
lemma Group.calls_refresh {σ : Type} [Transport σ] {g : Group (Journal σ)}
    {wakeups : List WakeupCall} (hattended : Attended g) (hbooks : g.InOrder True wakeups)
    (hregistered : g.supervisor.registered = true) (hrest : g.AtRest) :
    ∃ tag refused, g.refresh.group.network.calls =
      g.network.calls ++ [⟨.register g.profile tag g.settings.expiry, refused⟩] := by
  rcases g.refresh_eq with ⟨hcannot, -⟩ | ⟨-, -, id, hid, heq⟩
  · have hnot := hbooks.not_registered_of_idle_refresh (fun _ => hrest) hcannot
    cases hnot.symm.trans hregistered
  · obtain ⟨s, a, hcell, hs, -⟩ := hattended.cell id hid
    have hsession : g.cleared.session? id = some s := session?_eq_some.mpr ⟨a, hcell⟩
    obtain ⟨tag, refused, hcalls⟩ := Session.calls_register g.profile g.cells.length hs.role
      (hrest.state hid hcell) g.settings.expiry g.network.network
    refine ⟨tag, refused, ?_⟩
    rw [heq]
    dsimp only
    rw [calls_dispatch hsession]
    exact congrArg _ hcalls

namespace Scene

variable {σ : Type} [Transport σ] {c : Scene (Journal σ)} {x : Option Grant}

/-- When wake-ups take effect on time, a supervisor never takes itself for registered once the
refresh of its last grant is overdue, and nothing has been left undone about a grant that is
overdue. So if the grant is for longer than the margin, it has not lapsed; and if it is for less, it
is as old as the margin at most. What is done about a grant is to ask the registrar again, unless
the supervisor is stopped or the data connection taken down first. -/
theorem refreshed_before_lapse (h : c.Granting x) (hmargin : 1 ≤ c.group.settings.minExpiry.toNat) :
    (c.group.isRegistered = true → ∃ t, x = some t ∧ c.group.now ≤ t.due c.group.settings ∧
      (c.group.settings.minExpiry.toNat < t.seconds →
        c.group.now < t.moment + t.seconds * 1000)) ∧
    ∀ t, x = some t → t.stands = true →
      c.group.now ≤ t.due c.group.settings ∧
      (c.group.settings.minExpiry.toNat < t.seconds →
        c.group.now < t.moment + t.seconds * 1000) ∧
      (t.seconds ≤ c.group.settings.minExpiry.toNat →
        c.group.now ≤ t.moment + c.group.settings.minExpiry.toNat * 1000) ∧
      ∀ c', c.OnTime (.wake .refresh) c' → ∃ tag refused, c'.group.network.calls =
        c.group.network.calls ++
          [⟨.register c.group.profile tag c.group.settings.expiry, refused⟩] := by
  obtain ⟨hbooks, horderly⟩ := h.reachable.orderly
  obtain ⟨-, hengaged⟩ := (h.reachable.mono fun _ _ hstep => hstep.interleaves).engaged
  constructor
  · intro hregistered
    obtain ⟨t, ht, hnow, -⟩ := h.leased.registered hregistered
    exact ⟨t, ht, hnow, fun hlong => Nat.lt_of_le_of_lt hnow (Grant.due_lt hmargin hlong)⟩
  intro t ht hstands
  have hnow : c.group.now ≤ t.due c.group.settings := (h.leased.stands t ht hstands).now_le
  refine ⟨hnow, fun hlong => ?_, fun hshort => ?_, fun c' hstep => ?_⟩
  · exact Nat.lt_of_le_of_lt hnow (Grant.due_lt hmargin hlong)
  · rw [← Grant.due_of_short hshort]
    exact hnow
  · obtain ⟨hstep, -⟩ := hstep
    cases hstep with
    | begins hidle _ hstep =>
      cases hstep with
      | wake hwakeups =>
        have hholds := h.leased.stands t ht hstands
        rw [hidle] at hholds horderly
        exact Group.calls_refresh hengaged.toAttended hbooks hholds.registered
          (horderly.atRest hholds.registered)

/-- A registration is granted, time passes, and the alarm of the timer rings. -/
def timePasses (answer : ClientTransaction → Response) (milliseconds : ℕ) :
    Option (Scene (Journal Recorder) × Option Grant) :=
  play (fun c o => o.isOrdinary && decide (c.Punctual o)) Group.lease
    (Move.registering .nobody ++ [.answer answer, .deliver, .deliver,
      .always (.tick milliseconds), .ring])
    ofAlice none

lemma granting_timePasses {answer : ClientTransaction → Response} {milliseconds : ℕ}
    (h : (timePasses answer milliseconds).isSome = true) :
    ((timePasses answer milliseconds).get h).1.Granting
      ((timePasses answer milliseconds).get h).2 := by
  refine account_of_play (fun c o c' hpermits hstep => ?_) (.start _ _ _) (Option.some_get h).symm
  rw [Bool.and_eq_true, decide_eq_true_eq] at hpermits
  exact ⟨hstep.mono fun _ _ => Occurrence.supervised_of_isOrdinary hpermits.1, hpermits.2⟩

/-- A registration for an hour is about to be refreshed, a minute before its end. -/
theorem refreshed_before_lapse_of_hour :
    let p := (timePasses (.answering · 200 "OK") 3540000).get (by decide +kernel)
    let c' : Scene (Journal Recorder) := ⟨(p.1.group.wake .refresh).group,
      p.1.notices ++ (p.1.group.wake .refresh).deliveries, []⟩
    p.1.Granting p.2 ∧ 1 ≤ p.1.group.settings.minExpiry.toNat ∧ p.1.group.isRegistered = true ∧
      p.2 = some ⟨0, 3600, true⟩ ∧ p.1.group.now < 0 + 3600 * 1000 ∧
      p.1.OnTime (.wake .refresh) c' ∧ ∃ tag refused, c'.group.network.calls =
        p.1.group.network.calls ++ [⟨.register p.1.group.profile tag 3600, refused⟩] := by
  intro p c'
  have hgranting : p.1.Granting p.2 := granting_timePasses (by decide +kernel)
  have hmargin : 1 ≤ p.1.group.settings.minExpiry.toNat := by decide +kernel
  have hregistered : p.1.group.isRegistered = true := by decide +kernel
  have hgrant : p.2 = some ⟨0, 3600, true⟩ := by decide +kernel
  have hwakeups : p.1.wakeups = [] ++ .refresh :: [] := by decide +kernel
  have hstep : p.1.OnTime (.wake .refresh) c' :=
    ⟨.begins (by decide +kernel) ⟨trivial, trivial⟩ (.wake hwakeups), .inl rfl⟩
  have hexpiry : p.1.group.settings.expiry = 3600 := by decide +kernel
  obtain ⟨-, hstands⟩ := refreshed_before_lapse hgranting hmargin
  obtain ⟨-, hlong, -, hasks⟩ := hstands _ hgrant rfl
  rw [hexpiry] at hasks
  exact ⟨hgranting, hmargin, hregistered, hgrant, hlong (by decide +kernel), hstep, hasks c' hstep⟩

/-- A registration that is granted for half a minute is over, still taken to hold, and not about to
be refreshed before another half a minute has passed: the margin is also the shortest delay. -/
theorem outlived_of_half_minute :
    let p := (timePasses (fun t => { Response.answering t 200 "OK" with expires := some 30 })
      30000).get (by decide +kernel)
    p.1.Granting p.2 ∧ 1 ≤ p.1.group.settings.minExpiry.toNat ∧ p.1.group.isRegistered = true ∧
      p.2 = some ⟨0, 30, true⟩ ∧ ¬ p.1.group.now < 0 + 30 * 1000 ∧
      p.1.group.timer.dues .refresh = [60000] :=
  ⟨granting_timePasses (by decide +kernel), by decide +kernel, by decide +kernel,
    by decide +kernel, by decide +kernel, by decide +kernel⟩

end Scene

end SipAgent
