import SipAgent.Proofs.Supervisor.InOrder

/-!
# No registration while offline

A grant is decided while the data connection is up, but the supervisor is told of it later. If the
connection has been lost in between, the supervisor takes itself for registered all the same, and
schedules the refresh and keepalives. This is the only way in which it can be wrong about the data
connection, however several threads interleave.
-/

namespace SipAgent

variable {σ : Type} [Transport σ]

/-- A grant takes effect without a look at the data connection. -/
lemma Group.onRegistrationDone_granted (g : Group σ) (id : SessionId) {duration : Int}
    (hpos : 0 < duration) :
    (g.onRegistrationDone id duration).group.supervisor.registered = true ∧
      (g.onRegistrationDone id duration).group.connected = g.connected := by
  obtain ⟨timer, heq, -⟩ :=
    (g.accepted duration).scheduleRefresh_eq (g.settings.refreshDelay duration.toNat)
  rw [onRegistrationDone_of_pos g id hpos, heq]
  rcases startKeepalive_eq (σ := σ) _ with heq | ⟨-, timer, heq, -⟩
  · rw [heq]
    exact ⟨rfl, rfl⟩
  · rw [heq]
    exact ⟨rfl, rfl⟩

namespace Scene

variable {c c' : Scene σ} {o : Occurrence σ}

lemma Step.of_belated (h : c.Step o c') (ho : o.Belated c.group) :
    c'.group.supervisor.registered = true ∧ c'.group.connected = false := by
  cases h with
  | act | ring | wake | drift => exact ho.elim
  | @handOver before after d _ =>
    rcases d with ⟨_ | _, id, notice⟩
    · exact ho.elim
    cases notice with
    | registrationDone duration =>
      obtain ⟨hpos, hsupervises, hdown⟩ := ho
      obtain ⟨hregistered, hconnected⟩ := c.group.onRegistrationDone_granted id hpos
      simp only [Group.handOver, if_pos hsupervises]
      exact ⟨hregistered, hconnected.trans hdown⟩
    | _ => exact ho.elim

/-- Whatever several threads do, a registration only holds while the supervisor is running in an
open group. Unless a grant has come too late, it only holds while the data connection is up, and
while the connection is down no wake-up is queued. A grant that comes too late breaks this at once. -/
theorem registered_online_unless_belated
    (h : c.Reachable (Interleaves fun _ => Occurrence.Possible)) :
    (c.group.supervisor.registered = true →
      c.group.supervisor.running = true ∧ c.group.closed = false) ∧
    (c.Reachable (Interleaves Occurrence.Timely) →
      (c.group.supervisor.registered = true → c.group.connected = true) ∧
      (c.group.connected = false → c.group.timer.queue = [])) ∧
    ∀ o c', o.Belated c.group → c.Step o c' →
      c'.group.supervisor.registered = true ∧ c'.group.connected = false := by
  refine ⟨fun hregistered => ?_, fun htimely => ?_, fun o c' ho hstep => hstep.of_belated ho⟩
  · have hc := h.inOrder
    have hrunning := hc.registered hregistered
    refine ⟨hrunning, ?_⟩
    by_contra hclosed
    rw [hc.closed (by simpa using hclosed)] at hrunning
    cases hrunning
  · have hc := htimely.inOrder_of_timely
    refine ⟨fun hregistered => ?_, fun hdown => ?_⟩
    · by_contra hdown
      rw [(hc.offline trivial (by simpa using hdown)).1] at hregistered
      cases hregistered
    · obtain ⟨-, hkeepalive, hrefresh⟩ := hc.offline trivial hdown
      rw [Timer.queue_eq_nil_iff]
      exact hc.queued_eq_zero hkeepalive hrefresh

/-- The supervisor is told of its registration in time. -/
theorem registered_online_of_timely_grant :
    let c := granted.delivering
    c.Reachable (Interleaves fun _ => Occurrence.Possible) ∧
      c.Reachable (Interleaves Occurrence.Timely) ∧ c.group.supervisor.registered = true ∧
      c.group.supervisor.running = true ∧ c.group.connected = true := by
  intro c
  have htimely : c.Reachable (Proceeds Occurrence.Timely) := by
    have hup : ∀ (g : Group Recorder) d, g.connected = true →
        Occurrence.Timely g (.handOver d) := by
      intro g d hup
      refine ⟨trivial, fun hbelated => ?_⟩
      rw [hbelated.offline] at hup
      cases hup
    refine .delivering (.granted (fun _ _ => ⟨⟨nofun, trivial⟩, id⟩)
      (fun _ _ => ⟨⟨nofun, trivial⟩, id⟩) hup) fun d => hup _ d ?_
    decide +kernel
  have hinterleaves : c.Reachable (Interleaves Occurrence.Timely) :=
    htimely.mono fun _ _ h => h.interleaves
  have hpossible : c.Reachable (Interleaves fun _ => Occurrence.Possible) :=
    hinterleaves.mono fun _ _ h => h.mono fun _ _ ho => ho.1
  obtain ⟨hruns, honline, -⟩ := registered_online_unless_belated hpossible
  have hregistered : c.group.supervisor.registered = true := by decide +kernel
  exact ⟨hpossible, hinterleaves, hregistered, (hruns hregistered).1,
    (honline hinterleaves).1 hregistered⟩

/-- The connection is lost between a grant and the moment at which the supervisor is told of it.
From then on a registration holds offline, and its refresh is scheduled. -/
theorem belated_grant_registers_offline :
    let c := (granted.acting (.setConnected false)).delivering
    c.Reachable (Interleaves Occurrence.Supervised) ∧ c.group.supervisor.registered = true ∧
      c.group.connected = false ∧ c.group.timer.queued .refresh = 1 := by
  intro c
  have hlost : (granted.acting (.setConnected false)).Reachable
      (Interleaves Occurrence.Supervised) :=
    (Reachable.granted_supervised.mono fun _ _ h => h.interleaves).tail
      ⟨.act (.setConnected false), ⟨⟨nofun, trivial⟩, trivial⟩, .act _⟩
  refine ⟨?_, by decide +kernel, by decide +kernel, by decide +kernel⟩
  obtain ⟨d, waiting, hnotices⟩ : ∃ d waiting,
      (granted.acting (.setConnected false)).notices = d :: waiting :=
    List.exists_cons_of_ne_nil (by decide +kernel)
  exact hlost.tail ⟨.handOver d, ⟨trivial, trivial⟩, step_delivering hnotices⟩

end Scene

end SipAgent
