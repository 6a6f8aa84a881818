import SipAgent.Proofs.Group.Debts
import SipAgent.Proofs.Supervisor.Consistency

/-!
# The supervisor keeps quiet once it has given up

A supervisor that has been stopped, or that has given up because of a failure, leaves its session to
itself: requests may be under way, wake-ups may have been given out, and notices may wait. Until it
is started again nothing of this makes it register or send keepalives, and the listener of the
registration is told nothing unless it asks (`silenced_supervisor_stays_quiet`). Every step keeps
this up, `Step.hushed`, because every way back to the registrar looks first whether the supervisor
is running.
-/

namespace SipAgent

/-- The command neither asks for a registration nor keeps the way to the registrar open. -/
def Command.isQuiet : Command → Bool
  | .register .. | .keepalive _ => false
  | _ => true

namespace Occurrence

variable {σ : Type}

/-- The supervisor is stopped, or it is told of a failure after which it gives up. -/
def Silences (g : Group σ) : Occurrence σ → Prop
  | .act .stopRegistration => True
  | .handOver ⟨.supervisor, id, .registrationFailed code _⟩ =>
    g.supervises id ∧ (code = .invalidCredentials ∨ code = .serverUnreachable)
  | _ => False

/-- The supervisor is not started, and no session is told to register. -/
def AsksNoRegistration : Occurrence σ → Prop
  | .act (.startRegistration _) => False
  | .act (.command _ e) => e.isRegistration = false
  | _ => True

/-- What a listener is told because it asks for the state of the registration. -/
def replays (g : Group σ) : Occurrence σ → List Delivery
  | .act (.setRegistrationListener l) => (g.setRegistrationListener l).deliveries
  | _ => []

/-- The session of the supervisor is left to it, nobody asks for a registration, and the record of
what the network is asked is kept. -/
structure Abstains (g : Group (Journal σ)) (o : Occurrence (Journal σ)) : Prop where
  undisturbed : o.Undisturbed g
  noted : o.Noted g
  nothing : o.AsksNoRegistration

end Occurrence

namespace Session

variable {σ : Type} [Transport σ] {s : Session} {e : SessionEvent}

/-- A session that is told nothing of the kind asks for no registration, and never for a
keepalive. -/
lemma quiet_script (profile : Profile) (fresh : SessionId) (s : Session)
    (he : e.isRegistration = false) (net : σ) :
    ∀ call ∈ (s.script profile fresh e).calls net, call.command.isQuiet = true := by
  have hasks : ∀ c, Asks profile (s.attaching e) e c → c.isQuiet = true := by
    intro c hc
    cases hc with
    | registers tag expiry hasked => cases he.symm.trans hasked
    | _ => rfl
  have hgivesUp : ∀ c, (s.attaching e).GivesUp c → c.isQuiet = true := by
    rintro c ⟨d, -, rfl⟩
    rfl
  exact ((gives_script profile fresh s e).mono hasks hgivesUp).calls (Promise.nothing_keptBy σ) net

/-- An idle session that is told to deregister asks for the end of the registration. -/
lemma calls_deregister (profile : Profile) (fresh : SessionId) (hrole : s.role = .dialog)
    (hs : s.state = .ready) (net : σ) : ∃ tag refused,
      (s.script profile fresh .deregister).calls net = [⟨.register profile tag 0, refused⟩] := by
  have hrule : s.stateRule profile .deregister =
      some (s.startRegistration profile 0 .deregistering) := by
    rw [stateRule, hs]
    rfl
  rw [script_of_rule profile fresh hrole rfl hrule]
  exact ⟨_, Script.calls_send (fun _ _ => rfl) _⟩

/-- A session that is under way is not disturbed. -/
lemma calls_deregister_of_busy (profile : Profile) (fresh : SessionId) (hrole : s.role = .dialog)
    (hs : s.state ≠ .ready) (net : σ) : (s.script profile fresh .deregister).calls net = [] := by
  rw [script_of_declined profile fresh hrole hs rfl]
  rfl

end Session

namespace Group

/-! ### Who is told -/

section

variable {σ : Type} {g g' : Group σ} {d : Delivery}

/-- A listener of the application is told something about the registration. -/
def announces (g : Group σ) (d : Delivery) : Bool :=
  match d.addressee with
  | .listener (.named _) => g.supervisor.session = some d.session
  | _ => false

lemma announces_congr (h : g'.supervisor.session = g.supervisor.session) :
    g'.announces = g.announces := by
  funext d
  simp only [announces, h]

lemma not_announces_of_ne (h : g.supervisor.session ≠ some d.session) : g.announces d = false := by
  unfold announces
  split
  · exact decide_eq_false h
  · rfl

lemma not_announces_of_reportsTo (h : g.ReportsTo d.addressee) : g.announces d = false := by
  unfold announces
  split
  · next name hname =>
    rcases h with h | ⟨-, h⟩
    · cases hname.symm.trans h
    · cases hname.symm.trans h
  · rfl

end

variable {σ : Type} {g g₁ g' : Group (Journal σ)} {id : SessionId} {e : SessionEvent}
  {ds ds' : List Delivery}

/-- A supervisor that is not running remains so and keeps its session; nothing but quiet commands is
asked of the network, and no listener is told anything about the registration. -/
structure Hushed (g g' : Group (Journal σ)) (ds : List Delivery) : Prop where
  running : g'.supervisor.running = false
  session : g'.supervisor.session = g.supervisor.session
  calls : ∃ calls, g'.network.calls = g.network.calls ++ calls ∧
    ∀ call ∈ calls, call.command.isQuiet = true
  told : ∀ d ∈ ds, g.announces d = false

namespace Hushed

/-- Whatever asks nothing of the network. -/
lemma of_eq (hstopped : g.supervisor.running = false)
    (hrunning : g'.supervisor.running = g.supervisor.running)
    (hsession : g'.supervisor.session = g.supervisor.session) (hnetwork : g'.network = g.network) :
    Hushed g g' [] where
  running := hrunning.trans hstopped
  session := hsession
  calls := ⟨[], by rw [hnetwork, List.append_nil], by simp⟩
  told := by simp

lemma refl (hstopped : g.supervisor.running = false) : Hushed g g [] :=
  .of_eq hstopped rfl rfl rfl

lemma trans (h : Hushed g g₁ ds) (h' : Hushed g₁ g' ds') : Hushed g g' (ds ++ ds') where
  running := h'.running
  session := h'.session.trans h.session
  calls := by
    obtain ⟨calls, hcalls, hquiet⟩ := h.calls
    obtain ⟨calls', hcalls', hquiet'⟩ := h'.calls
    refine ⟨calls ++ calls', by rw [hcalls', hcalls, List.append_assoc], fun call hcall => ?_⟩
    exact (List.mem_append.mp hcall).elim (hquiet call) (hquiet' call)
  told d hd := by
    rcases List.mem_append.mp hd with hd | hd
    · exact h.told d hd
    · rw [← announces_congr h.session]
      exact h'.told d hd

end Hushed

variable [Transport σ]

/-! ### What is done while the supervisor is not running -/

lemma hushed_dispatch (hg : Sound g) (hattended : Attended g)
    (hstopped : g.supervisor.running = false) (id : SessionId) (he : e.isRegistration = false) :
    Hushed g (g.dispatch id e).group (g.dispatch id e).deliveries := by
  have hsupervisor := supervisor_dispatch g id e
  cases hcell : g.cells[id]? with
  | none =>
    rw [dispatch_of_none (by rw [session?, hcell]; rfl)]
    exact .refl hstopped
  | some cell =>
    refine ⟨(congrArg Supervisor.running hsupervisor).trans hstopped,
      congrArg Supervisor.session hsupervisor, ?_, fun d hd => ?_⟩
    · exact ⟨_, calls_dispatch (session?_eq_some.mpr ⟨_, hcell⟩) e,
        Session.quiet_script _ _ _ he _⟩
    · by_cases hid : g.supervisor.session = some id
      · -- the session of the supervisor, which reports to it or to nobody
        obtain ⟨s, a, hcell', -, ha⟩ := hattended.cell id hid
        rw [dispatch_deliveries hcell'] at hd
        obtain ⟨report, -, rfl⟩ := List.mem_map.mp hd
        exact not_announces_of_reportsTo ha
      · exact not_announces_of_ne (dispatch_deliveries_ne hg hattended hid e d hd)

lemma hushed_disconnect (hg : Sound g) (hattended : Attended g)
    (hstopped : g.supervisor.running = false) (ids : List SessionId) :
    Hushed g (g.disconnect ids).group (g.disconnect ids).deliveries := by
  induction ids generalizing g with
  | nil => exact .refl hstopped
  | cons id more ih =>
    have hfirst := hushed_dispatch (e := .connectionLost) hg hattended hstopped id rfl
    exact hfirst.trans (ih (hg.dispatch id _) (hattended.connectionLost hg id) hfirst.running)

lemma hushed_loseConnection (hg : Sound g) (hattended : Attended g)
    (hstopped : g.supervisor.running = false) :
    Hushed g g.loseConnection.group g.loseConnection.deliveries := by
  have hoffline : Hushed g { g with connected := false } [] := .of_eq hstopped rfl rfl rfl
  have hcut := hoffline.trans (hushed_disconnect (hg.keeps (keeps_offline g)) hattended.offline
    hstopped g.registry.owners)
  obtain ⟨timer, error, -, -, heq⟩ := g.loseConnection_eq
  have hnobody : g.bulletin = [] := by
    rw [List.eq_nil_iff_forall_not_mem]
    intro d hd
    cases (g.mem_bulletin hd).1.symm.trans hstopped
  rw [heq, hnobody, List.append_nil]
  exact ⟨hstopped, rfl, hcut.calls, hcut.told⟩

omit [Transport σ] in
lemma hushed_setAddressee (hstopped : g.supervisor.running = false) (id : SessionId)
    (a : Addressee) : Hushed g (g.setAddressee id a) [] := by
  have hsupervisor := supervisor_setAddressee g id a
  exact .of_eq hstopped (congrArg Supervisor.running hsupervisor)
    (congrArg Supervisor.session hsupervisor) (rests_setAddressee g id a).network

omit [Transport σ] in
/-- A listener that asks for the state of the registration is the only one that is told. -/
lemma hushed_setRegistrationListener (hstopped : g.supervisor.running = false) (l : Listener) :
    Hushed g (g.setRegistrationListener l).group [] := by
  unfold setRegistrationListener
  split
  · exact .refl hstopped
  · dsimp only
    split <;> exact .of_eq hstopped rfl rfl rfl

lemma hushed_act (hg : Sound g) (hattended : Attended g) (hstopped : g.supervisor.running = false)
    {a : Action} (ha : (Occurrence.act a : Occurrence (Journal σ)).Possible)
    (hnothing : (Occurrence.act a : Occurrence (Journal σ)).AsksNoRegistration)
    (hasks : ∀ l, a ≠ .setRegistrationListener l) :
    Hushed g (g.act a).group (g.act a).deliveries := by
  cases a with
  | createSession l =>
    by_cases hclosed : g.closed = true
    · simp only [act, createSession, if_pos hclosed]
      exact .refl hstopped
    · simp only [act, createSession, if_neg hclosed]
      exact .of_eq hstopped rfl rfl rfl
  | command id e =>
    simp only [act, answering, command]
    split
    · exact .refl hstopped
    · split <;> exact hushed_dispatch hg hattended hstopped id hnothing
  | setListener id l => exact hushed_setAddressee hstopped id _
  | openToCalls l =>
    by_cases hclosed : g.closed = true
    · simp only [act, openToCalls, if_pos hclosed]
      exact .refl hstopped
    · simp only [act, openToCalls, if_neg hclosed]
      exact .of_eq hstopped rfl rfl rfl
  | closeToCalls => exact .of_eq hstopped rfl rfl rfl
  | signal m =>
    simp only [act, answering, processSignal]
    split
    · exact .refl hstopped
    · split
      · exact .refl hstopped
      · exact hushed_dispatch hg hattended hstopped _ (by cases m <;> rfl)
  | startRegistration l => exact hnothing.elim
  | stopRegistration =>
    simp only [act, answering, g.stopRegistration_of_not_running hstopped]
    exact .refl hstopped
  | setRegistrationListener l => exact absurd rfl (hasks l)
  | setConnected up =>
    simp only [act, answering, setConnected]
    split_ifs
    · exact .refl hstopped
    · rw [regainConnection_of_not_running g hstopped]
      exact .of_eq hstopped rfl rfl rfl
    · exact hushed_loseConnection hg hattended hstopped
  | tick milliseconds => exact .of_eq hstopped rfl rfl rfl
  | ring => exact absurd rfl ha.1
  | stopTimer => exact .of_eq hstopped rfl rfl rfl
  | close =>
    simp only [act, answering, close]
    split
    · exact .refl hstopped
    · rw [g.stopRegistration_of_not_running hstopped]
      exact .of_eq hstopped rfl rfl rfl

lemma wake_of_not_running (hstopped : g.supervisor.running = false)
    (hkeepalive : g.supervisor.keepalive = none) (call : WakeupCall) :
    g.wake call = ⟨g, [], ()⟩ := by
  cases call with
  | refresh => simp [wake, refresh, hstopped]
  | keepalive process => simp [wake, keepAlive, hkeepalive]

/-! ### The last request -/

/-- A supervisor that takes itself for registered while the data connection is up tells its session
to deregister on the way out. -/
lemma stopRegistration_of_registered (hrunning : g.supervisor.running = true)
    (hid : g.supervisor.session = some id) (hregistered : g.supervisor.registered = true)
    (hup : g.connected = true) :
    let change := (g.dismissed id).dispatch id .deregister
    g.stopRegistration = ⟨change.group, change.deliveries, ()⟩ := by
  have hsession : g.retired.supervisor.session = some id := g.session_retired.trans hid
  have hconnected := (g.connected_dismissed id).trans hup
  unfold stopRegistration
  rw [if_pos hrunning]
  dsimp only
  split
  · next hnone => cases hsession.symm.trans hnone
  · next id' hid' =>
    obtain rfl : id = id' := Option.some.inj (hsession.symm.trans hid')
    rw [if_pos]
    · rfl
    · rw [Bool.and_eq_true]
      exact ⟨hregistered, hconnected⟩

/-- Otherwise it asks for nothing. -/
lemma network_stopRegistration
    (hnot : ¬ (g.supervisor.registered = true ∧ g.connected = true)) :
    g.stopRegistration.group.network = g.network := by
  unfold stopRegistration
  split
  · dsimp only
    split
    · exact (rests_retired g).network
    · next id _ =>
      rw [if_neg]
      · exact (rests_dismissed g id).network
      · rw [Bool.and_eq_true]
        exact fun h => hnot ⟨h.1, (g.connected_dismissed id).symm.trans h.2⟩
  · rfl

/-- The supervisor ends its registration on the way out if it takes itself for registered, the data
connection is up, and its session is idle. -/
lemma calls_stopRegistration (hattended : Attended g)
    (hrunning : g.supervisor.registered = true → g.supervisor.running = true) :
    ∃ calls, g.stopRegistration.group.network.calls = g.network.calls ++ calls ∧
      (calls = [] ∨ ∃ tag refused, calls = [⟨.register g.profile tag 0, refused⟩]) ∧
      (calls ≠ [] ↔ g.supervisor.registered = true ∧ g.connected = true ∧ g.AtRest) := by
  by_cases hholds : g.supervisor.registered = true ∧ g.connected = true
  · obtain ⟨hregistered, hup⟩ := hholds
    obtain ⟨id, hid⟩ := hattended.session (hrunning hregistered)
    obtain ⟨s, a, hcell, hs, -⟩ := hattended.cell id hid
    have hsession : (g.dismissed id).session? id = some s :=
      (keeps_dismissed g id).sessions id s (session?_eq_some.mpr ⟨a, hcell⟩)
    rw [stopRegistration_of_registered (hrunning hregistered) hid hregistered hup]
    have hcalls := calls_dispatch hsession .deregister
    rw [(rests_dismissed g id).network, (rests_dismissed g id).profile] at hcalls
    refine ⟨_, hcalls, ?_⟩
    by_cases hready : s.state = .ready
    · have hrest : g.AtRest := ⟨id, hid, (stateOf_of_cell hcell).trans hready⟩
      obtain ⟨tag, refused, hasked⟩ := Session.calls_deregister g.profile
        (g.dismissed id).cells.length hs.role hready g.network.network
      rw [hasked]
      exact ⟨.inr ⟨tag, refused, rfl⟩, by simp [hregistered, hup, hrest]⟩
    · have hbusy : ¬ g.AtRest := fun hrest => hready (hrest.state hid hcell)
      rw [Session.calls_deregister_of_busy _ _ hs.role hready]
      exact ⟨.inl rfl, by simp [hbusy]⟩
  · refine ⟨[], by rw [network_stopRegistration hholds, List.append_nil], .inl rfl, ?_⟩
    simp only [ne_eq, not_true_eq_false, false_iff]
    exact fun h => hholds ⟨h.1, h.2.1⟩

end Group

namespace Scene

variable {σ : Type} [Transport σ]

/-! ### What one step does -/

section

variable {c c₁ c' : Scene (Journal σ)} {o : Occurrence (Journal σ)}
  {replays replays' : List Delivery}

/-- The supervisor keeps quiet, and what listeners are to be told about the registration was to be
told before, or is a replay. -/
structure Hushed (c : Scene (Journal σ)) (replays : List Delivery) (c' : Scene (Journal σ)) :
    Prop extends Group.Hushed c.group c'.group [] where
  notices : (c'.notices.filter c.group.announces).Sublist
    (c.notices.filter c.group.announces ++ replays)

omit [Transport σ] in
lemma Hushed.refl (hstopped : c.group.supervisor.running = false) : Hushed c [] c where
  toHushed := .refl hstopped
  notices := by rw [List.append_nil]

omit [Transport σ] in
lemma Hushed.trans (h : Hushed c replays c₁) (h' : Hushed c₁ replays' c') :
    Hushed c (replays ++ replays') c' where
  toHushed := h.toHushed.trans h'.toHushed
  notices := by
    have hlater := h'.notices
    rw [Group.announces_congr h.session] at hlater
    rw [← List.append_assoc]
    exact hlater.trans (h.notices.append_right replays')

omit [Transport σ] in
/-- Notices that announce nothing do not count. -/
lemma Hushed.of_group {ds waiting : List Delivery} (h : Group.Hushed c.group c'.group ds)
    (hwaiting : waiting.Sublist c.notices) (hnotices : c'.notices = waiting ++ ds) :
    Hushed c [] c' where
  toHushed := { h with told := by simp }
  notices := by
    have hnone : ds.filter c.group.announces = [] :=
      List.filter_eq_nil_iff.mpr fun d hd => by simp [h.told d hd]
    rw [hnotices, List.filter_append, hnone, List.append_nil, List.append_nil]
    exact hwaiting.filter _

/-- Whatever happens while nobody asks for a registration, a supervisor that is not running keeps
quiet. -/
lemma Step.hushed (h : c.Step o c') (ho : o.Abstains c.group) (hsound : c.group.Sound)
    (hattended : c.group.Attended) (hbooks : c.InOrder False)
    (hstopped : c.group.supervisor.running = false) :
    Hushed c (o.replays c.group) c' := by
  cases h with
  | act a =>
    by_cases hasks : ∃ l, a = .setRegistrationListener l
    · obtain ⟨l, rfl⟩ := hasks
      have hasked := Group.hushed_setRegistrationListener hstopped l
      refine ⟨hasked, ?_⟩
      simp only [acting, List.filter_append]
      exact List.Sublist.append_left List.filter_sublist _
    · have hnone : (Occurrence.act a).replays c.group = [] := by
        cases a with
        | setRegistrationListener l => exact absurd ⟨l, rfl⟩ hasks
        | _ => rfl
      rw [hnone]
      exact .of_group (Group.hushed_act hsound hattended hstopped ho.undisturbed.1 ho.nothing
        fun l hl => hasks ⟨l, hl⟩) (List.Sublist.refl _) rfl
  | @handOver before after d hnotices =>
    rw [c.group.handOver_of_not_running hstopped]
    refine .of_group (.refl hstopped) ?_ (List.append_nil _).symm
    rw [hnotices]
    exact (List.sublist_cons_self _ _).append_left _
  | ring =>
    exact .of_group (.of_eq hstopped rfl rfl rfl) (List.Sublist.refl _) (List.append_nil _).symm
  | @wake before after call hwakeups =>
    rw [Group.wake_of_not_running hstopped (hbooks.idle hstopped).1]
    exact .of_group (.refl hstopped) (List.Sublist.refl _) rfl
  | drift network =>
    have hcalls : network.calls = c.group.network.calls := ho.noted
    refine ⟨⟨hstopped, rfl, ⟨[], ?_, by simp⟩, by simp⟩, List.sublist_append_left _ _⟩
    rw [List.append_nil]
    exact hcalls

/-- The supervisor has given up. -/
lemma Step.silenced (h : c.Step o c') (ho : o.Silences c.group) :
    c'.group.supervisor.running = false := by
  cases h with
  | act a =>
    cases a with
    | stopRegistration => exact c.group.stopRegistration_running
    | _ => exact ho.elim
  | @handOver before after d _ =>
    rcases d with ⟨_ | _, id, notice⟩
    · exact ho.elim
    cases notice with
    | registrationFailed code message =>
      obtain ⟨hsupervises, rfl | rfl⟩ := ho
      · simp only [Group.handOver, if_pos hsupervises]
        exact Group.pause_running _
      · simp only [Group.handOver, if_pos hsupervises]
        exact Group.pause_running _
    | _ => exact ho.elim
  | ring | wake | drift => exact ho.elim

end

/-! ### What a whole run does -/

variable {c c₀ c' : Scene (Journal σ)} {o : Occurrence (Journal σ)} {replays : List Delivery}

/-- A run in which nobody asks for a registration, and what listeners are told in it because they
ask for the state of the registration. -/
inductive Abstains (c₀ : Scene (Journal σ)) : List Delivery → Scene (Journal σ) → Prop where
  | refl : Abstains c₀ [] c₀
  | tail {replays : List Delivery} {c c' : Scene (Journal σ)} {o : Occurrence (Journal σ)}
      (h : Abstains c₀ replays c) (ho : o.Abstains c.group) (hstep : c.Step o c') :
      Abstains c₀ (replays ++ o.replays c.group) c'

lemma Abstains.hushed (h : c₀.Abstains replays c') (hstopped : c₀.group.supervisor.running = false)
    (hreachable : c₀.Reachable (Interleaves Occurrence.Undisturbed)) :
    c'.Reachable (Interleaves Occurrence.Undisturbed) ∧ Hushed c₀ replays c' := by
  induction h with
  | refl => exact ⟨hreachable, .refl hstopped⟩
  | tail _ ho hstep ih =>
    obtain ⟨hreachable, hhushed⟩ := ih
    obtain ⟨hsound, hattended⟩ := hreachable.attended
    have hbooks := (hreachable.mono fun _ _ h => h.mono fun _ _ ho => ho.1).inOrder
    exact ⟨hreachable.tail ⟨_, ho.undisturbed, hstep⟩,
      hhushed.trans (hstep.hushed ho hsound hattended hbooks hhushed.running)⟩

/-- However several threads interleave, as long as the session of the supervisor is left to it: once
the supervisor has been stopped, or has given up because of wrong credentials or an unreachable
server, and until somebody asks for a registration again, the network is asked for no registration
and no keepalive, and listeners are told nothing about the registration but what was on its way to
them, and what they ask for. Stopping the supervisor tells nobody. It asks for the end of the
registration once or not at all, and not if none holds; a thread that hands every notice over before
it goes on always asks for it if one holds. -/
theorem silenced_supervisor_stays_quiet (h : c.Reachable (Interleaves Occurrence.Undisturbed)) :
    (∀ o c₀ replays c', o.Undisturbed c.group → o.Silences c.group → c.Step o c₀ →
      c₀.Abstains replays c' →
      (∃ calls, c'.group.network.calls = c₀.group.network.calls ++ calls ∧
        ∀ call ∈ calls, call.command.isQuiet = true) ∧
      (c'.notices.filter c₀.group.announces).Sublist
        (c₀.notices.filter c₀.group.announces ++ replays)) ∧
    (∀ d ∈ (c.group.act .stopRegistration).deliveries, d.addressee = .listener .nobody) ∧
    ∃ calls, (c.acting .stopRegistration).group.network.calls = c.group.network.calls ++ calls ∧
      (calls = [] ∨ ∃ tag refused, calls = [⟨.register c.group.profile tag 0, refused⟩]) ∧
      (c.group.isRegistered = false → calls = []) ∧
      (c.Reachable (Proceeds Occurrence.Undisturbed) → c.notices = [] →
        c.group.isRegistered = true → calls ≠ []) := by
  obtain ⟨hsound, hattended⟩ := h.attended
  have hbooks := (h.mono fun _ _ h => h.mono fun _ _ ho => ho.1).inOrder
  refine ⟨fun o c₀ replays c' ho hsilences hstep hrun => ?_,
    c.group.deliveries_stopRegistration, ?_⟩
  · have hreachable := h.tail ⟨o, ho, hstep⟩
    obtain ⟨-, hhushed⟩ := hrun.hushed (hstep.silenced hsilences) hreachable
    exact ⟨hhushed.calls, hhushed.notices⟩
  · obtain ⟨calls, hcalls, honce, hasks⟩ := Group.calls_stopRegistration hattended hbooks.registered
    refine ⟨calls, hcalls, honce, fun hnot => ?_, fun halone hidle hregistered => ?_⟩
    · by_contra hne
      cases (hasks.mp hne).1.symm.trans hnot
    · obtain ⟨hbooks, horderly⟩ := halone.orderly_of_undisturbed
      rw [hidle] at horderly
      refine hasks.mpr ⟨hregistered, ?_, horderly.atRest hregistered⟩
      by_contra hdown
      have hlost := (hbooks.offline trivial (by simpa using hdown)).1
      cases hlost.symm.trans hregistered

/-! ### A supervisor on its way out -/

/-- The registrar accepts the last request. -/
def acceptingNoted (c : Scene (Journal Recorder)) : Scene (Journal Recorder) :=
  match c.group.network.network.lastTransaction with
  | some t => c.acting (.signal (.response (.answering t 200 "OK")))
  | none => c

/-- The supervisor clears what an earlier run left behind. -/
def clearingNoted : Scene (Journal Recorder) :=
  let alice := Profile.ofUri ⟨some "alice", "localhost", none⟩ ""
  let idle := Scene.start alice .default (Journal.opened (Recorder.ofHost "localhost"))
  (idle.acting (.startRegistration (.named "user"))).delivering.delivering

/-- It asks for a registration. -/
def askingNoted : Scene (Journal Recorder) :=
  clearingNoted.acceptingNoted.delivering.delivering.delivering.delivering

/-- The registration has been granted, and everybody has been told. -/
def registeredNoted : Scene (Journal Recorder) :=
  askingNoted.acceptingNoted.delivering.delivering

/-- The registration is due to be refreshed, and the timer has given the wake-up out. -/
def due : Scene (Journal Recorder) :=
  let later := registeredNoted.acting (.tick 3600000)
  ⟨later.group.ringAlarm.2, later.notices, later.wakeups ++ later.group.ringAlarm.1.toList⟩

lemma Reachable.acceptingNoted {c : Scene (Journal Recorder)}
    (h : c.Reachable (Proceeds Occurrence.Undisturbed)) (hidle : c.notices = []) :
    c.acceptingNoted.Reachable (Proceeds Occurrence.Undisturbed) := by
  unfold Scene.acceptingNoted
  split
  · exact h.acting hidle ⟨⟨nofun, trivial⟩, trivial⟩
  · exact h

lemma Reachable.due : due.Reachable (Proceeds Occurrence.Undisturbed) := by
  have hdelivering : ∀ {c : Scene (Journal Recorder)},
      c.Reachable (Proceeds Occurrence.Undisturbed) →
      c.delivering.Reachable (Proceeds Occurrence.Undisturbed) :=
    fun h => h.delivering fun _ => ⟨trivial, trivial⟩
  have hclearing : clearingNoted.Reachable (Proceeds Occurrence.Undisturbed) := by
    unfold clearingNoted
    refine hdelivering (hdelivering (.acting ⟨_, _, _, .refl⟩ rfl ?_))
    exact ⟨⟨nofun, trivial⟩, trivial⟩
  have hasking : askingNoted.Reachable (Proceeds Occurrence.Undisturbed) := by
    unfold askingNoted
    refine hdelivering (hdelivering (hdelivering (hdelivering (hclearing.acceptingNoted ?_))))
    decide +kernel
  have hregistered : registeredNoted.Reachable (Proceeds Occurrence.Undisturbed) := by
    unfold registeredNoted
    exact hdelivering (hdelivering (hasking.acceptingNoted (by decide +kernel)))
  have hlater : (registeredNoted.acting (.tick 3600000)).Reachable
      (Proceeds Occurrence.Undisturbed) := by
    refine hregistered.acting ?_ ⟨⟨nofun, trivial⟩, trivial⟩
    decide +kernel
  unfold Scene.due
  refine hlater.tail (.begins ?_ (o := .ring) ⟨trivial, trivial⟩ .ring)
  decide +kernel

/-- The supervisor is stopped while its refresh is on the way, which then takes effect; the data
connection is lost and comes back. The registration is ended, and that is all that is asked for. -/
theorem silenced_supervisor_stays_quiet_of_stop :
    let c := due
    let stopped := c.acting .stopRegistration
    let woken : Scene (Journal Recorder) := ⟨(stopped.group.wake .refresh).group,
      stopped.notices ++ (stopped.group.wake .refresh).deliveries, []⟩
    let c' := (woken.acting (.setConnected false)).acting (.setConnected true)
    c.Reachable (Proceeds Occurrence.Undisturbed) ∧ c.notices = [] ∧
      c.group.isRegistered = true ∧ c.wakeups = [.refresh] ∧ stopped.Abstains [] c' ∧
      (∃ tag refused, stopped.group.network.calls =
        c.group.network.calls ++ [⟨.register c.group.profile tag 0, refused⟩]) ∧
      ∃ calls, c'.group.network.calls = stopped.group.network.calls ++ calls ∧
        ∀ call ∈ calls, call.command.isQuiet = true := by
  intro c stopped woken c'
  have hc : c.Reachable (Proceeds Occurrence.Undisturbed) := .due
  have hidle : c.notices = [] := by decide +kernel
  have hregistered : c.group.isRegistered = true := by decide +kernel
  have hwoken : stopped.wakeups = [.refresh] := by decide +kernel
  have hrun : stopped.Abstains [] c' := by
    have hwake : stopped.wakeups = [] ++ .refresh :: [] := hwoken
    have hlate : stopped.Abstains [] woken :=
      .tail (o := .wake .refresh) .refl ⟨⟨trivial, trivial⟩, trivial, trivial⟩ (.wake hwake)
    have hlost : stopped.Abstains [] (woken.acting (.setConnected false)) :=
      .tail (o := .act (.setConnected false)) hlate ⟨⟨⟨nofun, trivial⟩, trivial⟩, trivial, trivial⟩
        (.act _)
    exact .tail (o := .act (.setConnected true)) hlost
      ⟨⟨⟨nofun, trivial⟩, trivial⟩, trivial, trivial⟩ (.act _)
  obtain ⟨hquiet, -, calls, hcalls, honce, -, hasks⟩ :=
    silenced_supervisor_stays_quiet (hc.mono fun _ _ h => h.interleaves)
  obtain ⟨hcalls', -⟩ := hquiet (.act .stopRegistration) stopped [] c'
    ⟨⟨nofun, trivial⟩, trivial⟩ trivial (.act .stopRegistration) hrun
  refine ⟨hc, hidle, hregistered, hwoken, hrun, ?_, hcalls'⟩
  obtain ⟨tag, refused, rfl⟩ := honce.resolve_left (hasks hc hidle hregistered)
  exact ⟨tag, refused, hcalls⟩

end Scene

end SipAgent
