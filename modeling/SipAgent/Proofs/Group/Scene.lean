import SipAgent.Proofs.Group.Step
import SipAgent.Proofs.Transport.Journal
import SipAgent.Transport.Recorder

/-!
# Groups under way

Notices are handed over after the operation that caused them, and a wake-up takes effect after the
timer has given it out. A `Scene` is a group together with both, so it stands between any two of
these steps. Several threads that use a group may take their steps in any order (`Interleaves`); one
that uses it alone hands all notices over before it goes on (`Proceeds`).
-/

namespace SipAgent

/-- A group, the notices that wait to be handed over, and the wake-ups that the timer has given out
and that have not taken effect. -/
structure Scene (σ : Type) where
  group : Group σ
  notices : List Delivery
  wakeups : List WakeupCall

/-- One step of whoever uses a group. -/
inductive Occurrence (σ : Type) where
  | act (a : Action)
  | handOver (d : Delivery)
  /-- The alarm of the timer rings. -/
  | ring
  /-- A wake-up takes effect. -/
  | wake (call : WakeupCall)
  /-- The network changes, and with it what it will answer. -/
  | drift (network : σ)

namespace Occurrence

variable {σ : Type}

/-- What can happen at all: users give commands, networks hand signals over. That the alarm rings is
an occurrence of its own and no action. -/
def Possible : Occurrence σ → Prop
  | .act a => a ≠ .ring ∧ a.Allowed fun _ => True
  | _ => True

/-- The application keeps away from the session that registers, and from the timer. -/
def LeavesAlone (g : Group σ) : Occurrence σ → Prop
  | .act (.command id _) => g.supervisor.session ≠ some id
  | .act (.setListener id _) => g.supervisor.session ≠ some id
  | .act .stopTimer => False
  | _ => True

/-- The application keeps away from the session that registers. -/
def KeepsAway (g : Group σ) : Occurrence σ → Prop
  | .act (.command id _) => g.supervisor.session ≠ some id
  | .act (.setListener id _) => g.supervisor.session ≠ some id
  | _ => True

/-- The session that registers is left to the supervisor. -/
def Undisturbed (g : Group σ) (o : Occurrence σ) : Prop :=
  o.Possible ∧ o.KeepsAway g

/-- Registering is the supervisor's business only. -/
def Supervised (g : Group σ) (o : Occurrence σ) : Prop :=
  o.Possible ∧ o.LeavesAlone g

lemma Supervised.undisturbed {g : Group σ} {o : Occurrence σ} (h : o.Supervised g) :
    o.Undisturbed g := by
  obtain ⟨hpossible, halone⟩ := h
  refine ⟨hpossible, ?_⟩
  unfold KeepsAway
  split
  · exact halone
  · exact halone
  · trivial

/-- Whatever becomes of the network, the record of what was asked of it stays. -/
def Noted (g : Group (Journal σ)) : Occurrence (Journal σ) → Prop
  | .drift network => network.calls = g.network.calls
  | _ => True

/-- The supervisor is told of a grant while the data connection is down. -/
def Belated (g : Group σ) : Occurrence σ → Prop
  | .handOver ⟨.supervisor, id, .registrationDone duration⟩ =>
    0 < duration ∧ g.supervises id ∧ g.connected = false
  | _ => False

lemma Belated.offline {g : Group σ} {o : Occurrence σ} (h : o.Belated g) : g.connected = false := by
  unfold Belated at h
  split at h
  · exact h.2.2
  · exact h.elim

/-- Whatever can happen, except that a grant comes too late. -/
def Timely (g : Group σ) (o : Occurrence σ) : Prop :=
  o.Possible ∧ ¬ o.Belated g

end Occurrence

namespace Scene

variable {σ : Type} {c c' : Scene σ} {steps steps' : Scene σ → Scene σ → Prop}

/-! ### Histories -/

/-- The scene before anything has happened. -/
def start (profile : Profile) (settings : RegistrationSettings) (network : σ) : Scene σ :=
  ⟨.start profile settings network, [], []⟩

/-- The scenes that some history leads to, when its steps are such as these. -/
def Reachable (steps : Scene σ → Scene σ → Prop) (c : Scene σ) : Prop :=
  ∃ profile settings network, Relation.ReflTransGen steps (start profile settings network) c

namespace Reachable

lemma mono (h : Reachable steps c) (hsteps : ∀ c c', steps c c' → steps' c c') :
    Reachable steps' c := by
  obtain ⟨profile, settings, network, h⟩ := h
  exact ⟨profile, settings, network, Relation.ReflTransGen.mono hsteps _ _ h⟩

lemma tail (h : Reachable steps c) (hstep : steps c c') : Reachable steps c' := by
  obtain ⟨profile, settings, network, h⟩ := h
  exact ⟨profile, settings, network, .tail h hstep⟩

/-- What holds at the start and survives every step holds of every reachable scene. -/
theorem invariant {P : Scene σ → Prop} (h : Reachable steps c)
    (hstart : ∀ profile settings network, P (start profile settings network))
    (hstep : ∀ c c', Reachable steps c → steps c c' → P c → P c') : P c := by
  obtain ⟨profile, settings, network, h⟩ := h
  induction h with
  | refl => exact hstart profile settings network
  | tail h hstep' ih => exact hstep _ _ ⟨profile, settings, network, h⟩ hstep' ih

end Reachable

/-! ### Steps -/

variable [Transport σ] {allows allows' : Group σ → Occurrence σ → Prop}

/-- An action is carried out, and its notices wait behind all others. -/
def acting (c : Scene σ) (a : Action) : Scene σ :=
  ⟨(c.group.act a).group, c.notices ++ (c.group.act a).deliveries, c.wakeups⟩

/-- The notice that has waited longest is handed over, if there is one; the notices that it causes
take its place. -/
def delivering (c : Scene σ) : Scene σ :=
  match c.notices with
  | [] => c
  | d :: waiting =>
    ⟨(c.group.handOver d).group, (c.group.handOver d).deliveries ++ waiting, c.wakeups⟩

/-- What one step does. -/
inductive Step (c : Scene σ) : Occurrence σ → Scene σ → Prop where
  | act (a : Action) : Step c (.act a) (c.acting a)
  /-- Any notice may be next; the notices that it causes take its place. -/
  | handOver {before after : List Delivery} {d : Delivery} (h : c.notices = before ++ d :: after) :
      Step c (.handOver d)
        ⟨(c.group.handOver d).group, before ++ ((c.group.handOver d).deliveries ++ after),
          c.wakeups⟩
  | ring :
      Step c .ring ⟨c.group.ringAlarm.2, c.notices, c.wakeups ++ c.group.ringAlarm.1.toList⟩
  | wake {before after : List WakeupCall} {call : WakeupCall}
      (h : c.wakeups = before ++ call :: after) :
      Step c (.wake call)
        ⟨(c.group.wake call).group, c.notices ++ (c.group.wake call).deliveries, before ++ after⟩
  | drift (network : σ) :
      Step c (.drift network) ⟨{ c.group with network := network }, c.notices, c.wakeups⟩

/-- Some thread takes a step. -/
def Interleaves (allows : Group σ → Occurrence σ → Prop) (c c' : Scene σ) : Prop :=
  ∃ o, allows c.group o ∧ c.Step o c'

/-- The only thread takes a step: it hands the next notice over, or, when there is none, does
something else. -/
inductive Proceeds (allows : Group σ → Occurrence σ → Prop) (c : Scene σ) : Scene σ → Prop where
  | begins {o : Occurrence σ} {c' : Scene σ} (hidle : c.notices = []) (ho : allows c.group o)
      (h : c.Step o c') : Proceeds allows c c'
  | delivers {d : Delivery} {waiting : List Delivery} (h : c.notices = d :: waiting)
      (hd : allows c.group (.handOver d)) : Proceeds allows c c.delivering

lemma Step.effect {o : Occurrence σ} (h : c.Step o c') (ho : o.Possible) :
    Group.Effect (fun _ => True) c.group c'.group := by
  cases h with
  | act a => exact Group.effect_act _ ho.2
  | handOver => exact Group.effect_handOver _ _ _
  | ring => exact .keeps (.of_eq rfl rfl rfl rfl)
  | wake => exact Group.effect_wake _ _ _
  | drift => exact .keeps (.of_eq rfl rfl rfl rfl)

lemma delivering_eq {d : Delivery} {waiting : List Delivery} (h : c.notices = d :: waiting) :
    c.delivering =
      ⟨(c.group.handOver d).group, (c.group.handOver d).deliveries ++ waiting, c.wakeups⟩ := by
  simp only [delivering, h]

/-- The notice that has waited longest is one of those that may be next. -/
lemma step_delivering {d : Delivery} {waiting : List Delivery} (h : c.notices = d :: waiting) :
    c.Step (.handOver d) c.delivering := by
  have hfirst : c.notices = [] ++ d :: waiting := h
  rw [delivering_eq h]
  exact .handOver hfirst

lemma Interleaves.mono (h : Interleaves allows c c')
    (hallows : ∀ g o, allows g o → allows' g o) : Interleaves allows' c c' := by
  obtain ⟨o, ho, hstep⟩ := h
  exact ⟨o, hallows _ _ ho, hstep⟩

lemma Proceeds.mono (h : Proceeds allows c c') (hallows : ∀ g o, allows g o → allows' g o) :
    Proceeds allows' c c' := by
  cases h with
  | begins hidle ho h => exact .begins hidle (hallows _ _ ho) h
  | delivers h hd => exact .delivers h (hallows _ _ hd)

/-- One thread alone is a case of several. -/
lemma Proceeds.interleaves (h : Proceeds allows c c') : Interleaves allows c c' := by
  cases h with
  | begins _ ho h => exact ⟨_, ho, h⟩
  | delivers h hd => exact ⟨_, hd, step_delivering h⟩

namespace Reachable

protected lemma delivering (h : Reachable (Proceeds allows) c)
    (hd : ∀ d, allows c.group (.handOver d)) : Reachable (Proceeds allows) c.delivering := by
  cases hnotices : c.notices with
  | nil => simpa only [Scene.delivering, hnotices] using h
  | cons d waiting => exact h.tail (.delivers hnotices (hd d))

protected lemma acting (h : Reachable (Proceeds allows) c) (hidle : c.notices = []) {a : Action}
    (ha : allows c.group (.act a)) : Reachable (Proceeds allows) (c.acting a) :=
  h.tail (.begins hidle ha (.act a))

end Reachable

/-! ### A supervisor at work -/

/-- The registrar accepts the last request. -/
def accepting (c : Scene Recorder) : Scene Recorder :=
  match c.group.network.lastTransaction with
  | some t => c.acting (.signal (.response (.answering t 200 "OK")))
  | none => c

/-- The supervisor starts by clearing what an earlier run left behind. -/
def clearing : Scene Recorder :=
  let alice := Profile.ofUri ⟨some "alice", "localhost", none⟩ ""
  let idle := Scene.start (alice.withSendKeepalive true) .default (Recorder.ofHost "localhost")
  (idle.acting (.startRegistration .nobody)).delivering.delivering

/-- It goes on to ask for a registration. -/
def asking : Scene Recorder :=
  clearing.accepting.delivering.delivering.delivering.delivering

/-- The registrar grants what the supervisor asks for, and the supervisor has yet to be told. -/
def granted : Scene Recorder :=
  asking.accepting

namespace Reachable

variable {c : Scene Recorder} {allows : Group Recorder → Occurrence Recorder → Prop}

protected lemma accepting (h : Reachable (Proceeds allows) c) (hidle : c.notices = [])
    (hsignal : ∀ g s, allows g (.act (.signal s))) : Reachable (Proceeds allows) c.accepting := by
  unfold Scene.accepting
  split
  · exact h.acting hidle (hsignal _ _)
  · exact h

/-- This is a history of its own as long as notices may be handed over while the data connection is
up. -/
protected lemma granted (hstart : ∀ g l, allows g (.act (.startRegistration l)))
    (hsignal : ∀ g s, allows g (.act (.signal s)))
    (hdeliver : ∀ g d, g.connected = true → allows g (.handOver d)) :
    Reachable (Proceeds allows) granted := by
  have hclearing : Reachable (Proceeds allows) clearing := by
    unfold clearing
    refine .delivering (.delivering (.acting ⟨_, _, _, .refl⟩ rfl (hstart _ _)) ?_) ?_
    all_goals exact fun d => hdeliver _ d (by decide +kernel)
  have hasking : Reachable (Proceeds allows) asking := by
    unfold asking
    refine .delivering (.delivering (.delivering (.delivering (.accepting hclearing ?_ hsignal)
      ?_) ?_) ?_) ?_
    · decide +kernel
    all_goals exact fun d => hdeliver _ d (by decide +kernel)
  exact .accepting hasking (by decide +kernel) hsignal

lemma granted_supervised : Reachable (Proceeds Occurrence.Supervised) Scene.granted :=
  .granted (fun _ _ => ⟨⟨nofun, trivial⟩, trivial⟩) (fun _ _ => ⟨⟨nofun, trivial⟩, trivial⟩)
    fun _ _ _ => ⟨trivial, trivial⟩

end Reachable

end Scene

end SipAgent
