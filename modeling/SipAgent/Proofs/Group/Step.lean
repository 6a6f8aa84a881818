import Mathlib.Logic.Relation
import SipAgent.Proofs.Group.Course

/-!
# What can happen to a group

`Group.Step` is everything that can happen to a group: an action, a notice that is handed over, a
wake-up, a change of the network. Neither the order in which notices are handed over nor the moment
of a wake-up is prescribed, so a listener may use the group in between. The network may change at any
time, so what a step does to sessions and keys, `Group.Effect`, is its course without the network.
-/

namespace SipAgent

namespace Group

variable {σ : Type} {g g₁ g₂ g' : Group σ} {permits : Signal → Prop} {cuts : Prop} {id : SessionId}
  {e : SessionEvent} [Transport σ]

/-! ### Effects -/

/-- What a step can do to the sessions of a group and to their keys. -/
inductive Effect (permits : Signal → Prop) (g : Group σ) : Group σ → Prop where
  | keeps {g' : Group σ} (h : Keeps g g') : Effect permits g g'
  | feeds {g₁ g' : Group σ} {id : SessionId} {e : SessionEvent} (before : Keeps g g₁)
      (h : Feeds permits g₁ id e) (after : Keeps (g₁.dispatch id e).group g') :
      Effect permits g g'
  | disconnects {g₁ g' : Group σ} (before : Keeps g g₁) (ids : List SessionId)
      (after : Keeps (g₁.disconnect ids).group g') : Effect permits g g'
  | closes {g₁ : Group σ} (h : Effect permits g g₁) :
      Effect permits g { g₁ with closed := true, registry := .empty }

namespace Effect

lemma refl (g : Group σ) : Effect permits g g :=
  .keeps (.refl g)

lemma before (h : Keeps g g₁) (h' : Effect permits g₁ g') : Effect permits g g' := by
  induction h' with
  | keeps h' => exact .keeps (h.trans h')
  | feeds before feeds after => exact .feeds (h.trans before) feeds after
  | disconnects before ids after => exact .disconnects (h.trans before) ids after
  | closes _ ih => exact .closes ih

lemma dispatch (h : Feeds permits g id e) : Effect permits g (g.dispatch id e).group :=
  .feeds (.refl g) h (.refl _)

/-- What no effect can break holds after every step. -/
theorem preserves {P : Group σ → Prop} (h : Effect permits g g') (hg : P g)
    (hkeeps : ∀ g g', Keeps g g' → P g → P g')
    (hfeeds : ∀ (g : Group σ) id e, Feeds permits g id e → P g → P (g.dispatch id e).group)
    (hlost : ∀ (g : Group σ) id, P g → P (g.dispatch id .connectionLost).group)
    (hcloses : ∀ g, P g → P { g with closed := true, registry := .empty }) : P g' := by
  induction h with
  | keeps h => exact hkeeps _ _ h hg
  | feeds before h after => exact hkeeps _ _ after (hfeeds _ _ _ h (hkeeps _ _ before hg))
  | @disconnects g₁ g' before ids after =>
    refine hkeeps _ _ after ?_
    have hg₁ := hkeeps _ _ before hg
    clear before after hg
    induction ids generalizing g₁ with
    | nil => exact hg₁
    | cons id more ih => exact ih (hlost _ id hg₁)
  | closes _ ih => exact hcloses _ ih

/-- Closing is for good. -/
lemma closed (h : Effect permits g g') (hg : g.closed = true) : g'.closed = true :=
  h.preserves (P := fun g => g.closed = true) hg (fun _ _ hkeeps hg => hkeeps.closed.trans hg)
    (fun g id e _ hg => (dispatch_closed g id e).trans hg)
    (fun g id hg => (dispatch_closed g id _).trans hg) fun _ _ => rfl

end Effect

/-- Whatever takes a course has its effect. -/
lemma Course.effect (h : Course permits cuts g g') : Effect permits g g' := by
  induction h with
  | rests h => exact .keeps h.toKeeps
  | pings after =>
    have hpinged : Keeps g
        { g with network := (Transport.perform (.keepalive g.profile) g.network).2 } :=
      .of_eq rfl rfl rfl rfl
    exact .keeps (hpinged.trans after.toKeeps)
  | feeds before h after => exact .feeds before.toKeeps h after.toKeeps
  | disconnects _ before ids after => exact .disconnects before.toKeeps ids after.toKeeps
  | closes _ ih => exact .closes ih

/-! ### Steps -/

/-- Everything that an action does to sessions and keys. -/
theorem effect_act (g : Group σ) {a : Action} (ha : a.Allowed permits) :
    Effect permits g (g.act a).group := by
  have hallowed : a.Allowed fun _ => True := by
    cases a with
    | command id e => exact ha
    | _ => trivial
  have hpermits : ∀ s, a = .signal s → permits s := by
    rintro s rfl
    exact ha
  exact ((course_act g hallowed).mono hpermits id).effect

lemma effect_handOver (permits : Signal → Prop) (g : Group σ) (d : Delivery) :
    Effect permits g (g.handOver d).group :=
  (course_handOver permits False g d).effect

lemma effect_wake (permits : Signal → Prop) (g : Group σ) (call : WakeupCall) :
    Effect permits g (g.wake call).group :=
  (course_wake permits False g call).effect

/-- Everything that can happen to a group. -/
inductive Step (permits : Signal → Prop) (g : Group σ) : Group σ → Prop where
  | act {a : Action} (ha : a.Allowed permits) : Step permits g (g.act a).group
  /-- A notice is handed over. -/
  | handOver (d : Delivery) : Step permits g (g.handOver d).group
  /-- A wake-up that the timer gave out before takes effect. -/
  | wake (call : WakeupCall) : Step permits g (g.wake call).group
  /-- The network changes, and with it what it will answer. -/
  | drift (net : σ) : Step permits g { g with network := net }

theorem Step.effect (h : Step permits g g') : Effect permits g g' := by
  cases h with
  | act ha => exact effect_act g ha
  | handOver d => exact effect_handOver permits g d
  | wake call => exact effect_wake permits g call
  | drift net => exact .keeps (.of_eq rfl rfl rfl rfl)

/-- The groups that any history leads to. -/
def Reachable (permits : Signal → Prop) (g : Group σ) : Prop :=
  ∃ profile settings network,
    Relation.ReflTransGen (Step permits) (.start profile settings network) g

/-- What holds at the start and cannot be broken by any effect holds of every reachable group. -/
theorem Reachable.invariant {P : Group σ → Prop} (h : Reachable permits g)
    (hstart : ∀ profile settings network, P (.start profile settings network))
    (hkeeps : ∀ g g', Keeps g g' → P g → P g')
    (hfeeds : ∀ (g : Group σ) id e, Feeds permits g id e → P g → P (g.dispatch id e).group)
    (hlost : ∀ (g : Group σ) id, P g → P (g.dispatch id .connectionLost).group)
    (hcloses : ∀ g, P g → P { g with closed := true, registry := .empty }) : P g := by
  obtain ⟨profile, settings, network, h⟩ := h
  induction h with
  | refl => exact hstart profile settings network
  | tail _ hstep ih => exact hstep.effect.preserves ih hkeeps hfeeds hlost hcloses

end Group

end SipAgent
