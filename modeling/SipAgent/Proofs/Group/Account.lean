import SipAgent.Proofs.Supervisor.Filing
import SipAgent.Proofs.Group.Scene

/-!
# Accounts of a history

Some properties speak of what has happened so far: how often something failed, or what somebody was
told last. Such an `Account` is kept beside a scene, with one entry for each occurrence. An entry is
made from what the occurrence meets, so the account says nothing about what the group makes of it.
-/

namespace SipAgent

namespace Scene

variable {σ α : Type} [Transport σ] {c c' : Scene σ} {o : Occurrence σ}
  {allows allows' : Group σ → Occurrence σ → Prop}

/-! ### Steps and what they are about -/

/-- Some thread takes this step. -/
def Takes (allows : Group σ → Occurrence σ → Prop) (c : Scene σ) (o : Occurrence σ)
    (c' : Scene σ) : Prop :=
  allows c.group o ∧ c.Step o c'

/-- The only thread takes this step. -/
inductive TakesAlone (allows : Group σ → Occurrence σ → Prop) (c : Scene σ) :
    Occurrence σ → Scene σ → Prop where
  | begins {o : Occurrence σ} {c' : Scene σ} (hidle : c.notices = []) (ho : allows c.group o)
      (h : c.Step o c') : TakesAlone allows c o c'
  | delivers {d : Delivery} {waiting : List Delivery} (h : c.notices = d :: waiting)
      (hd : allows c.group (.handOver d)) : TakesAlone allows c (.handOver d) c.delivering

lemma Takes.interleaves (h : Takes allows c o c') : Interleaves allows c c' :=
  ⟨o, h⟩

lemma TakesAlone.proceeds (h : TakesAlone allows c o c') : Proceeds allows c c' := by
  cases h with
  | begins hidle ho h => exact .begins hidle ho h
  | delivers h hd => exact .delivers h hd

lemma TakesAlone.mono (h : TakesAlone allows c o c')
    (hallows : ∀ g, allows g o → allows' g o) : TakesAlone allows' c o c' := by
  cases h with
  | begins hidle ho h => exact .begins hidle (hallows _ ho) h
  | delivers h hd => exact .delivers h (hallows _ hd)

lemma TakesAlone.takes (h : TakesAlone allows c o c') : Takes allows c o c' := by
  cases h with
  | begins _ ho h => exact ⟨ho, h⟩
  | delivers h hd => exact ⟨hd, step_delivering h⟩

/-! ### Accounts -/

omit [Transport σ] in
/-- The scenes that some history leads to, each with an account of its history: `blank` before
anything has happened, and `entry` for every occurrence. -/
inductive Account (steps : Scene σ → Occurrence σ → Scene σ → Prop)
    (entry : Group σ → Occurrence σ → α → α) (blank : α) : Scene σ → α → Prop where
  | start (profile : Profile) (settings : RegistrationSettings) (network : σ) :
      Account steps entry blank (start profile settings network) blank
  | step {c c' : Scene σ} {o : Occurrence σ} {x : α} (h : Account steps entry blank c x)
      (hstep : steps c o c') : Account steps entry blank c' (entry c.group o x)

namespace Account

variable {steps : Scene σ → Occurrence σ → Scene σ → Prop} {steps' : Scene σ → Scene σ → Prop}
  {entry : Group σ → Occurrence σ → α → α} {blank x : α}

omit [Transport σ] in
lemma reachable (h : Account steps entry blank c x)
    (hsteps : ∀ c o c', steps c o c' → steps' c c') : c.Reachable steps' := by
  induction h with
  | start profile settings network => exact ⟨profile, settings, network, .refl⟩
  | step _ hstep ih => exact ih.tail (hsteps _ _ _ hstep)

end Account

end Scene

/-! ### Histories that are played -/

/-- Nothing is done but with the supervisor, the network and the clock. -/
def Occurrence.isOrdinary {σ : Type} : Occurrence σ → Bool
  | .act (.startRegistration _) | .act .stopRegistration | .act (.setRegistrationListener _) => true
  | .act (.signal _) | .act (.setConnected _) | .act (.tick _) => true
  | .handOver _ | .ring | .wake _ => true
  | _ => false

lemma Occurrence.supervised_of_isOrdinary {σ : Type} {g : Group σ} {o : Occurrence σ}
    (h : o.isOrdinary = true) : o.Supervised g := by
  cases o with
  | act a => cases a <;> first | (cases h; done) | exact ⟨⟨nofun, trivial⟩, trivial⟩
  | handOver | ring | wake => exact ⟨trivial, trivial⟩
  | drift => cases h

namespace Scene

variable {σ α : Type} [Transport σ] {c c' : Scene σ} {o : Occurrence σ}

/-- What the only thread does next. -/
inductive Move (σ : Type) where
  /-- Something that may depend on the group is done with it. -/
  | act (choose : Group σ → Option Action)
  /-- The notice that has waited longest is handed over. -/
  | deliver
  | ring
  /-- The wake-up that was given out first takes effect. -/
  | wake

omit [Transport σ] in
/-- Something is done, whatever the group is like. -/
def Move.always (a : Action) : Move σ :=
  .act fun _ => some a

/-- The last request is answered. -/
def Move.answer (answer : ClientTransaction → Response) : Move (Journal Recorder) :=
  .act fun g => g.network.network.lastTransaction.map fun t => .signal (.response (answer t))

/-- A group of Alice, before anything has happened. -/
def ofAlice : Scene (Journal Recorder) :=
  start (Profile.ofUri ⟨some "alice", "localhost", none⟩ "") .default
    (Journal.opened (Recorder.ofHost "localhost"))

/-- A supervisor is started, and is about to be granted what it asks for. -/
def Move.registering (l : Listener) : List (Move (Journal Recorder)) :=
  [.always (.startRegistration l), .deliver, .deliver, .answer (.answering · 200 "OK"),
    .deliver, .deliver, .deliver, .deliver]

/-- What a move comes to, if it can be made. -/
def move? (c : Scene σ) : Move σ → Option (Occurrence σ × Scene σ)
  | .act choose =>
    if c.notices.isEmpty then (choose c.group).map fun a => (.act a, c.acting a) else none
  | .deliver =>
    match c.notices with
    | [] => none
    | d :: _ => some (.handOver d, c.delivering)
  | .ring =>
    if c.notices.isEmpty then
      some (.ring, ⟨c.group.ringAlarm.2, c.notices, c.wakeups ++ c.group.ringAlarm.1.toList⟩)
    else none
  | .wake =>
    if c.notices.isEmpty then
      match c.wakeups with
      | [] => none
      | call :: later =>
        some (.wake call,
          ⟨(c.group.wake call).group, c.notices ++ (c.group.wake call).deliveries, later⟩)
    else none

lemma takesAlone_of_move {m : Move σ} (h : c.move? m = some (o, c')) :
    c.TakesAlone (fun _ _ => True) o c' := by
  have hidle : c.notices.isEmpty = true → c.notices = [] := List.isEmpty_iff.mp
  cases m with
  | act choose =>
    simp only [move?, Option.ite_none_right_eq_some, Option.map_eq_some_iff, Prod.mk.injEq] at h
    obtain ⟨hempty, a, -, rfl, rfl⟩ := h
    exact .begins (hidle hempty) trivial (.act a)
  | deliver =>
    simp only [move?] at h
    split at h
    · cases h
    · next d waiting hnotices =>
      cases h
      exact .delivers hnotices trivial
  | ring =>
    simp only [move?, Option.ite_none_right_eq_some, Option.some.injEq, Prod.mk.injEq] at h
    obtain ⟨hempty, rfl, rfl⟩ := h
    exact .begins (hidle hempty) trivial .ring
  | wake =>
    simp only [move?, Option.ite_none_right_eq_some] at h
    obtain ⟨hempty, h⟩ := h
    split at h
    · cases h
    · next call later hwakeups =>
      cases h
      have hfirst : c.wakeups = [] ++ call :: later := hwakeups
      exact .begins (hidle hempty) trivial (.wake hfirst)

/-- A history that is played move by move, with its account, as long as every move can be made and
is permitted. -/
def play (permits : Scene σ → Occurrence σ → Bool) (entry : Group σ → Occurrence σ → α → α) :
    List (Move σ) → Scene σ → α → Option (Scene σ × α)
  | [], c, x => some (c, x)
  | m :: more, c, x =>
    match c.move? m with
    | some (o, c') => if permits c o then play permits entry more c' (entry c.group o x) else none
    | none => none

/-- What is played is a history. -/
lemma account_of_play {steps : Scene σ → Occurrence σ → Scene σ → Prop}
    {permits : Scene σ → Occurrence σ → Bool} {entry : Group σ → Occurrence σ → α → α}
    {blank x : α} (hsteps : ∀ c o c', permits c o = true → c.TakesAlone (fun _ _ => True) o c' →
      steps c o c') (h : Account steps entry blank c x) {moves : List (Move σ)}
    {finish : Scene σ × α} (hplay : play permits entry moves c x = some finish) :
    Account steps entry blank finish.1 finish.2 := by
  induction moves generalizing c x with
  | nil =>
    cases hplay
    exact h
  | cons m more ih =>
    unfold play at hplay
    split at hplay
    · next o c' hmove =>
      split at hplay
      · next hpermits =>
        exact ih (h.step (hsteps _ _ _ hpermits (takesAlone_of_move hmove))) hplay
      · cases hplay
    · cases hplay

end Scene

/-! ### What never changes, and the clock -/

namespace Group

variable {σ : Type} {g g₁ g' : Group σ}

/-- The settings are the same, and no time has passed. -/
structure Instant (g g' : Group σ) : Prop where
  settings : g'.settings = g.settings
  now : g'.now = g.now

namespace Instant

lemma refl (g : Group σ) : Instant g g :=
  ⟨rfl, rfl⟩

lemma trans (h : Instant g g₁) (h' : Instant g₁ g') : Instant g g' :=
  ⟨h'.settings.trans h.settings, h'.now.trans h.now⟩

lemma of_setup (h : SameSetup g g') : Instant g g' :=
  ⟨h.settings, h.now⟩

lemma setAddressee (g : Group σ) (id : SessionId) (a : Addressee) :
    Instant g (g.setAddressee id a) := by
  unfold Group.setAddressee
  split <;> exact ⟨rfl, rfl⟩

lemma engaging (g : Group σ) (l : Listener) : Instant g (g.engaging l).2 := by
  have hsession : Instant g (g.started l).registrationSession.2 := by
    unfold registrationSession
    split <;> exact ⟨rfl, rfl⟩
  exact hsession.trans (.setAddressee _ _ _)

lemma retired (g : Group σ) : Instant g g.retired := by
  obtain ⟨timer, heq, -⟩ := g.pause_eq
  unfold Group.retired
  rw [heq]
  exact ⟨rfl, rfl⟩

lemma dismissed (g : Group σ) (id : SessionId) : Instant g (g.dismissed id) :=
  (retired g).trans (.setAddressee _ _ _)

variable [Transport σ]

lemma dispatch (g : Group σ) (id : SessionId) (e : SessionEvent) :
    Instant g (g.dispatch id e).group :=
  .of_setup (.dispatch g id e)

lemma disconnect (g : Group σ) (ids : List SessionId) : Instant g (g.disconnect ids).group := by
  induction ids generalizing g with
  | nil => exact .refl g
  | cons id more ih => exact (dispatch g id _).trans (ih _)

lemma startRegistration (g : Group σ) (l : Listener) :
    Instant g (g.startRegistration l).group := by
  cases hopen : g.closed with
  | true =>
    rw [startRegistration_of_closed g l hopen]
    exact .refl g
  | false =>
  cases hidle : g.supervisor.running with
  | true =>
    rw [startRegistration_of_running g l hopen hidle]
    exact ⟨rfl, rfl⟩
  | false =>
  have hasked := (engaging g l).trans (dispatch _ (g.engaging l).1 .deregister)
  rw [startRegistration_eq g l hopen hidle]
  dsimp only
  split
  · split
    · exact hasked
    · exact hasked.trans (.of_setup (Files.scheduleRetry _).toSameSetup)
  · exact engaging g l

lemma stopRegistration (g : Group σ) : Instant g g.stopRegistration.group := by
  rcases g.stopRegistration_eq with ⟨-, heq⟩ | heq | ⟨id, -, heq | ⟨-, heq⟩⟩
  · rw [heq]
    exact .refl g
  · rw [heq]
    exact retired g
  · rw [heq]
    exact dismissed g id
  · rw [heq]
    exact (dismissed g id).trans (dispatch _ _ _)

lemma setConnected (g : Group σ) (up : Bool) : Instant g (g.setConnected up).group := by
  unfold Group.setConnected
  split_ifs
  · exact .refl g
  · have resumed : Instant g g.resumed := ⟨rfl, rfl⟩
    unfold regainConnection
    dsimp only
    split
    · split
      · exact ⟨rfl, rfl⟩
      · next id _ =>
        exact resumed.trans (dispatch _ id (.register g.settings.expiry))
    · exact ⟨rfl, rfl⟩
  · have hdown : Instant g { g with connected := false } := ⟨rfl, rfl⟩
    have hcut : Instant g g.cutOff.group := hdown.trans (disconnect _ g.registry.owners)
    obtain ⟨timer, error, -, -, heq⟩ := g.loseConnection_eq
    rw [heq]
    exact hcut.trans ⟨rfl, rfl⟩

lemma handOver (g : Group σ) (d : Delivery) : Instant g (g.handOver d).group := by
  rw [handOver_eq]
  dsimp only
  split
  · split
    · have hended : Instant g g.ended := ⟨rfl, rfl⟩
      exact hended.trans (dispatch _ _ _)
    · exact .of_setup (Files.noting g _ _).toSameSetup
  · exact .refl g

lemma wake (g : Group σ) (call : WakeupCall) : Instant g (g.wake call).group := by
  cases call with
  | refresh =>
    simp only [Group.wake]
    rcases g.refresh_eq with ⟨-, heq⟩ | ⟨-, -, id, -, heq⟩
    · rw [heq]
      exact .refl g
    · have hcleared : Instant g g.cleared := ⟨rfl, rfl⟩
      rw [heq]
      exact hcleared.trans (dispatch _ _ _)
  | keepalive process =>
    simp only [Group.wake]
    rcases g.keepAlive_eq process with ⟨-, heq⟩ | ⟨-, timer, network, heq, -⟩
    · rw [heq]
      exact .refl g
    · rw [heq]
      exact ⟨rfl, rfl⟩

lemma ring (g : Group σ) : Instant g g.ring.group := by
  have hrung : Instant g g.ringAlarm.2 := ⟨rfl, rfl⟩
  unfold Group.ring
  split
  · next call g' h =>
    rw [h] at hrung
    exact hrung.trans (wake _ _)
  · next g' h =>
    rw [h] at hrung
    exact hrung

/-- Time passes only when the clock goes on. -/
lemma act (g : Group σ) {a : Action} (ha : ∀ milliseconds, a ≠ .tick milliseconds) :
    Instant g (g.act a).group := by
  cases a with
  | createSession l =>
    by_cases hclosed : g.closed = true
    · simp only [Group.act, createSession, if_pos hclosed]
      exact .refl g
    · simp only [Group.act, createSession, if_neg hclosed]
      exact ⟨rfl, rfl⟩
  | command id e =>
    simp only [Group.act, answering, command]
    split
    · exact .refl g
    · split <;> exact dispatch g id e
  | setListener id l => exact setAddressee g id _
  | openToCalls l =>
    by_cases hclosed : g.closed = true
    · simp only [Group.act, openToCalls, if_pos hclosed]
      exact .refl g
    · simp only [Group.act, openToCalls, if_neg hclosed]
      exact ⟨rfl, rfl⟩
  | signal s =>
    simp only [Group.act, answering, processSignal]
    split
    · exact .refl g
    · split
      · exact .refl g
      · exact dispatch g _ _
  | startRegistration l => exact startRegistration g l
  | stopRegistration => exact stopRegistration g
  | setRegistrationListener l =>
    simp only [Group.act, answering, setRegistrationListener]
    split
    · exact .refl g
    · split <;> exact ⟨rfl, rfl⟩
  | setConnected up => exact setConnected g up
  | tick milliseconds => exact absurd rfl (ha milliseconds)
  | ring => exact ring g
  | close =>
    have hstopped := stopRegistration g
    simp only [Group.act, answering, close]
    split
    · exact .refl g
    · exact ⟨hstopped.settings, hstopped.now⟩
  | closeToCalls | stopTimer => exact ⟨rfl, rfl⟩

end Instant

end Group

namespace Scene

variable {σ : Type} [Transport σ] {c c' : Scene σ} {o : Occurrence σ}

lemma Step.instant (h : c.Step o c') (ho : ∀ milliseconds, o ≠ .act (.tick milliseconds)) :
    c.group.Instant c'.group := by
  cases h with
  | act a => exact .act c.group fun milliseconds ha => ho milliseconds (ha ▸ rfl)
  | handOver => exact .handOver c.group _
  | wake => exact .wake c.group _
  | ring | drift => exact ⟨rfl, rfl⟩

/-- The settings are for good. -/
lemma Step.settings (h : c.Step o c') : c'.group.settings = c.group.settings := by
  by_cases htick : ∃ milliseconds, o = .act (.tick milliseconds)
  · obtain ⟨milliseconds, rfl⟩ := htick
    cases h
    rfl
  · exact (h.instant (not_exists.mp htick)).settings

end Scene

end SipAgent
