import Mathlib.Tactic.Lemma
import Mathlib.Tactic.SplitIfs
import SipAgent.Session.Handling

/-!
# Procedures that do what a script says

A procedure overwrites fields, gathers effects and gives commands as it goes, while a script gives
commands first and ends in an outcome. A procedure `Enacts` a script if nobody can tell the two
apart: not by what has become of the workspace in the end, and not by what is left of it when a
command is refused halfway.
-/

namespace SipAgent

variable {σ : Type} {w : Workspace σ} {profile : Profile} {e : SessionEvent}

namespace Workspace

/-- The workspace when the network has moved on. -/
def on (w : Workspace σ) (net : σ) : Workspace σ :=
  { w with network := net }

/-- The workspace after an outcome. -/
def after (w : Workspace σ) (o : Outcome) (net : σ) : Workspace σ where
  session := o.session
  effects :=
    { reports := w.effects.reports ++ o.reports
      keyChanges := w.effects.keyChanges ++ o.keyChanges
      spawned := w.effects.spawned ++ o.spawned.toList }
  network := net

lemma eq_after {w' : Workspace σ} {o : Outcome} (hsession : w'.session = o.session)
    (hreports : w'.effects.reports = w.effects.reports ++ o.reports)
    (hkeys : w'.effects.keyChanges = w.effects.keyChanges ++ o.keyChanges)
    (hspawned : w'.effects.spawned = w.effects.spawned ++ o.spawned.toList) :
    w' = w.after o w'.network := by
  rw [after, ← hsession, ← hreports, ← hkeys, ← hspawned]

/-- Only the session is another one after an event that is consumed in silence. -/
lemma eq_after_consumed {w' : Workspace σ} {s : Session} (hsession : w'.session = s)
    (heffects : w'.effects = w.effects) : w' = w.after s.consumed w'.network := by
  subst hsession
  simp [after, Session.consumed, ← heffects]

lemma after_refused : w.after w.session.refused w.network = w := by
  simp [after, Session.refused]

/-! ### Steps that cannot fail -/

lemma releaseKey_eq : w.releaseKey =
    { w with
      session := { w.session with key := none }
      effects.keyChanges := w.effects.keyChanges ++ w.session.unbound } := by
  unfold releaseKey Session.unbound
  rcases w with ⟨⟨id, role, state, _ | key⟩, effects, network⟩
  · simp
  · rfl

lemma bindKey_eq (key : CallId) : w.bindKey key =
    { w with
      session := w.session.withKey key
      effects.keyChanges := w.effects.keyChanges ++ w.session.rebound key } := by
  unfold bindKey Session.rebound
  split
  · next h => rw [Session.withKey, ← h]; simp
  · simp [releaseKey_eq, changeKey, assign, Session.withKey]

lemma reset_notify (notice : Notice) :
    w.reset.notify notice = w.after (w.session.finished notice) w.network := by
  simp [reset, releaseKey_eq, notify, assign, after, Session.finished, Session.cleared,
    Session.idle]

lemma endCall_eq : w.endCall = w.after (w.session.finished .callEnded) w.network :=
  reset_notify _

lemma fail_eq (code : ErrorCode) (message : String) :
    w.fail code message = w.after (w.session.failed code message) w.network :=
  reset_notify _

lemma failWith_eq (r : Response) :
    w.failWith r = w.after (w.session.failedWith r) w.network := by
  unfold failWith Session.failedWith
  split
  · exact reset_notify _
  · exact fail_eq _ _

lemma failTransport_eq (cause : TransportError) :
    w.failTransport e cause = w.after (w.session.transportFailed e cause) w.network :=
  reset_notify _

lemma capture_eq (body : Octets) :
    w.capture body = { w with session := w.session.capturing body } := by
  unfold capture Session.capturing
  split <;> rfl

lemma establishCall_eq : w.establishCall = w.after w.session.established w.network := by
  simp [establishCall, announce, assign, notify, after, Session.established, Session.telling]

end Workspace

namespace Procedure

variable [Transport σ]

/-! ### Running a procedure -/

section Running

omit [Transport σ]

variable {α β : Type} (k : α → Procedure σ β) (w : Workspace σ)

@[simp] lemma return_apply (value : α) : (pure value : Procedure σ α) w = .ok value w := rfl

@[simp] lemma return_bind_apply (value : α) :
    ((pure value : Procedure σ α) >>= k) w = k value w := rfl

@[simp] lemma session_bind_apply (k : Session → Procedure σ β) :
    (session >>= k) w = k w.session w := rfl

@[simp] lemma modify_bind_apply (f : Workspace σ → Workspace σ) (k : PUnit → Procedure σ β) :
    ((modify f : Procedure σ PUnit) >>= k) w = k () (f w) := rfl

@[simp] lemma assign_bind_apply (f : Session → Session) (k : Unit → Procedure σ β) :
    (assign f >>= k) w = k () (w.assign f) := rfl

@[simp] lemma notify_bind_apply (notice : Notice) (k : Unit → Procedure σ β) :
    (notify notice >>= k) w = k () (w.notify notice) := rfl

end Running

/-! ### Procedures and scripts -/

section Enacting

variable {α : Type} {value : α} {next script : Script Outcome} {k : Unit → Procedure σ α}

/-- A procedure has done what a script says, with a value, and the event counts as consumed; or the
command has failed at which the script fails, and nothing but commands has been done. -/
def Enacts (w : Workspace σ) (script : Script Outcome) (value : α)
    (result : EStateM.Result TransportError (Workspace σ) α) : Prop :=
  match script.run w.network with
  | (.ok o, net) => o.processed = true ∧ result = .ok value (w.after o net)
  | (.error cause, net) => result = .error cause (w.on net)

/-- A procedure has enacted a rule, or left the event alone if there is none. -/
def Follows (w : Workspace σ) (rule : Option (Script Outcome))
    (result : EStateM.Result TransportError (Workspace σ) Bool) : Prop :=
  match rule with
  | some script => Enacts w script true result
  | none => result = .ok false w

lemma enacts_done {o : Outcome} {w' : Workspace σ} (ho : o.processed = true)
    (h : w' = w.after o w.network) : Enacts w (.done o) value (.ok value w') :=
  ⟨ho, congrArg (EStateM.Result.ok value) h⟩

lemma enacts_command {c : Command} {next : c.Reply → Script Outcome}
    {k : c.Reply → Procedure σ α}
    (h : ∀ reply net, Enacts (w.on net) (next reply) value (k reply (w.on net))) :
    Enacts w (.send c next) value ((command c >>= k) w) := by
  change Enacts w _ value (EStateM.bind (command c) k w)
  rw [EStateM.bind, command, Enacts, Script.run]
  rcases Transport.perform c w.network with ⟨cause | reply, net⟩
  · rfl
  · exact h reply net

lemma enacts_freshTag {next : Tag → Script Outcome} {k : Tag → Procedure σ α}
    (h : ∀ tag net, Enacts (w.on net) (next tag) value (k tag (w.on net))) :
    Enacts w (.freshTag next) value ((freshTag >>= k) w) :=
  h _ _

lemma enacts_sendResponse {r : Request} {status : UInt16}
    (h : ∀ net, Enacts (w.on net) next value (k () (w.on net))) :
    Enacts w (Session.respond r status next) value ((sendResponse r status >>= k) w) :=
  enacts_command fun _ net => h net

lemma enacts_sendAck {r : Response} (h : ∀ net, Enacts (w.on net) next value (k () (w.on net))) :
    Enacts w (w.session.acknowledge r next) value ((sendAck r >>= k) w) := by
  rw [sendAck, bind_assoc, session_bind_apply, Session.acknowledge]
  cases w.session.dialog with
  | none => rfl
  | some dialog => exact enacts_command fun _ net => h net

lemma enacts_sendBye (h : ∀ net, Enacts (w.on net) next value (k () (w.on net))) :
    Enacts w (w.session.hangUp next) value ((sendBye >>= k) w) := by
  rw [sendBye, bind_assoc, session_bind_apply, Session.hangUp]
  cases w.session.dialog with
  | none => exact h w.network
  | some dialog => exact enacts_command fun _ net => h net

lemma enacts_sendCancel (h : ∀ net, Enacts (w.on net) next value (k () (w.on net))) :
    Enacts w (w.session.cancelRequest next) value ((sendCancel >>= k) w) := by
  rw [sendCancel, bind_assoc, session_bind_apply, Session.cancelRequest]
  cases w.session.clientTransaction with
  | none => exact h w.network
  | some t => exact enacts_command fun _ net => h net

lemma enacts_localTag {next : Tag → Script Outcome} {k : Tag → Procedure σ α}
    (h : ∀ tag net, Enacts (w.on net) (next tag) value (k tag (w.on net))) :
    Enacts w (w.session.withLocalTag next) value ((localTag >>= k) w) := by
  rw [localTag, bind_assoc, session_bind_apply, Session.withLocalTag]
  cases w.session.dialog with
  | none => exact enacts_freshTag h
  | some dialog => exact h dialog.localTag w.network

/-- Whether a dialog could be given up does not matter for what is done next. -/
lemma enacts_giveUpDialog {f : Workspace σ → Workspace σ}
    (h : ∀ net, Enacts (w.on net) next value (.ok value (f (w.on net)))) :
    Enacts w (w.session.abandonDialog next) value (.ok value (f w.giveUpDialog)) := by
  rw [Session.abandonDialog, Workspace.giveUpDialog]
  cases w.session.dialog with
  | none => exact h w.network
  | some dialog => exact h _

/-- An event that a procedure has dealt with is consumed. -/
lemma Enacts.consumed {p : Procedure σ Unit} (h : Enacts w script () (p w)) :
    Enacts w script true ((do p; return true) w) := by
  change Enacts w script true (EStateM.bind p (fun _ => pure true) w)
  unfold Enacts at h ⊢
  rw [EStateM.bind]
  rcases hrun : script.run w.network with ⟨cause | o, net⟩ <;> rw [hrun] at h
  · rw [show p w = .error cause (w.on net) from h]
  · obtain ⟨hprocessed, h⟩ := h
    rw [h]
    exact ⟨hprocessed, rfl⟩

/-- A procedure has done what a script says, whether or not the event counts as consumed. -/
def Realizes (w : Workspace σ) (script : Script Outcome)
    (result : EStateM.Result TransportError (Workspace σ) Bool) : Prop :=
  match script.run w.network with
  | (.ok o, net) => result = .ok o.processed (w.after o net)
  | (.error cause, net) => result = .error cause (w.on net)

variable {rule rule' : Option (Script Outcome)}
  {result : EStateM.Result TransportError (Workspace σ) Bool}

lemma Enacts.realizes (h : Enacts w script true result) : Realizes w script result := by
  unfold Enacts at h
  unfold Realizes
  rcases hrun : script.run w.network with ⟨cause | o, net⟩ <;> rw [hrun] at h
  · exact h
  · obtain ⟨hprocessed, h⟩ := h
    dsimp only
    rw [hprocessed]
    exact h

lemma realizes_refused : Realizes w (.done w.session.refused) (.ok false w) :=
  congrArg (EStateM.Result.ok false) Workspace.after_refused.symm

lemma Follows.realizes (h : Follows w rule result) :
    Realizes w (rule.getD (.done w.session.refused)) result := by
  cases rule with
  | none =>
    obtain rfl : result = .ok false w := h
    exact realizes_refused
  | some script => exact Enacts.realizes h

/-- If there is no rule of the first kind for an event, one of the second kind may be followed. -/
lemma Follows.or {p q : Procedure σ Bool} (hp : Follows w rule (p w))
    (hq : Follows w rule' (q w)) :
    Follows w (rule.or rule') ((do if ← p then return true else q) w) := by
  change Follows w _ (EStateM.bind p (fun processed => if processed then pure true else q) w)
  rw [EStateM.bind]
  cases rule with
  | none =>
    rw [show p w = .ok false w from hp]
    exact hq
  | some script =>
    unfold Follows Enacts at hp
    dsimp only at hp
    unfold Follows Enacts
    rw [Option.some_or]
    dsimp only
    rcases hrun : script.run w.network with ⟨cause | o, net⟩ <;> rw [hrun] at hp
    · rw [show p w = .error cause (w.on net) from hp]
    · obtain ⟨hprocessed, hp⟩ := hp
      rw [hp]
      exact ⟨hprocessed, rfl⟩

end Enacting

end Procedure

end SipAgent
