import SipAgent.Proofs.Session.Answer
import SipAgent.Proofs.Session.Shape

/-!
# Runs of a session

A session lives from turn to turn. In each it consumes one event, and between two turns others may
have used the network, so every turn comes with the network as it finds it. `Session.Along` states a
property of all turns of a run, `Session.Along.invariant` is induction over them, and
`Session.Reachable` are the sessions that a run can lead to when messages find their session by its
key.
-/

namespace SipAgent

/-- One turn of a session: the event, the number of a session that it would spawn, and the network
as it finds it. -/
structure Turn (σ : Type) where
  event : SessionEvent
  fresh : SessionId
  net : σ

namespace Session

variable {σ : Type} [Transport σ] {profile : Profile} {s : Session} {turn : Turn σ}
  {turns first later : List (Turn σ)} {kind : Session → Turn σ → Prop}

/-- What comes of a turn. -/
def outcome (profile : Profile) (s : Session) (turn : Turn σ) : Outcome :=
  (s.process profile turn.fresh turn.event turn.net).1

/-- What a session asks of the network in a turn. -/
def asked (profile : Profile) (s : Session) (turn : Turn σ) : List Call :=
  (s.script profile turn.fresh turn.event).calls turn.net

/-- The session after a number of turns. -/
def after (profile : Profile) (s : Session) (turns : List (Turn σ)) : Session :=
  turns.foldl (fun s turn => (s.outcome profile turn).session) s

/-- Every turn of a run, in the session as it is then, is of a kind. -/
def Along (profile : Profile) (kind : Session → Turn σ → Prop) (s : Session) :
    List (Turn σ) → Prop
  | [] => True
  | turn :: later => kind s turn ∧ (s.outcome profile turn).session.Along profile kind later

@[simp] lemma after_nil (profile : Profile) (s : Session) :
    s.after profile ([] : List (Turn σ)) = s := rfl

@[simp] lemma after_cons (profile : Profile) (s : Session) (turn : Turn σ)
    (later : List (Turn σ)) :
    s.after profile (turn :: later) = (s.outcome profile turn).session.after profile later := rfl

@[simp] lemma after_append (profile : Profile) (s : Session) (first later : List (Turn σ)) :
    s.after profile (first ++ later) = (s.after profile first).after profile later :=
  List.foldl_append

/-- A turn in a session that owns a dialog goes as the list of reactions says, or a command of it is
refused. -/
lemma reacts_turn {R : Promise} (hR : R.KeptBy σ) (profile : Profile) (hs : s.role = .dialog)
    (turn : Turn σ) :
    Reaction R profile (s.attaching turn.event) turn.event (s.outcome profile turn) ∨
      (turn.event.isRegistration → s.state = .ready) ∧
        ∃ cause, s.outcome profile turn = s.transportFailed turn.event cause := by
  have h := reacts_run hR profile turn.fresh hs turn.event turn.net
  unfold outcome
  rw [process_fst]
  cases hrun : ((s.script profile turn.fresh turn.event).run turn.net).1 with
  | ok outcome =>
    rw [hrun] at h
    exact .inl h
  | error cause =>
    rw [hrun] at h
    exact .inr ⟨fun he => (attaching_state s turn.event).symm.trans (h he), cause, rfl⟩

namespace Along

lemma append_iff :
    s.Along profile kind (first ++ later) ↔
      s.Along profile kind first ∧ (s.after profile first).Along profile kind later := by
  induction first generalizing s with
  | nil => simp [Along]
  | cons turn first ih => simp [Along, ih, and_assoc]

/-- What every turn of the run preserves holds at its end. -/
theorem invariant {P : Session → Prop} (h : s.Along profile kind turns) (hs : P s)
    (hstep : ∀ s turn, P s → kind s turn → P (s.outcome profile turn).session) :
    P (s.after profile turns) := by
  induction turns generalizing s with
  | nil => exact hs
  | cons turn later ih => exact ih h.2 (hstep s turn hs h.1)

end Along

/-- A session that owns a dialog goes on owning one. -/
lemma after_role (hs : s.role = .dialog) (profile : Profile) (turns : List (Turn σ)) :
    (s.after profile turns).role = .dialog := by
  induction turns generalizing s with
  | nil => exact hs
  | cons turn later ih =>
    obtain ⟨-, hrole, -⟩ := process_session profile turn.fresh hs turn.event turn.net
    exact ih hrole

/-- A session is who it was. -/
lemma after_id (hs : s.role = .dialog) (profile : Profile) (turns : List (Turn σ)) :
    (s.after profile turns).id = s.id := by
  induction turns generalizing s with
  | nil => rfl
  | cons turn later ih =>
    obtain ⟨hid, hrole, -⟩ := process_session profile turn.fresh hs turn.event turn.net
    exact (ih hrole).trans hid

/-- A command carries nothing that could be astray. -/
lemma receives_of_isCommand {e : SessionEvent} (h : e.isCommand = true) : s.Receives e := by
  cases e with
  | makeCall | answerCall | changeCall | endCall | register | deregister =>
    constructor <;>
    · intro _ hmessage
      cases hmessage
  | request | response | timeout | dialogTerminated | transactionTerminated | connectionLost =>
    cases h

lemma receives_response {r : Response} (hkey : s.key = some r.callId) (hdialog : r.dialog = none) :
    s.Receives (.response r) := by
  constructor
  · intro _ he
    cases he
  · rintro _ ⟨⟩
    exact hkey
  · intro d hd
    rw [show SessionEvent.dialog? (.response r) = r.dialog from rfl, hdialog] at hd
    cases hd

/-- The session that a run leads to: it was created idle, or a receiver took an invitation in, and
since then messages, and the dialogs that they carry, reached it under its own key. -/
inductive Reachable (σ : Type) [Transport σ] (profile : Profile) : Session → Prop where
  | created (id : SessionId) : Reachable σ profile (.idle id .dialog)
  | spawned {receiver s : Session} (hr : receiver.role = .receiver) (fresh : SessionId)
      (r : Request) (net : σ) (hdialog : ∀ d, r.dialog = some d → d.callId = r.callId)
      (hs : (receiver.process profile fresh (.request r) net).1.spawned = some s) :
      Reachable σ profile s
  | step {s : Session} (h : Reachable σ profile s) (turn : Turn σ) (he : s.Receives turn.event) :
      Reachable σ profile (s.outcome profile turn).session

/-- Over a network that answers as a recorder does, the session is idle, or holds what its state
calls for under its key. -/
theorem Reachable.shaped (hR : Recorder.promise.KeptBy σ) (h : Reachable σ profile s) :
    s.Shaped := by
  induction h with
  | created id => exact .idle id
  | spawned hr fresh r net hdialog hs =>
    obtain ⟨-, tag, t, ht, rfl⟩ := takingIn_of_spawned hR hr hs
    exact shaped_takingIn fresh tag ht hdialog
  | step h turn he ih => exact ih.process hR he profile turn.fresh turn.net

/-- A call has a dialog, and the Call-ID of that is the key. -/
lemma Shaped.exists_dialog (h : s.Shaped) (hs : s.state.isCall) :
    ∃ d, s.dialog = some d ∧ s.key = some d.callId := by
  cases h with
  | idle id => cases hs
  | busy key hb =>
    obtain ⟨d, hd⟩ := (hb.call hs).1
    exact ⟨d, hd, (hb.under.dialog d hd).symm ▸ hb.under.own⟩

lemma Reachable.busy (hR : Recorder.promise.KeptBy σ) (h : Reachable σ profile s)
    (hs : s.state ≠ .ready) : ∃ key, s.Busy key := by
  cases h.shaped hR with
  | idle id => exact absurd rfl hs
  | busy key hb => exact ⟨key, hb⟩

end Session

/-! ### Turns over a recorder -/

namespace Turn

/-- A turn over a new recorder. -/
def recorded (e : SessionEvent) : Turn Recorder :=
  ⟨e, 1, .ofHost "localhost"⟩

/-- The Call-ID that a new recorder gives to a call. -/
def recordedCallId : CallId :=
  (Recorder.ofHost "localhost").supply.next.next.callId "localhost"

/-- The peer of a call over a new recorder answers an invitation. -/
def answered (status : UInt16) : Turn Recorder :=
  recorded (.response (.answering ⟨⟨"branch"⟩, .invite, recordedCallId⟩ status ""))

lemma receives_answered {s : Session} (hs : s.key = some recordedCallId) (status : UInt16) :
    s.Receives (answered status).event :=
  Session.receives_response hs rfl

end Turn

end SipAgent
