import SipAgent.Proofs.Session.Process
import SipAgent.Transport.Recorder

/-!
# Transactions and dialogs that are over

The network reports that a transaction timed out, or that a transaction or a dialog is over. Such a
report may come late, when the session has moved on. `expiry_decisive_iff` says which reports
matter, for any session whatsoever: those about what the session holds and still waits for reset it,
and all others leave it alone.
-/

namespace SipAgent

/-- The event reports that a transaction or a dialog is over. -/
def SessionEvent.isExpiry : SessionEvent → Bool
  | .timeout _ | .transactionTerminated _ | .dialogTerminated _ => true
  | _ => false

namespace Session

variable {σ : Type} [Transport σ] {profile : Profile} {s : Session} {e : SessionEvent}

/-- The session holds the transaction that a timeout is about, on either side. -/
def HoldsTransaction (s : Session) (id : TransactionId) : Prop :=
  (∃ own, s.clientTransaction = some own ∧ own.id = id) ∨
    ∃ theirs, s.serverTransaction = some theirs ∧ theirs.id = id

/-- The states in which an own request still awaits its final response. -/
def awaitingStates : List SessionState :=
  [.registering, .deregistering, .outgoingCall, .outgoingCallRingBack, .outgoingCallCanceling,
    .inCallChanging, .inCallChangingCanceling]

/-- What is over according to the event is what the session depends on. -/
inductive Decisive (s : Session) : SessionEvent → Prop where
  | timeout (t : TransactionEnd) (hs : s.state ≠ .ready) (ht : s.HoldsTransaction t.transaction) :
      Decisive s (.timeout t)
  | transactionTerminated (t : TransactionEnd) (own : ClientTransaction)
      (hs : s.state ∈ awaitingStates) (hside : t.isServer = false)
      (hown : s.clientTransaction = some own) (hid : own.id = t.transaction) :
      Decisive s (.transactionTerminated t)
  | dialogTerminated (d own : Dialog) (hs : s.state ≠ .ready) (hown : s.dialog = some own)
      (hcallId : own.callId = d.callId) (htag : own.localTag = d.localTag) :
      Decisive s (.dialogTerminated d)

/-! ### What the session holds -/

lemma isCurrentClient_iff {id : TransactionId} :
    s.isCurrentClient id = true ↔ ∃ own, s.clientTransaction = some own ∧ own.id = id := by
  unfold isCurrentClient
  split
  · next own hown => simp [hown]
  · next hnone => simp [hnone]

lemma isCurrentServer_iff {id : TransactionId} :
    s.isCurrentServer id = true ↔ ∃ theirs, s.serverTransaction = some theirs ∧ theirs.id = id := by
  unfold isCurrentServer
  split
  · next theirs htheirs => simp [htheirs]
  · next hnone => simp [hnone]

lemma holdsTransaction_iff {id : TransactionId} :
    s.HoldsTransaction id ↔ (s.isCurrentClient id || s.isCurrentServer id) = true := by
  rw [Bool.or_eq_true, isCurrentClient_iff, isCurrentServer_iff]
  rfl

lemma isCurrentDialog_iff {d : Dialog} :
    s.isCurrentDialog d = true ↔
      ∃ own, s.dialog = some own ∧ own.callId = d.callId ∧ own.localTag = d.localTag := by
  unfold isCurrentDialog
  split
  · next own hown => simp [hown]
  · next hnone => simp [hnone]

lemma awaitsFinalResponse_iff {state : SessionState} :
    state.awaitsFinalResponse = true ↔ state ∈ awaitingStates := by
  cases state <;> decide

lemma decisive_timeout_iff {t : TransactionEnd} :
    s.Decisive (.timeout t) ↔ s.state ≠ .ready ∧
      (s.isCurrentClient t.transaction || s.isCurrentServer t.transaction) = true := by
  rw [← holdsTransaction_iff]
  constructor
  · rintro ⟨_, hs, ht⟩
    exact ⟨hs, ht⟩
  · rintro ⟨hs, ht⟩
    exact .timeout t hs ht

lemma decisive_transactionTerminated_iff {t : TransactionEnd} :
    s.Decisive (.transactionTerminated t) ↔ s.state.awaitsFinalResponse = true ∧
      (!t.isServer && s.isCurrentClient t.transaction) = true := by
  rw [Bool.and_eq_true, Bool.not_eq_true', isCurrentClient_iff, awaitsFinalResponse_iff]
  constructor
  · intro h
    cases h with
    | transactionTerminated _ own hs hside hown hid => exact ⟨hs, hside, own, hown, hid⟩
  · rintro ⟨hs, hside, own, hown, hid⟩
    exact .transactionTerminated t own hs hside hown hid

lemma decisive_dialogTerminated_iff {d : Dialog} :
    s.Decisive (.dialogTerminated d) ↔
      (s.isCurrentDialog d && decide (s.state ≠ .ready)) = true := by
  rw [Bool.and_eq_true, decide_eq_true_eq, isCurrentDialog_iff]
  constructor
  · intro h
    cases h with
    | dialogTerminated _ own hs hown hcallId htag => exact ⟨⟨own, hown, hcallId, htag⟩, hs⟩
  · rintro ⟨⟨own, hown, hcallId, htag⟩, hs⟩
    exact .dialogTerminated d own hs hown hcallId htag

/-! ### The rules that apply -/

/-- No state has a rule of its own for such an event. -/
lemma stateRule_of_isExpiry (he : e.isExpiry) : s.stateRule profile e = none := by
  have hringing : s.incomingCallRule profile e = none := by
    unfold incomingCallRule
    cases e with
    | timeout | transactionTerminated | dialogTerminated => cases s.invite <;> rfl
    | _ => cases he
  unfold stateRule
  cases e with
  | timeout | transactionTerminated | dialogTerminated =>
    split
    case h_4 => exact hringing
    all_goals rfl
  | _ => cases he

lemma dialogScript_of_isExpiry (he : e.isExpiry) :
    s.dialogScript profile e = (s.commonRule e).getD (.done s.refused) := by
  have hattached : s.attaching e = s := by
    cases e with
    | timeout | transactionTerminated | dialogTerminated => rfl
    | _ => cases he
  simp only [dialogScript, hattached, stateRule_of_isExpiry he]
  split
  · next script h => rw [h, Option.getD_some]
  · next h => rw [h, Option.getD_none]

/-! ### What comes of it -/

/-- The session goes back to its idle state, lets go of its key and tells its listener once. -/
structure Resets (s : Session) (o : Outcome) : Prop where
  session : o.session = s.cleared
  told : ∃ notice, o.reports = [⟨s.id, notice⟩]
  keyChanges : o.keyChanges = s.unbound
  spawned : o.spawned = none

/-- The session is what it was, and nobody has to know of anything. -/
structure Inert (s : Session) (o : Outcome) : Prop where
  session : o.session = s
  reports : o.reports = []
  keyChanges : o.keyChanges = []
  spawned : o.spawned = none

lemma resets_finished (s : Session) (notice : Notice) : s.Resets (s.finished notice) :=
  ⟨rfl, ⟨notice, rfl⟩, rfl, rfl⟩

lemma inert_refused (s : Session) : s.Inert s.refused :=
  ⟨rfl, rfl, rfl, rfl⟩

lemma inert_consumed (s : Session) : s.Inert s.consumed :=
  ⟨rfl, rfl, rfl, rfl⟩

/-- A script ends with an outcome whatever the network does, and these are its commands. -/
structure Comes (script : Script Outcome) (net : σ) (o : Outcome) (commands : List Command) :
    Prop where
  result : (script.run net).1 = .ok o
  asked : (script.calls net).map (·.command) = commands

lemma comes_done (o : Outcome) (net : σ) : Comes (.done o) net o [] :=
  ⟨rfl, rfl⟩

/-- It does not matter whether the network gives the dialog up. -/
lemma comes_abandonDialog (s : Session) (o : Outcome) (net : σ) :
    Comes (s.abandonDialog (.done o)) net o (s.dialog.map .terminateDialog).toList := by
  unfold abandonDialog
  split
  · next d hd =>
    rw [hd]
    exact ⟨rfl, rfl⟩
  · next hnone =>
    rw [hnone]
    exact comes_done o net

/-- What the session asks of the network about the event. -/
def farewell (s : Session) : SessionEvent → List Command
  | .timeout t =>
    if s.isCurrentClient t.transaction || s.isCurrentServer t.transaction
      then (s.dialog.map .terminateDialog).toList else []
  | _ => []

/-- A timeout of a transaction that the session holds resets the session unless it is idle. -/
lemma timedOut_cases (s : Session) :
    s.state ≠ .ready ∧ s.Resets s.timedOut ∨ s.state = .ready ∧ s.Inert s.timedOut := by
  unfold timedOut
  split_ifs with hreg hready
  · refine .inl ⟨?_, resets_finished s _⟩
    intro hready
    rw [hready] at hreg
    cases hreg
  · exact .inr ⟨hready, inert_consumed s⟩
  · exact .inl ⟨hready, resets_finished s _⟩

/-- The event is decisive and resets the session, or it is stale and leaves it alone. -/
def Decides (s : Session) (e : SessionEvent) (o : Outcome) : Prop :=
  s.Decisive e ∧ s.Resets o ∨ ¬ s.Decisive e ∧ s.Inert o

lemma comes_of_timeout (profile : Profile) (s : Session) (t : TransactionEnd) (net : σ) :
    ∃ o, Comes (s.dialogScript profile (.timeout t)) net o (s.farewell (.timeout t)) ∧
      s.Decides (.timeout t) o := by
  rw [dialogScript_of_isExpiry rfl, farewell]
  simp only [Decides, decisive_timeout_iff, commonRule]
  by_cases ht : (s.isCurrentClient t.transaction || s.isCurrentServer t.transaction) = true
  · rw [if_pos ht, if_pos ht, Option.getD_some]
    refine ⟨_, comes_abandonDialog s _ net, ?_⟩
    rcases s.timedOut_cases with ⟨hs, h⟩ | ⟨hs, h⟩
    · exact .inl ⟨⟨hs, ht⟩, h⟩
    · exact .inr ⟨fun hdecisive => hdecisive.1 hs, h⟩
  · rw [if_neg ht, if_neg ht, Option.getD_none]
    exact ⟨_, comes_done _ net, .inr ⟨fun hdecisive => ht hdecisive.2, inert_refused s⟩⟩

lemma comes_of_transactionTerminated (profile : Profile) (s : Session) (t : TransactionEnd)
    (net : σ) :
    ∃ o, Comes (s.dialogScript profile (.transactionTerminated t)) net o [] ∧
      s.Decides (.transactionTerminated t) o := by
  rw [dialogScript_of_isExpiry rfl]
  simp only [Decides, decisive_transactionTerminated_iff, commonRule]
  split_ifs with ht hs
  · exact ⟨_, comes_done _ net, .inl ⟨⟨hs, ht⟩, resets_finished s _⟩⟩
  · exact ⟨_, comes_done _ net, .inr ⟨fun hdecisive => hs hdecisive.1, inert_consumed s⟩⟩
  · exact ⟨_, comes_done _ net, .inr ⟨fun hdecisive => ht hdecisive.2, inert_refused s⟩⟩

lemma comes_of_dialogTerminated (profile : Profile) (s : Session) (d : Dialog) (net : σ) :
    ∃ o, Comes (s.dialogScript profile (.dialogTerminated d)) net o [] ∧
      s.Decides (.dialogTerminated d) o := by
  rw [dialogScript_of_isExpiry rfl]
  simp only [Decides, decisive_dialogTerminated_iff, commonRule]
  split
  · next hd => exact ⟨_, comes_done _ net, .inl ⟨hd, resets_finished s _⟩⟩
  · next hd => exact ⟨_, comes_done _ net, .inr ⟨hd, inert_consumed s⟩⟩

/-- Every such event is decisive and resets the session, or stale and leaves it alone, and the
network has no say in it. -/
lemma comes_of_isExpiry (profile : Profile) (s : Session) (he : e.isExpiry) (net : σ) :
    ∃ o, Comes (s.dialogScript profile e) net o (s.farewell e) ∧ s.Decides e o := by
  cases e with
  | timeout t => exact comes_of_timeout profile s t net
  | transactionTerminated t => exact comes_of_transactionTerminated profile s t net
  | dialogTerminated d => exact comes_of_dialogTerminated profile s d net
  | _ => cases he

/-- The network reports that a transaction or a dialog is over, to a session in whatever state and
with whatever fields, and however the network takes what the session asks for:

- the session is reset, and its listener told exactly once, if and only if the report is about a
  transaction or a dialog that it holds and still waits for;
- after any other report, every field is what it was, and nobody is told anything;
- all that is ever asked of the network is to give up the dialog of the session, when a transaction
  that it holds timed out. -/
theorem expiry_decisive_iff (profile : Profile) (fresh : SessionId) (s : Session)
    (hrole : s.role = .dialog) (e : SessionEvent) (he : e.isExpiry) (net : σ) :
    let o := (s.process profile fresh e net).1
    let asked := ((s.script profile fresh e).calls net).map (·.command)
    (s.Decisive e ↔ o.session = s.cleared ∧ o.keyChanges = s.unbound ∧
      ∃ notice, o.reports = [⟨s.id, notice⟩]) ∧
    (¬ s.Decisive e → o.session = s ∧ o.reports = [] ∧ o.keyChanges = []) ∧
    o.spawned = none ∧
    ((∃ t, e = .timeout t ∧ s.HoldsTransaction t.transaction) →
      asked = (s.dialog.map .terminateDialog).toList) ∧
    ((¬ ∃ t, e = .timeout t ∧ s.HoldsTransaction t.transaction) → asked = []) := by
  intro o asked
  obtain ⟨o', ⟨hresult, hasked⟩, hdecides⟩ := comes_of_isExpiry profile s he net
  have ho : o = o' := by
    simp only [o, process_fst, script_of_dialog hrole, hresult, conclusion]
  have hasked' : asked = s.farewell e := by
    simp only [asked, script_of_dialog hrole, hasked]
  rw [ho, hasked']
  refine ⟨⟨fun h => ?_, fun h => ?_⟩, fun h => ?_, ?_, ?_, ?_⟩
  · rcases hdecides with ⟨-, hreset⟩ | ⟨hstale, -⟩
    · exact ⟨hreset.session, hreset.keyChanges, hreset.told⟩
    · exact absurd h hstale
  · obtain ⟨-, -, notice, htold⟩ := h
    rcases hdecides with ⟨hdecisive, -⟩ | ⟨-, hinert⟩
    · exact hdecisive
    · cases hinert.reports.symm.trans htold
  · rcases hdecides with ⟨hdecisive, -⟩ | ⟨-, hinert⟩
    · exact absurd hdecisive h
    · exact ⟨hinert.session, hinert.reports, hinert.keyChanges⟩
  · rcases hdecides with ⟨-, hreset⟩ | ⟨-, hinert⟩
    · exact hreset.spawned
    · exact hinert.spawned
  · rintro ⟨t, rfl, ht⟩
    rw [farewell, if_pos (holdsTransaction_iff.mp ht)]
  · intro hnone
    cases e with
    | timeout t =>
      rw [farewell, if_neg]
      exact fun ht => hnone ⟨t, rfl, holdsTransaction_iff.mpr ht⟩
    | _ => rfl

/-- A call that nobody answers, on a network that is down: the timeout of its invitation ends it
although the network cannot even give the dialog up, and the timeout of an earlier request does
nothing. -/
theorem expiry_decisive_iff_of_call :
    let profile := Profile.ofUri ⟨some "alice", "localhost", none⟩ ""
    let down : Recorder := { Recorder.ofHost "localhost" with failing := true }
    let d : Dialog := ⟨⟨"call"⟩, "local", none⟩
    let s : Session := { idle 0 .dialog with
      state := .outgoingCall, key := some ⟨"call"⟩, dialog := some d,
      clientTransaction := some ⟨⟨"branch"⟩, .invite, ⟨"call"⟩⟩ }
    let current : SessionEvent := .timeout ⟨⟨"branch"⟩, ⟨"call"⟩, false⟩
    let stale : SessionEvent := .timeout ⟨⟨"earlier"⟩, ⟨"call"⟩, false⟩
    s.role = .dialog ∧ current.isExpiry ∧ stale.isExpiry ∧
      (s.process profile 1 current down).1.session = idle 0 .dialog ∧
      ((s.script profile 1 current).calls down).map (·.command) = [.terminateDialog d] ∧
      (s.process profile 1 stale down).1.session = s := by
  intro profile down d s current stale
  have hheld : s.HoldsTransaction ⟨"branch"⟩ := .inl ⟨_, rfl, rfl⟩
  have hdecisive : s.Decisive current := .timeout _ (by decide) hheld
  have hstale : ¬ s.Decisive stale := fun h => absurd (decisive_timeout_iff.mp h).2 (by decide)
  obtain ⟨hreset, -, -, hasked, -⟩ := expiry_decisive_iff profile 1 s rfl current rfl down
  obtain ⟨-, hinert, -⟩ := expiry_decisive_iff profile 1 s rfl stale rfl down
  refine ⟨rfl, rfl, rfl, ?_, hasked ⟨_, rfl, hheld⟩, (hinert hstale).1⟩
  exact (hreset.mp hdecisive).1

end Session

end SipAgent
