import SipAgent.Proofs.Session.Keys
import SipAgent.Proofs.Transport.Recorder

/-!
# The shape of a session

An idle session holds nothing, just like a new one; a busy session holds everything that its state
calls for, and all of it belongs to the Call-ID that is its key. `Session.Shaped` says so, and
`Reaction.shaped` that no reaction breaks it, as long as handles come from a recorder and messages
come to the session under its own key.
-/

namespace SipAgent

/-- An invitation of the peer is being answered. -/
def SessionState.answersInvite : SessionState → Bool
  | .incomingCall | .incomingCallAnswering | .inCallAnswering => true
  | _ => false

/-- The method of the own request that is under way. -/
def SessionState.ownRequest : SessionState → Option Method
  | .registering | .deregistering => some .register
  | .outgoingCall | .outgoingCallRingBack | .outgoingCallCanceling => some .invite
  | .inCallChanging | .inCallChangingCanceling => some .invite
  | _ => none

/-- Only an own request that is under way can be challenged. -/
lemma SessionState.ownRequest_of_challengeable {state : SessionState} {m : Method}
    (h : state.challengeable = some m) : state.ownRequest = some m := by
  cases state <;> cases h <;> rfl

namespace Session

variable {profile : Profile} {s t : Session} {e : SessionEvent} {key : CallId}

/-- Everything that a session holds belongs to one Call-ID, which is its key. -/
structure Under (s : Session) (key : CallId) : Prop where
  own : s.key = some key
  dialog : ∀ d, s.dialog = some d → d.callId = key
  clientTransaction : ∀ t, s.clientTransaction = some t → t.callId = key
  serverTransaction : ∀ t, s.serverTransaction = some t → t.callId = key
  invite : ∀ r, s.invite = some r → r.callId = key

/-- A busy session holds what its state calls for. -/
structure Busy (s : Session) (key : CallId) : Prop where
  role : s.role = .dialog
  busy : s.state ≠ .ready
  under : s.Under key
  call : s.state.isCall → (∃ d, s.dialog = some d) ∧ ∃ p, s.peer = some p
  answers : s.state.answersInvite →
    (∃ r, s.invite = some r) ∧ ∃ t, s.serverTransaction = some t
  requests : ∀ m, s.state.ownRequest = some m →
    ∃ t, s.clientTransaction = some t ∧ t.method = m
  retries : s.authRetries ≤ maxAuthRetries

/-- A session is idle and as good as new, or busy with all that belongs to its state. -/
inductive Shaped : Session → Prop where
  | idle (id : SessionId) : Shaped (.idle id .dialog)
  | busy {s : Session} (key : CallId) (h : s.Busy key) : Shaped s

/-- Messages reach a session under its own key, and so do the dialogs that they carry. -/
structure Receives (s : Session) (e : SessionEvent) : Prop where
  request : ∀ r, e = .request r → s.key = some r.callId
  response : ∀ r, e = .response r → s.key = some r.callId
  dialog : ∀ d, e.dialog? = some d → s.key = some d.callId

lemma Shaped.of_cleared (hs : s.role = .dialog) : s.cleared.Shaped := by
  unfold cleared
  rw [hs]
  exact .idle s.id

/-- Both sessions hold the same. -/
structure SameHandles (s t : Session) : Prop where
  role : t.role = s.role
  key : t.key = s.key
  peer : t.peer = s.peer
  dialog : t.dialog = s.dialog
  clientTransaction : t.clientTransaction = s.clientTransaction
  serverTransaction : t.serverTransaction = s.serverTransaction
  invite : t.invite = s.invite

lemma SameHandles.of_capturing (s : Session) (body : Octets) :
    SameHandles s (s.capturing body) := by
  unfold capturing
  split <;> exact ⟨rfl, rfl, rfl, rfl, rfl, rfl, rfl⟩

lemma SameHandles.under (h : SameHandles s t) (hs : s.Under key) : t.Under key where
  own := h.key.trans hs.own
  dialog d hd := hs.dialog d (h.dialog ▸ hd)
  clientTransaction u hu := hs.clientTransaction u (h.clientTransaction ▸ hu)
  serverTransaction u hu := hs.serverTransaction u (h.serverTransaction ▸ hu)
  invite r hr := hs.invite r (h.invite ▸ hr)

/-- A session that goes on to a state that calls for nothing else. -/
lemma Busy.goesOn (hs : s.Busy key) (h : SameHandles s t) (hbusy : t.state ≠ .ready)
    (hcall : t.state.isCall → s.state.isCall)
    (hanswers : t.state.answersInvite → s.state.answersInvite)
    (hrequests : ∀ m, t.state.ownRequest = some m → s.state.ownRequest = some m)
    (hretries : t.authRetries ≤ maxAuthRetries) : t.Busy key where
  role := h.role.trans hs.role
  busy := hbusy
  under := h.under hs.under
  call ht := by
    rw [h.dialog, h.peer]
    exact hs.call (hcall ht)
  answers ht := by
    rw [h.invite, h.serverTransaction]
    exact hs.answers (hanswers ht)
  requests m hm := by
    rw [h.clientTransaction]
    exact hs.requests m (hrequests m hm)
  retries := hretries

/-! ### One event -/

/-- Attaching the dialog of a message that the session receives. -/
lemma Shaped.attaching (hs : s.Shaped) (h : s.Receives e) : (s.attaching e).Shaped := by
  unfold Session.attaching
  split
  · next d hd =>
    have hkey := h.dialog d hd
    cases hs with
    | idle id => cases hkey
    | busy key hb =>
      obtain rfl := Option.some.inj (hb.under.own.symm.trans hkey)
      refine .busy d.callId ⟨hb.role, hb.busy, ⟨hkey, ?_, ?_, ?_, ?_⟩, ?_, hb.answers,
        hb.requests, hb.retries⟩
      · rintro _ ⟨⟩
        rfl
      · exact hb.under.clientTransaction
      · exact hb.under.serverTransaction
      · exact hb.under.invite
      · exact fun hcall => ⟨⟨d, rfl⟩, (hb.call hcall).2⟩
  · exact hs

/-- An idle session takes nothing along when it starts. -/
lemma shaped_of_registers (id : SessionId) {t : ClientTransaction} {next : SessionState}
    (hnext : next.isRegistration) (ht : t.method = .register) :
    Shaped { (idle id .dialog).withKey t.callId with
      clientTransaction := some t, authRetries := 0, state := next } := by
  have hcases : next = .registering ∨ next = .deregistering := by
    revert hnext
    cases next <;> decide
  refine .busy t.callId
    ⟨rfl, ?_, ⟨rfl, nofun, ?_, nofun, nofun⟩, ?_, ?_, ?_, Nat.zero_le _⟩
  · rcases hcases with rfl | rfl <;> nofun
  · rintro _ ⟨⟩
    rfl
  · rcases hcases with rfl | rfl <;> nofun
  · rcases hcases with rfl | rfl <;> nofun
  · intro m hm
    refine ⟨t, rfl, ht.trans ?_⟩
    rcases hcases with rfl | rfl <;> (cases hm; rfl)

lemma shaped_of_calls (id : SessionId) {t : ClientTransaction} {d : Dialog} (callee : Uri)
    (offer : Octets) (ht : t.method = .invite) (hd : d.callId = t.callId) :
    Shaped { (idle id .dialog).withKey t.callId with
      peer := some (.ofUri callee), localDescription := some offer, dialog := some d,
      clientTransaction := some t, authRetries := 0, state := .outgoingCall } := by
  refine .busy t.callId
    ⟨rfl, nofun, ⟨rfl, ?_, ?_, nofun, nofun⟩, ?_, nofun, ?_, Nat.zero_le _⟩
  · rintro _ ⟨⟩
    exact hd
  · rintro _ ⟨⟩
    rfl
  · exact fun _ => ⟨⟨d, rfl⟩, ⟨_, rfl⟩⟩
  · rintro _ ⟨⟩
    exact ⟨t, rfl, ht⟩

/-- No reaction of an idle session breaks its shape. -/
lemma Reaction.shaped_of_idle {o : Outcome} {id : SessionId}
    (h : Reaction Recorder.promise profile (idle id .dialog) e o) : o.session.Shaped := by
  cases h with
  | refused | consumed => exact .idle id
  | ended => exact .of_cleared rfl
  | registers expiry next tag t hs he hnext ht => exact shaped_of_registers id hnext ht
  | calls callee offer tag t d hs he ht => exact shaped_of_calls id callee offer ht.1 ht.2
  | challenged r t hs => cases hs
  | alerted r hs | accepts invite answer tag d hs | confirmed r hs | acceptsChange r tag d hs
  | changeConfirmed r hs | startsChange offer dialog t hs | cancelsChange hs
  | keepsCall r hs => cases hs
  | answered r hs | cancelsCall hs | changed r hs => rcases hs with hs | hs <;> cases hs

/-- A call that goes on with the same handles, none of which is a stored invitation. -/
lemma Busy.entering (hs : s.Busy key) {next : SessionState} (hbusy : next ≠ .ready)
    (hcall : s.state.isCall) (hanswers : next.answersInvite = false)
    (hrequests : ∀ m, next.ownRequest = some m → s.state.ownRequest = some m) :
    Shaped { s with state := next } := by
  refine .busy key (hs.goesOn ?_ hbusy (fun _ => hcall) (fun h => ?_) hrequests hs.retries)
  · exact ⟨rfl, rfl, rfl, rfl, rfl, rfl, rfl⟩
  · rw [hanswers] at h
    cases h

/-- An established call holds what the session held before. -/
lemma Busy.established (hs : s.Busy key) (h : SameHandles s t) (hcall : s.state.isCall) :
    t.established.session.Shaped := by
  refine .busy key (hs.goesOn ?_ nofun (fun _ => hcall) nofun nofun (Nat.zero_le _))
  exact ⟨h.role, h.key, h.peer, h.dialog, h.clientTransaction, h.serverTransaction, h.invite⟩

/-- A challenge is answered by a request of the same kind, in the same dialog. -/
lemma Busy.challenged (hs : s.Busy key) (hrecv : s.Receives e) {r : Response} (he : e = .response r)
    (hstate : s.state.challengeable = some r.method) (hretries : s.authRetries < maxAuthRetries)
    {t : ClientTransaction} (hmethod : t.method = r.method) (hcallId : t.callId = r.callId) :
    Shaped { s.withKey t.callId with
      authRetries := s.authRetries + 1, clientTransaction := some t } := by
  have hkey := hs.under.own.symm.trans (hrecv.response r he)
  rw [← hcallId] at hkey
  obtain rfl := Option.some.inj hkey
  refine .busy t.callId ⟨hs.role, hs.busy, ?_, hs.call, hs.answers, ?_, hretries⟩
  · refine ⟨rfl, hs.under.dialog, ?_, hs.under.serverTransaction, hs.under.invite⟩
    rintro _ ⟨⟩
    rfl
  · intro m hm
    have hown := SessionState.ownRequest_of_challengeable hstate
    exact ⟨t, rfl, hmethod.trans (Option.some.inj (hown.symm.trans hm))⟩

/-- An invitation is accepted in its own transaction and its own dialog. -/
lemma Busy.accepts (hs : s.Busy key) (hstate : s.state = .incomingCall) {invite : Request}
    (hinvite : s.invite = some invite) (answer : Octets) {d : Dialog}
    (hd : d.callId = invite.callId) :
    Shaped { s with
      dialog := some d,
      serverTransaction := some (s.serverTransaction.getD invite.serverTransaction),
      localDescription := some answer, state := .incomingCallAnswering } := by
  have hcallId := hs.under.invite invite hinvite
  have htransaction : (s.serverTransaction.getD invite.serverTransaction).callId = key := by
    cases ht : s.serverTransaction with
    | some t => exact hs.under.serverTransaction t ht
    | none => exact hcallId
  have hpeer := (hs.call (by rw [hstate]; rfl)).2
  refine .busy key ⟨hs.role, nofun, ?_, fun _ => ⟨⟨d, rfl⟩, hpeer⟩,
    fun _ => ⟨⟨invite, hinvite⟩, ⟨_, rfl⟩⟩, nofun, hs.retries⟩
  refine ⟨hs.under.own, ?_, hs.under.clientTransaction, ?_, hs.under.invite⟩
  · rintro _ ⟨⟩
    exact hd.trans hcallId
  · rintro _ ⟨⟩
    exact htransaction

/-- A change by the peer comes in the dialog of the call. -/
lemma Busy.acceptsChange (hs : s.Busy key) (hrecv : s.Receives e) (hstate : s.state = .inCall)
    {r : Request} (he : e = .request r) {d : Dialog} (hd : d.callId = r.callId) :
    Shaped { s.capturing r.body with
      dialog := some d, invite := some r, serverTransaction := some r.serverTransaction,
      state := .inCallAnswering } := by
  have hkey := hs.under.own.symm.trans (hrecv.request r he)
  obtain rfl := Option.some.inj hkey
  have hsame := SameHandles.of_capturing s r.body
  have hunder := hsame.under hs.under
  have hpeer := (hs.call (by rw [hstate]; rfl)).2
  have hretries : (s.capturing r.body).authRetries ≤ maxAuthRetries := by
    unfold capturing
    split <;> exact hs.retries
  refine .busy r.callId ⟨hsame.role.trans hs.role, nofun, ?_,
    fun _ => ⟨⟨d, rfl⟩, hsame.peer ▸ hpeer⟩, fun _ => ⟨⟨r, rfl⟩, ⟨_, rfl⟩⟩, nofun, hretries⟩
  refine ⟨hunder.own, ?_, hunder.clientTransaction, ?_, ?_⟩
  · rintro _ ⟨⟩
    exact hd
  · rintro _ ⟨⟩
    rfl
  · rintro _ ⟨⟩
    rfl

lemma Busy.changeConfirmed (hs : s.Busy key) (hstate : s.state = .inCallAnswering)
    (body : Octets) : Shaped { s.capturing body with invite := none, state := .inCall } := by
  have hsame := SameHandles.of_capturing s body
  have hunder := hsame.under hs.under
  have hcall := hs.call (by rw [hstate]; rfl)
  have hretries : (s.capturing body).authRetries ≤ maxAuthRetries := by
    unfold capturing
    split <;> exact hs.retries
  rw [← hsame.dialog, ← hsame.peer] at hcall
  refine .busy key ⟨hsame.role.trans hs.role, nofun, ?_, fun _ => hcall, nofun, nofun,
    hretries⟩
  exact ⟨hunder.own, hunder.dialog, hunder.clientTransaction, hunder.serverTransaction, nofun⟩

/-- A change is sent in the dialog of the call. -/
lemma Busy.startsChange (hs : s.Busy key) (hstate : s.state = .inCall) {dialog : Dialog}
    (hdialog : s.dialog = some dialog) (offer : Octets) {t : ClientTransaction}
    (hmethod : t.method = .invite) (hcallId : t.callId = dialog.callId) :
    Shaped { s with
      clientTransaction := some t, authRetries := 0, localDescription := some offer,
      state := .inCallChanging } := by
  have hcall := hs.call (by rw [hstate]; rfl)
  refine .busy key ⟨hs.role, nofun, ?_, fun _ => hcall, nofun, ?_, Nat.zero_le _⟩
  · refine ⟨hs.under.own, hs.under.dialog, ?_, hs.under.serverTransaction, hs.under.invite⟩
    rintro _ ⟨⟩
    exact hcallId.trans (hs.under.dialog dialog hdialog)
  · rintro _ ⟨⟩
    exact ⟨t, rfl, hmethod⟩

/-- No reaction of a busy session breaks its shape. -/
lemma Reaction.shaped_of_busy {o : Outcome} (h : Reaction Recorder.promise profile s e o)
    (hs : s.Busy key) (hrecv : s.Receives e) : o.session.Shaped := by
  cases h with
  | refused | consumed => exact .busy key hs
  | ended => exact .of_cleared hs.role
  | registers expiry next tag t hstate | calls callee offer tag t d hstate =>
    exact absurd hstate hs.busy
  | challenged r t hstate he hr hretries ht =>
    exact hs.challenged hrecv he hstate hretries ht.1 ht.2
  | alerted r hstate =>
    exact hs.entering nofun (by rw [hstate]; rfl) rfl (by rw [hstate]; exact fun _ h => h)
  | answered r hstate =>
    refine hs.established ⟨rfl, rfl, rfl, rfl, rfl, rfl, rfl⟩ ?_
    rcases hstate with hstate | hstate <;> rw [hstate] <;> rfl
  | cancelsCall hstate =>
    refine hs.entering nofun ?_ rfl ?_
    · rcases hstate with hstate | hstate <;> rw [hstate] <;> rfl
    · rcases hstate with hstate | hstate <;> rw [hstate] <;> exact fun _ h => h
  | accepts invite answer tag d hstate hinvite he hd => exact hs.accepts hstate hinvite answer hd
  | confirmed r hstate =>
    exact hs.established (.of_capturing s r.body) (by rw [hstate]; rfl)
  | acceptsChange r tag d hstate he hm hd => exact hs.acceptsChange hrecv hstate he hd
  | changeConfirmed r hstate => exact hs.changeConfirmed hstate r.body
  | startsChange offer dialog t hstate hdialog he ht =>
    exact hs.startsChange hstate hdialog offer ht.1 ht.2
  | changed r hstate =>
    refine hs.established (.of_capturing s r.body) ?_
    rcases hstate with hstate | hstate <;> rw [hstate] <;> rfl
  | cancelsChange hstate =>
    exact hs.entering nofun (by rw [hstate]; rfl) rfl (by rw [hstate]; exact fun _ h => h)
  | keepsCall r hstate => exact hs.entering nofun (by rw [hstate]; rfl) rfl nofun

/-- No event breaks the shape of a session over a network that answers as a recorder does. -/
theorem Shaped.process {σ : Type} [Transport σ] (hR : Recorder.promise.KeptBy σ) (hs : s.Shaped)
    (hrecv : s.Receives e) (profile : Profile) (fresh : SessionId) (net : σ) :
    (s.process profile fresh e net).1.session.Shaped := by
  have hrole : s.role = .dialog := by
    cases hs with
    | idle id => rfl
    | busy key h => exact h.role
  rcases reaction_process hR profile fresh hrole e net with h | ⟨cause, h⟩
  · have hrecv' : (s.attaching e).Receives e :=
      ⟨by simpa using hrecv.request, by simpa using hrecv.response, by simpa using hrecv.dialog⟩
    generalize (s.process profile fresh e net).1 = o at h ⊢
    have hattached := hs.attaching hrecv
    generalize s.attaching e = s' at h hrecv' hattached
    cases hattached with
    | idle id => exact h.shaped_of_idle
    | busy key hb => exact h.shaped_of_busy hb hrecv'
  · rw [h]
    exact .of_cleared hrole

/-- A session that takes an invitation in over a recorder. -/
lemma shaped_takingIn (fresh : SessionId) {r : Request} (tag : Tag) {t : ServerTransaction}
    (ht : t = r.serverTransaction) (hr : ∀ d, r.dialog = some d → d.callId = r.callId) :
    (takingIn fresh r tag t).Shaped := by
  subst ht
  have hsame := SameHandles.of_capturing (idle fresh .dialog) r.body
  have hretries : (takingIn fresh r tag r.serverTransaction).authRetries ≤ maxAuthRetries := by
    unfold takingIn capturing
    split <;> exact Nat.zero_le _
  refine .busy r.callId ⟨takingIn_role _ _ _ _, nofun, ⟨rfl, ?_, ?_, ?_, ?_⟩,
    fun _ => ⟨⟨_, rfl⟩, ⟨_, rfl⟩⟩, fun _ => ⟨⟨_, rfl⟩, ⟨_, rfl⟩⟩, nofun, hretries⟩
  · rintro _ ⟨⟩
    cases hd : r.dialog with
    | some d => exact hr d hd
    | none => rfl
  · intro t ht
    have hnone : (takingIn fresh r tag r.serverTransaction).clientTransaction = none :=
      hsame.clientTransaction
    rw [hnone] at ht
    cases ht
  · rintro _ ⟨⟩
    rfl
  · rintro _ ⟨⟩
    rfl

end Session

end SipAgent
