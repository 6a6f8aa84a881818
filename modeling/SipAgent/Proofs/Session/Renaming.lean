import SipAgent.Proofs.Session.Plan
import SipAgent.Proofs.Session.Within
import SipAgent.Proofs.Transport.Redrawing

/-!
# The same event at another time

What a session makes of an event depends on the moment only through the identifiers that the network
hands out: a recorder that refuses nothing, at another moment, leads to the same session with other
names in it, `Session.Renamed`. Most scripts draw nothing at all (`Plan.steady`); among those that
signals and registrations set off, an answer to a challenge and a registration draw, and so does a
receiver that takes a call in.
-/

lemma Option.Rel.weaken {α β : Type} {R R' : α → β → Prop} {x : Option α} {y : Option β}
    (h : Option.Rel R x y) (hR : ∀ a b, R a b → R' a b) : Option.Rel R' x y := by
  cases h with
  | some h => exact .some (hR _ _ h)
  | none => exact .none

lemma Option.Rel.turned {α β : Type} {R : α → β → Prop} {R' : β → α → Prop} {x : Option α}
    {y : Option β} (h : Option.Rel R x y) (hR : ∀ a b, R a b → R' b a) : Option.Rel R' y x := by
  cases h with
  | some h => exact .some (hR _ _ h)
  | none => exact .none

lemma Option.Rel.or {α β : Type} {R : α → β → Prop} {x x' : Option α} {y y' : Option β}
    (h : Option.Rel R x y) (h' : Option.Rel R x' y') : Option.Rel R (x.or x') (y.or y') := by
  cases h with
  | some h => exact .some h
  | none => exact h'

namespace SipAgent

/-- A dialog with another local tag. -/
structure Dialog.Renamed (pairs : IdSupply → IdSupply → Prop) (d d' : Dialog) : Prop where
  callId : d'.callId = d.callId
  localTag : IdSupply.Renames pairs IdSupply.tag d.localTag d'.localTag
  remoteTag : d'.remoteTag = d.remoteTag

/-- A session that has another number, and other names in what it holds. -/
structure Session.Renamed (pairs : IdSupply → IdSupply → Prop) (s s' : Session) : Prop where
  role : s'.role = s.role
  state : s'.state = s.state
  key : s'.key = s.key
  peer : s'.peer = s.peer
  dialog : Option.Rel (Dialog.Renamed pairs) s.dialog s'.dialog
  clientTransaction :
    Option.Rel (ClientTransaction.Renamed pairs) s.clientTransaction s'.clientTransaction
  serverTransaction : s'.serverTransaction = s.serverTransaction
  invite : s'.invite = s.invite
  peerDescription : s'.peerDescription = s.peerDescription
  localDescription : s'.localDescription = s.localDescription
  authRetries : s'.authRetries = s.authRetries

/-- The same outcome, but for the names in the session afterwards. -/
structure Outcome.Renamed (pairs : IdSupply → IdSupply → Prop) (o o' : Outcome) : Prop where
  session : o.session.Renamed pairs o'.session
  processed : o'.processed = o.processed
  reports : o'.reports = o.reports
  keyChanges : o'.keyChanges = o.keyChanges

section Renamed

variable {pairs pairs' : IdSupply → IdSupply → Prop}

lemma Dialog.Renamed.refl (pairs : IdSupply → IdSupply → Prop) (d : Dialog) : d.Renamed pairs d :=
  ⟨rfl, .inl rfl, rfl⟩

lemma Dialog.Renamed.mono {d d' : Dialog} (h : d.Renamed pairs d')
    (hpairs : ∀ u v, pairs u v → pairs' u v) : d.Renamed pairs' d' :=
  ⟨h.callId, h.localTag.mono hpairs, h.remoteTag⟩

lemma ClientTransaction.Renamed.refl (pairs : IdSupply → IdSupply → Prop) (t : ClientTransaction) :
    t.Renamed pairs t :=
  ⟨.inl rfl, rfl, rfl⟩

lemma ClientTransaction.Renamed.mono {t t' : ClientTransaction} (h : t.Renamed pairs t')
    (hpairs : ∀ u v, pairs u v → pairs' u v) : t.Renamed pairs' t' :=
  ⟨h.id.mono hpairs, h.method, h.callId⟩

lemma Session.Renamed.refl (pairs : IdSupply → IdSupply → Prop) (s : Session) :
    s.Renamed pairs s where
  role := rfl
  state := rfl
  key := rfl
  peer := rfl
  dialog := by cases s.dialog <;> constructor; exact .refl pairs _
  clientTransaction := by cases s.clientTransaction <;> constructor; exact .refl pairs _
  serverTransaction := rfl
  invite := rfl
  peerDescription := rfl
  localDescription := rfl
  authRetries := rfl

lemma Session.Renamed.mono {s s' : Session} (h : s.Renamed pairs s')
    (hpairs : ∀ u v, pairs u v → pairs' u v) : s.Renamed pairs' s' :=
  { h with
    dialog := h.dialog.weaken fun _ _ hd => hd.mono hpairs
    clientTransaction := h.clientTransaction.weaken fun _ _ ht => ht.mono hpairs }

lemma Session.Renamed.symm {s s' : Session} (h : s.Renamed pairs s')
    (hpairs : ∀ u v, pairs u v → pairs' v u) : s'.Renamed pairs' s where
  role := h.role.symm
  state := h.state.symm
  key := h.key.symm
  peer := h.peer.symm
  dialog := h.dialog.turned fun _ _ hd =>
    ⟨hd.callId.symm, hd.localTag.symm hpairs, hd.remoteTag.symm⟩
  clientTransaction := h.clientTransaction.turned fun _ _ ht =>
    ⟨ht.id.symm hpairs, ht.method.symm, ht.callId.symm⟩
  serverTransaction := h.serverTransaction.symm
  invite := h.invite.symm
  peerDescription := h.peerDescription.symm
  localDescription := h.localDescription.symm
  authRetries := h.authRetries.symm

lemma Outcome.Renamed.refl (pairs : IdSupply → IdSupply → Prop) (o : Outcome) : o.Renamed pairs o :=
  ⟨.refl pairs _, rfl, rfl, rfl⟩

end Renamed

namespace Session

variable {profile : Profile} {s s' : Session} {e : SessionEvent} {fresh fresh' id : SessionId}
  {r₀ r₀' r r' : Recorder} {draws : Nat}

/-! ### Scripts that draw nothing -/

section Steady

variable {α : Type} {next : Script α}

@[simp] lemma steady_done (value : α) : (Script.done value).Steady := trivial

lemma steady_respond (h : next.Steady) (r : Request) (status : UInt16) :
    (respond r status next).Steady :=
  ⟨rfl, fun _ => h⟩

lemma steady_acknowledge (h : next.Steady) (s : Session) (r : Response) :
    (s.acknowledge r next).Steady := by
  unfold acknowledge
  split
  · exact ⟨rfl, fun _ => h⟩
  · trivial

lemma steady_hangUp (h : next.Steady) (s : Session) : (s.hangUp next).Steady := by
  unfold hangUp
  split
  · exact ⟨rfl, fun _ => h⟩
  · exact h

lemma steady_abandonDialog (h : next.Steady) (s : Session) : (s.abandonDialog next).Steady := by
  unfold abandonDialog
  split
  · exact ⟨rfl, h⟩
  · exact h

end Steady

/-- A signal draws nothing, unless it is a challenge that is answered. -/
lemma Plan.steady {script : Script Outcome} (h : Plan profile s e script)
    (hcommand : e.isCommand = false) (hcall : s.state = .inCall → s.dialog.isSome) :
    script.Steady ∨ ∃ r, script = s.authenticate profile r := by
  cases h with
  | refuses | still => exact .inl trivial
  | settles r status => exact .inl (steady_respond (steady_done _) r status)
  | byes r => exact .inl (steady_respond (steady_done _) r 200)
  | withdraws r invite => exact .inl (steady_respond (steady_respond (steady_done _) invite 487) r 200)
  | acceptsChange r hs =>
    obtain ⟨d, hd⟩ := Option.isSome_iff_exists.mp (hcall hs)
    refine .inl ?_
    simp only [acceptChange, withLocalTag, hd]
    exact ⟨rfl, fun _ => trivial⟩
  | challenged r => exact .inr ⟨r, rfl⟩
  | acknowledges r => exact .inl (steady_acknowledge (steady_done _) s r)
  | endsAnswered r => exact .inl (steady_acknowledge (steady_hangUp (steady_done _) s) s r)
  | abandons => exact .inl (steady_abandonDialog (steady_done _) s)
  | rejects _ _ _ he | hangsUp _ _ he | cancels _ he | accepts _ _ _ _ he | calls _ _ _ he =>
    rw [he] at hcommand
    cases hcommand
  | registers _ _ _ he =>
    rw [isCommand_of_isRegistration he] at hcommand
    cases hcommand
  | startsChange _ _ he =>
    rcases he with rfl | ⟨_, rfl⟩ <;> cases hcommand

/-! ### What the commands that draw come to -/

section Runs

variable {σ : Type} [Transport σ] {net net' : σ} {t : ClientTransaction}

/-- A challenge is answered. -/
lemma run_authenticate {response : Response} (hretries : ¬maxAuthRetries ≤ s.authRetries)
    (hrealm : foreignRealm? profile response = none)
    (hreply : Transport.perform (.authenticate response profile.credentials) net = (.ok t, net')) :
    (authenticate profile s response).run net =
      (.ok
        { session :=
            { s.withKey t.callId with
              authRetries := s.authRetries + 1, clientTransaction := some t }
          processed := true
          reports := []
          keyChanges := s.rebound t.callId
          spawned := none }, net') := by
  rw [authenticate, if_neg hretries, hrealm]
  exact Script.run_send_of_perform hreply

/-- A registration is sent. -/
lemma run_startRegistration {expiry : UInt32} (next : SessionState)
    (hreply : Transport.perform (.register profile (Transport.freshTag net).1 expiry)
      (Transport.freshTag net).2 = (.ok t, net')) :
    (s.startRegistration profile expiry next).run net =
      (.ok
        { session :=
            { s.withKey t.callId with
              clientTransaction := some t, authRetries := 0, state := next }
          processed := true
          reports := [⟨s.id, .registering⟩]
          keyChanges := s.rebound t.callId
          spawned := none }, net') := by
  rw [startRegistration, Script.run_freshTag]
  exact Script.run_send_of_perform hreply

/-- A call is taken in. -/
lemma run_takeIn {m : Request} {reply : ServerTransaction}
    (hreply : Transport.perform (.ringing m (Transport.freshTag net).1) (Transport.freshTag net).2 =
      (.ok reply, net')) :
    (s.takeIn fresh m).run net =
      (.ok ⟨s, true, [⟨fresh, .ringing m.sender m.body⟩], [.bind fresh m.callId],
        some (takingIn fresh m (Transport.freshTag net).1 reply)⟩, net') := by
  rw [takeIn, Script.run_freshTag]
  exact Script.run_send_of_perform hreply

end Runs

/-! ### Two runs -/

/-- Two runs that were abreast lead to the same outcome with other names, and are abreast again. -/
def RunAlike (r₀ r₀' : Recorder) (draws : Nat) (run run' : Outcome × Recorder) : Prop :=
  ∃ draws', draws ≤ draws' ∧
    run.1.Renamed (IdSupply.Drawn r₀.supply r₀'.supply draws') run'.1 ∧
    Recorder.Abreast r₀ r₀' draws' run.2 run'.2

/-- A signal that comes to a session at another time. -/
theorem process_signal_alike (h : Recorder.Abreast r₀ r₀' draws r r') (profile : Profile)
    (fresh fresh' : SessionId) (hrole : s.role = .dialog) (hcommand : e.isCommand = false)
    (hcall : s.state = .inCall → s.dialog.isSome) :
    RunAlike r₀ r₀' draws (s.process profile fresh e r) (s.process profile fresh' e r') := by
  have hcall' : (s.attaching e).state = .inCall → (s.attaching e).dialog.isSome := by
    rw [attaching_state]
    intro hs
    unfold attaching
    split
    · rfl
    · exact hcall hs
  rw [RunAlike, process_fst, process_fst, process_snd, process_snd, script_of_dialog hrole,
    script_of_dialog hrole]
  rcases (plan_dialogScript profile s e).steady hcommand hcall' with hsteady | ⟨response, hscript⟩
  · obtain ⟨hsame, hnet⟩ := h.run hsteady
    rw [hsame]
    exact ⟨draws, Nat.le_refl _, .refl _ _, hnet⟩
  · rw [hscript]
    by_cases hretries : maxAuthRetries ≤ (s.attaching e).authRetries
    · rw [authenticate, if_pos hretries]
      exact ⟨draws, Nat.le_refl _, .refl _ _, h⟩
    cases hrealm : foreignRealm? profile response with
    | some realm =>
      rw [authenticate, if_neg hretries, hrealm]
      exact ⟨draws, Nat.le_refl _, .refl _ _, h⟩
    | none =>
      obtain ⟨t, t', ht, hkey, net, net', hnet, hreply, hreply'⟩ :=
        h.opens (.challenge response.callId profile.credentials.username) response.method
          response.callId
      change Transport.perform (.authenticate response profile.credentials) r = (.ok t, net) at hreply
      change Transport.perform (.authenticate response profile.credentials) r' = (.ok t', net')
        at hreply'
      rw [run_authenticate hretries hrealm hreply, run_authenticate hretries hrealm hreply']
      refine ⟨draws + 1, Nat.le_succ _, ⟨?_, rfl, rfl, ?_⟩, hnet⟩
      · have hsame := Session.Renamed.refl
          (IdSupply.Drawn r₀.supply r₀'.supply (draws + 1)) (s.attaching e)
        exact { hsame with
          key := congrArg some ht.callId
          clientTransaction := .some ht
          authRetries := rfl }
      · change (s.attaching e).rebound t'.callId = (s.attaching e).rebound t.callId
        rw [ht.callId]

/-- Sending a registration under the Call-ID that registrations share. -/
lemma startRegistration_alike (h : Recorder.Abreast r₀ r₀' draws r r') (profile : Profile)
    (hid : s'.id = s.id) (hs : s.Renamed (IdSupply.Drawn r₀.supply r₀'.supply draws) s') {key : CallId}
    (hregistrations : r.registrationCallId = some key) (expiry : UInt32) (next : SessionState) :
    ∃ o o' net net', (s.startRegistration profile expiry next).run r = (.ok o, net) ∧
      (s'.startRegistration profile expiry next).run r' = (.ok o', net') ∧
      o.Renamed (IdSupply.Drawn r₀.supply r₀'.supply (draws + 2)) o' ∧
      Recorder.Abreast r₀ r₀' (draws + 2) net net' := by
  obtain ⟨-, hdrawn⟩ := h.freshTag
  have hshared : r.drawTag.2.registrationCallId = some key :=
    (Recorder.Carries.drawTag key r).registrationCallId.trans hregistrations
  have hshared' := hdrawn.registrationCallId.trans hshared
  obtain ⟨t, t', ht, hkey, net, net', hnet, hreply, hreply'⟩ :=
    hdrawn.opens (.register key expiry) .register key
  have hsent : ∀ (net : Recorder) tag, net.registrationCallId = some key →
      Transport.perform (.register profile tag expiry) net =
        net.record (.register key expiry) fun r => r.openTransaction .register key := by
    intro net tag hnet
    change Recorder.perform (.register profile tag expiry) net = _
    simp only [Recorder.perform, Recorder.registrationId, hnet]
    rfl
  have hreply := (hsent _ r.drawTag.1 hshared).trans hreply
  have hreply' := (hsent _ r'.drawTag.1 hshared').trans hreply'
  refine ⟨_, _, net, net', run_startRegistration next hreply, run_startRegistration next hreply',
    ⟨?_, rfl, ?_, ?_⟩, hnet⟩
  · exact { hs.mono fun u v => IdSupply.Drawn.mono (Nat.le_add_right draws 2) with
      state := rfl
      key := congrArg some ht.callId
      clientTransaction := .some ht
      authRetries := rfl }
  · rw [hid]
  · rw [ht.callId, rebound, rebound, unbound, unbound, hs.key, hid]

/-- An order to register that is given to a session under other names. -/
theorem process_register_alike (h : Recorder.Abreast r₀ r₀' draws r r') (profile : Profile)
    (fresh fresh' : SessionId) (hrole : s.role = .dialog) (hid : s'.id = s.id)
    (hs : s.Renamed (IdSupply.Drawn r₀.supply r₀'.supply draws) s') {key : CallId}
    (hregistrations : r.registrationCallId = some key) (expiry : UInt32) :
    RunAlike r₀ r₀' draws (s.process profile fresh (.register expiry) r)
      (s'.process profile fresh' (.register expiry) r') := by
  have hrole' : s'.role = .dialog := hs.role.trans hrole
  rw [RunAlike, process_fst, process_fst, process_snd, process_snd]
  by_cases hready : s.state = .ready
  · have hscript : ∀ (t : Session) i, t.role = .dialog → t.state = .ready →
        t.script profile i (.register expiry) =
          t.startRegistration profile expiry .registering := by
      intro t i ht hstate
      refine script_of_rule profile i ht rfl ?_
      rw [stateRule, hstate]
      rfl
    obtain ⟨o, o', net, net', hrun, hrun', ho, hnet⟩ :=
      startRegistration_alike h profile hid hs hregistrations expiry .registering
    rw [hscript s fresh hrole hready, hscript s' fresh' hrole' (hs.state.trans hready), hrun, hrun']
    exact ⟨draws + 2, Nat.le_add_right draws 2, ho, hnet⟩
  · rw [script_of_declined profile fresh hrole hready rfl,
      script_of_declined profile fresh' hrole' (by rwa [hs.state]) rfl]
    exact ⟨draws, Nat.le_refl _, ⟨hs, rfl, rfl, rfl⟩, h⟩

/-! ### Receivers -/

lemma takingIn_renamed {pairs : IdSupply → IdSupply → Prop} {tag tag' : Tag}
    (htag : IdSupply.Renames pairs IdSupply.tag tag tag') (fresh fresh' : SessionId) (r : Request)
    (t : ServerTransaction) :
    (takingIn fresh r tag t).Renamed pairs (takingIn fresh' r tag' t) := by
  have hbody : ∀ id, ((idle id .dialog).capturing r.body).peerDescription =
      if r.body = [] then none else some r.body := by
    intro id
    unfold capturing
    split <;> rfl
  have hrest : ∀ id, ((idle id .dialog).capturing r.body).role = .dialog ∧
      ((idle id .dialog).capturing r.body).clientTransaction = none ∧
      ((idle id .dialog).capturing r.body).localDescription = none ∧
      ((idle id .dialog).capturing r.body).authRetries = 0 := by
    intro id
    unfold capturing
    split <;> exact ⟨rfl, rfl, rfl, rfl⟩
  obtain ⟨hrole, htransaction, hdescription, hretries⟩ := hrest fresh
  obtain ⟨hrole', htransaction', hdescription', hretries'⟩ := hrest fresh'
  refine ⟨hrole'.trans hrole.symm, rfl, rfl, rfl, .some ?_, ?_, rfl, rfl, ?_,
    hdescription'.trans hdescription.symm, hretries'.trans hretries.symm⟩
  · cases r.dialog with
    | none => exact ⟨rfl, htag, rfl⟩
    | some d => exact .refl pairs d
  · simp only [takingIn, htransaction, htransaction']
    exact .none
  · simp only [takingIn, hbody]

/-- A receiver takes an invitation in, or answers as anybody would. -/
lemma receiverScript_cases (id fresh fresh' : SessionId) (e : SessionEvent) :
    (∃ processed, ((idle id .receiver).receiverScript fresh e =
          .done ⟨idle id .receiver, processed, [], [], none⟩ ∨
        ∃ m status, (idle id .receiver).receiverScript fresh e =
          respond m status (.done ⟨idle id .receiver, processed, [], [], none⟩)) ∧
      (idle id .receiver).receiverScript fresh' e = (idle id .receiver).receiverScript fresh e) ∨
      ∃ m, e = .request m ∧
        ∀ fresh, (idle id .receiver).receiverScript fresh e = (idle id .receiver).takeIn fresh m := by
  cases e with
  | request m =>
    simp only [receiverScript]
    cases m.method with
    | invite => exact .inr ⟨m, rfl, fun _ => rfl⟩
    | options | cancel | bye => exact .inl ⟨true, .inr ⟨m, _, rfl⟩, rfl⟩
    | ack | register => exact .inl ⟨false, .inl rfl, rfl⟩
  | _ => exact .inl ⟨false, .inl rfl, rfl⟩

/-- Two receivers that get the same signal answer alike, or both take a call in. -/
theorem process_receiver_alike (h : Recorder.Abreast r₀ r₀' draws r r') (profile : Profile)
    (fresh fresh' id : SessionId) (e : SessionEvent) :
    let s := idle id .receiver
    let run := s.process profile fresh e r
    let run' := s.process profile fresh' e r'
    ∃ draws', draws ≤ draws' ∧ Recorder.Abreast r₀ r₀' draws' run.2 run'.2 ∧
      ((∃ processed, run.1 = ⟨s, processed, [], [], none⟩ ∧
        run'.1 = ⟨s, processed, [], [], none⟩) ∨
      ∃ (m : Request) (tag tag' : Tag), e = .request m ∧
        IdSupply.Renames (IdSupply.Drawn r₀.supply r₀'.supply draws') IdSupply.tag tag tag' ∧
        run.1 = ⟨s, true, [⟨fresh, .ringing m.sender m.body⟩], [.bind fresh m.callId],
          some (takingIn fresh m tag m.serverTransaction)⟩ ∧
        run'.1 = ⟨s, true, [⟨fresh', .ringing m.sender m.body⟩], [.bind fresh' m.callId],
          some (takingIn fresh' m tag' m.serverTransaction)⟩) := by
  intro s run run'
  have hscript : ∀ fresh, s.script profile fresh e = s.receiverScript fresh e := fun _ => rfl
  simp only [run, run', process_fst, process_snd, hscript]
  rcases receiverScript_cases id fresh fresh' e with
    ⟨processed, hanswers, hsame⟩ | ⟨m, he, hscript⟩
  · change s.receiverScript fresh' e = s.receiverScript fresh e at hsame
    rw [hsame]
    rcases hanswers with hdone | ⟨m, status, hresponds⟩
    · change s.receiverScript fresh e = _ at hdone
      rw [hdone]
      exact ⟨draws, Nat.le_refl _, h, .inl ⟨processed, rfl, rfl⟩⟩
    · change s.receiverScript fresh e = _ at hresponds
      obtain ⟨reply, net, net', hnet, hreply, hreply'⟩ := h.perform (c := .respond m status) rfl
      rw [hresponds, respond, Script.run_send_of_perform hreply, Script.run_send_of_perform hreply']
      exact ⟨draws, Nat.le_refl _, hnet, .inl ⟨processed, rfl, rfl⟩⟩
  · change ∀ fresh, s.receiverScript fresh e = s.takeIn fresh m at hscript
    obtain ⟨htag, hdrawn⟩ := h.freshTag
    rw [hscript, hscript, run_takeIn (hdrawn.works.perform_ringing m _),
      run_takeIn (hdrawn.works'.perform_ringing m _)]
    exact ⟨draws + 1, Nat.le_succ _, hdrawn.recording _,
      .inr ⟨m, r.drawTag.1, r'.drawTag.1, he, htag, rfl, rfl⟩⟩

end Session

end SipAgent
