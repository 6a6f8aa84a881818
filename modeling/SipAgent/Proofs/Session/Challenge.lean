import SipAgent.Proofs.Session.Process
import SipAgent.Transport.Recorder

/-!
# How sessions answer challenges

The password of the user goes out only in reply to a challenge, and how often is bounded: the theorem
`challenge_discipline` says so of the whole life of a session, over any network and whatever happens
between two challenges. It compares the counter of the session, which rules set, raise and leave
alone, with the calls that the session has made: `retries` reads from the calls alone how often
credentials were sent since the last new request, and `Paced` says that this is what the counter
says whenever a challenge could still be answered.
-/

namespace SipAgent

/-- The command sends a new request of the own. -/
def Command.opens : Command → Bool
  | .register .. | .invite .. | .reinvite .. => true
  | _ => false

/-- The command sends credentials. -/
def Command.authenticates : Command → Bool
  | .authenticate .. => true
  | _ => false

/-- The call has sent a new request of the own. -/
def Call.opens (call : Call) : Bool :=
  call.command.opens && call.refused.isNone

namespace Session

variable {σ : Type} {profile : Profile} {s : Session} {e : SessionEvent} {calls : List Call}

/-! ### Counting calls -/

/-- How often credentials were sent since the last new request. -/
def retries (calls : List Call) : Nat :=
  calls.foldl
    (fun n call => if call.opens then 0 else if call.command.authenticates then n + 1 else n) 0

@[simp] lemma retries_nil : retries [] = 0 := rfl

lemma retries_append_singleton (calls : List Call) (call : Call) :
    retries (calls ++ [call]) =
      if call.opens then 0 else if call.command.authenticates then retries calls + 1
        else retries calls := by
  simp [retries]

@[simp] lemma retries_append_authenticate (calls : List Call) (r : Response) (c : Credentials)
    (refused : Option TransportError) :
    retries (calls ++ [⟨.authenticate r c, refused⟩]) = retries calls + 1 := by
  simp [retries_append_singleton, Call.opens, Command.opens, Command.authenticates]

/-- As long as there is no new request, every sending of credentials counts. -/
lemma retries_append (calls : List Call) {more : List Call} (h : ∀ call ∈ more, ¬ call.opens) :
    retries (calls ++ more) = retries calls + more.countP (·.command.authenticates) := by
  induction more generalizing calls with
  | nil => simp
  | cons call more ih =>
    have hcall : call.opens = false := by simpa using h call (by simp)
    rw [List.append_cons, ih _ fun other hother => h other (by simp [hother]),
      retries_append_singleton, List.countP_cons, hcall, if_neg Bool.false_ne_true]
    split <;> omega

/-- The command neither sends a new request nor credentials. -/
def Quiet (c : Command) : Prop :=
  c.opens = false ∧ c.authenticates = false

lemma not_opens_of_quiet {call : Call} (h : Quiet call.command) : ¬ call.opens := by
  simp [Call.opens, h.1]

lemma retries_append_of_quiet (h : ∀ call ∈ calls, Quiet call.command) (earlier : List Call) :
    retries (earlier ++ calls) = retries earlier := by
  rw [retries_append earlier fun call hcall => not_opens_of_quiet (h call hcall)]
  have hnone : calls.countP (·.command.authenticates) = 0 := by
    rw [List.countP_eq_zero]
    intro call hcall
    simp [(h call hcall).2]
  omega

/-! ### One step -/

/-- Afterwards no challenge is answered any more, or the counter stands where it stood. -/
def Stays (s : Session) : Except TransportError Outcome → Prop
  | .ok o => o.session.state.challengeable = none ∨
      s.state.challengeable ≠ none ∧ o.session.authRetries = s.authRetries
  | .error _ => True

/-- What a step does to the counter, and what it asks of the network meanwhile. -/
inductive Pacing (profile : Profile) (s : Session) (e : SessionEvent) :
    Except TransportError Outcome → List Call → Prop where
  | quiet {result : Except TransportError Outcome} {calls : List Call}
      (hcalls : ∀ call ∈ calls, Quiet call.command) (h : s.Stays result) :
      Pacing profile s e result calls
  | opened {c : Command} {o : Outcome} (hc : c.opens) (ho : o.session.authRetries = 0) :
      Pacing profile s e (.ok o) [⟨c, none⟩]
  | notOpened {c : Command} (cause : TransportError) (hc : c.opens) :
      Pacing profile s e (.error cause) [⟨c, some cause⟩]
  | challenged (r : Response) {o : Outcome} (hs : s.state.challengeable = some r.method)
      (he : e = .response r) (hr : isChallenge r.status) (hretries : s.authRetries < maxAuthRetries)
      (hrealm : foreignRealm? profile r = none) (ho : o.session.authRetries = s.authRetries + 1) :
      Pacing profile s e (.ok o) [⟨.authenticate r profile.credentials, none⟩]
  | notChallenged (r : Response) (cause : TransportError)
      (hs : s.state.challengeable = some r.method) (he : e = .response r)
      (hr : isChallenge r.status) (hretries : s.authRetries < maxAuthRetries)
      (hrealm : foreignRealm? profile r = none) :
      Pacing profile s e (.error cause) [⟨.authenticate r profile.credentials, some cause⟩]

lemma stays_same {o : Outcome} (hsession : o.session = s) : s.Stays (.ok o) := by
  by_cases hs : s.state.challengeable = none
  · exact .inl (hsession ▸ hs)
  · exact .inr ⟨hs, by rw [hsession]⟩

lemma Silent.stays {o : Outcome} (h : s.Silent profile e o) : s.Stays (.ok o) := by
  cases h with
  | refused | consumed => exact stays_same rfl
  | ended => exact .inl rfl
  | registers _ _ _ _ _ _ _ h | calls _ _ _ _ _ _ _ h | challenged _ _ _ _ _ _ h
  | accepts _ _ _ _ _ _ _ h | acceptsChange _ _ _ _ _ _ h | startsChange _ _ _ _ _ _ h =>
    exact h.elim
  | alerted r hs => exact .inr ⟨by rw [hs]; decide, rfl⟩
  | answered | cancelsCall | confirmed | changeConfirmed | changed | cancelsChange | keepsCall =>
    exact .inl rfl

section Runs

variable [Transport σ] {script : Script Outcome}

lemma pacing_of_quiet (hgives : script.Gives .nothing Quiet Quiet)
    (hstays : script.Meets .nothing s.Stays) (net : σ) :
    Pacing profile s e (script.run net).1 (script.calls net) :=
  .quiet (hgives.calls (Promise.nothing_keptBy σ) net) (hstays.run (Promise.nothing_keptBy σ) net)

/-- A script of one command goes as its replies and its refusals do. -/
lemma pacing_of_send {c : Command} {next : c.Reply → Outcome}
    (hok : ∀ reply, Pacing profile s e (.ok (next reply)) [⟨c, none⟩])
    (hrefused : ∀ cause, Pacing profile s e (.error cause) [⟨c, some cause⟩]) (net : σ) :
    let script := Script.send c fun reply => .done (next reply)
    Pacing profile s e (script.run net).1 (script.calls net) := by
  intro script
  rcases hresult : Transport.perform c net with ⟨cause | reply, net'⟩
  · simp only [script, Script.run, Script.calls, hresult]
    exact hrefused cause
  · simp only [script, Script.run, Script.calls, hresult]
    exact hok reply

lemma pacing_of_opening {c : Command} {next : c.Reply → Outcome} (hc : c.opens)
    (ho : ∀ reply, (next reply).session.authRetries = 0) (net : σ) :
    let script := Script.send c fun reply => .done (next reply)
    Pacing profile s e (script.run net).1 (script.calls net) :=
  pacing_of_send (fun reply => .opened hc (ho reply)) (fun cause => .notOpened cause hc) net

lemma pacing_authenticate {r : Response} (hs : s.state.challengeable = some r.method)
    (he : e = .response r) (hr : isChallenge r.status) (net : σ) :
    Pacing profile s e ((s.authenticate profile r).run net).1
      ((s.authenticate profile r).calls net) := by
  unfold authenticate
  split
  · exact .quiet (by simp) (.inl rfl)
  · next hretries =>
    have hless := Nat.lt_of_not_le hretries
    split
    · exact .quiet (by simp) (.inl rfl)
    · next hrealm =>
      refine pacing_of_send (fun t => ?_) (fun cause => ?_) net
      · exact .challenged r hs he hr hless hrealm rfl
      · exact .notChallenged r cause hs he hr hless hrealm

lemma pacing_respond {o : Outcome} (h : s.Stays (.ok o)) (r : Request) (status : UInt16)
    (net : σ) :
    let script := respond r status (.done o)
    Pacing profile s e (script.run net).1 (script.calls net) := by
  refine pacing_of_quiet ?_ ?_ net
  · exact ⟨⟨rfl, rfl⟩, fun _ _ => trivial⟩
  · exact meets_respond (fun _ => trivial) (by exact h) r status

/-- Every plan treats the counter as the list says. -/
lemma Plan.pacing (h : Plan profile s e script) (net : σ) :
    Pacing profile s e (script.run net).1 (script.calls net) := by
  have hquiet : ∀ c : Command, c.opens = false → c.authenticates = false → Quiet c :=
    fun _ => And.intro
  cases h with
  | refuses => exact .quiet (by simp) (stays_same rfl)
  | still _ _ h => exact .quiet (by simp) h.stays
  | settles r status =>
    have hsame : s.Stays (.ok s.consumed) := stays_same rfl
    exact pacing_respond hsame r status net
  | byes r => exact pacing_respond (.inl rfl) r 200 net
  | rejects invite => exact pacing_respond (.inl rfl) invite 486 net
  | withdraws r invite =>
    refine pacing_of_quiet ?_ ?_ net
    · exact ⟨hquiet _ rfl rfl, fun _ _ => ⟨hquiet _ rfl rfl, fun _ _ => trivial⟩⟩
    · refine meets_respond (fun _ => trivial) ?_ r 200
      exact meets_respond (fun _ => trivial) (by exact .inl rfl) invite 487
  | accepts invite answer =>
    unfold acceptCall
    refine pacing_of_quiet ?_ ?_ net
    · refine gives_withLocalTag (fun tag => ?_) s
      exact ⟨hquiet _ rfl rfl, fun _ _ => trivial⟩
    · refine meets_withLocalTag (fun tag => ?_) s
      exact ⟨fun _ => trivial, fun _ _ => .inl rfl⟩
  | acceptsChange r =>
    unfold acceptChange
    refine pacing_of_quiet ?_ ?_ net
    · refine gives_withLocalTag (fun tag => ?_) s
      exact ⟨hquiet _ rfl rfl, fun _ _ => trivial⟩
    · refine meets_withLocalTag (fun tag => ?_) s
      exact ⟨fun _ => trivial, fun _ _ => .inl rfl⟩
  | registers => exact pacing_of_opening rfl (fun _ => rfl) _
  | calls => exact pacing_of_opening rfl (fun _ => rfl) _
  | startsChange offer hs he hscript =>
    unfold startChange at hscript
    split at hscript
    · cases hscript
    · cases hscript
      exact pacing_of_opening rfl (fun _ => rfl) net
  | challenged r hs he hr => exact pacing_authenticate hs he hr net
  | acknowledges r _ _ h =>
    refine pacing_of_quiet ?_ ?_ net
    · exact gives_acknowledge (by simp) s r fun d _ => hquiet _ rfl rfl
    · exact meets_acknowledge (fun _ => trivial) (by exact h.stays) s r
  | endsAnswered r _ _ h =>
    refine pacing_of_quiet ?_ ?_ net
    · refine gives_acknowledge ?_ s r fun d _ => hquiet _ rfl rfl
      exact gives_hangUp (by simp) s fun d _ => hquiet _ rfl rfl
    · refine meets_acknowledge (fun _ => trivial) ?_ s r
      exact meets_hangUp (fun _ => trivial) (by exact h.stays) s
  | hangsUp =>
    refine pacing_of_quiet ?_ ?_ net
    · exact gives_hangUp (by simp) s fun d _ => hquiet _ rfl rfl
    · exact meets_hangUp (fun _ => trivial) (by exact .inl rfl) s
  | cancels _ _ h =>
    refine pacing_of_quiet ?_ ?_ net
    · exact gives_cancelRequest (by simp) s fun t _ => hquiet _ rfl rfl
    · exact meets_cancelRequest (fun _ => trivial) (by exact h.stays) s
  | abandons _ _ h =>
    refine pacing_of_quiet ?_ ?_ net
    · exact gives_abandonDialog (by simp) s fun d _ => hquiet _ rfl rfl
    · exact meets_abandonDialog (by exact h.stays) s

end Runs

@[simp] lemma attaching_authRetries (s : Session) (e : SessionEvent) :
    (s.attaching e).authRetries = s.authRetries := by
  unfold attaching; split <;> rfl

/-- The dialog that an event carries has no part in this. -/
lemma Pacing.of_attaching {result : Except TransportError Outcome}
    (h : Pacing profile (s.attaching e) e result calls) : Pacing profile s e result calls := by
  cases h with
  | quiet hcalls h =>
    refine .quiet hcalls ?_
    cases result with
    | ok o => simpa [Stays] using h
    | error cause => trivial
  | opened hc ho => exact .opened hc ho
  | notOpened cause hc => exact .notOpened cause hc
  | challenged r hs he hr hretries hrealm ho =>
    rw [attaching_state] at hs
    rw [attaching_authRetries] at hretries ho
    exact .challenged r hs he hr hretries hrealm ho
  | notChallenged r cause hs he hr hretries hrealm =>
    rw [attaching_state] at hs
    rw [attaching_authRetries] at hretries
    exact .notChallenged r cause hs he hr hretries hrealm

/-- Receivers have no requests of their own. -/
lemma pacing_receiverScript [Transport σ] (s : Session) (fresh : SessionId) (e : SessionEvent)
    (net : σ) :
    Pacing profile s e ((s.receiverScript fresh e).run net).1
      ((s.receiverScript fresh e).calls net) := by
  have hsame : s.Stays (.ok s.consumed) := stays_same rfl
  unfold receiverScript
  split
  · next r =>
    split
    · refine pacing_of_quiet ?_ ?_ net
      · exact fun _ => ⟨⟨rfl, rfl⟩, fun _ _ => trivial⟩
      · exact fun _ => ⟨fun _ => trivial, fun _ _ => stays_same rfl⟩
    · exact pacing_respond hsame r 200 net
    · exact pacing_respond hsame r 481 net
    · exact pacing_respond hsame r 481 net
    · exact .quiet (by simp) (stays_same rfl)
    · exact .quiet (by simp) (stays_same rfl)
  · exact .quiet (by simp) (stays_same rfl)

lemma pacing_script [Transport σ] (profile : Profile) (fresh : SessionId) (s : Session)
    (e : SessionEvent) (net : σ) :
    Pacing profile s e ((s.script profile fresh e).run net).1
      ((s.script profile fresh e).calls net) := by
  unfold script
  split
  · exact ((plan_dialogScript profile s e).pacing net).of_attaching
  · exact pacing_receiverScript s fresh e net

/-! ### Whole lives -/

/-- The life of a session over networks of one kind, and the calls that it has made. Between two
events others may have used the network, so it may be in any state. -/
inductive Life (σ : Type) [Transport σ] (profile : Profile) : Session → List Call → Prop where
  | created (id : SessionId) (role : Role) : Life σ profile (.idle id role) []
  /-- A receiver took an invitation in. -/
  | spawned {receiver s : Session} (hr : receiver.role = .receiver) (fresh : SessionId)
      (e : SessionEvent) (net : σ)
      (hs : (receiver.process profile fresh e net).1.spawned = some s) : Life σ profile s []
  | step {s : Session} {calls : List Call} (h : Life σ profile s calls) (fresh : SessionId)
      (e : SessionEvent) (net : σ) :
      Life σ profile (s.process profile fresh e (⟨net, calls⟩ : Journal σ)).1.session
        (s.process profile fresh e (⟨net, calls⟩ : Journal σ)).2.calls

/-- The counter says how often credentials were sent for the current request, whenever a challenge
could still be answered, and never were they sent too often. -/
structure Paced (s : Session) (calls : List Call) : Prop where
  counted : s.state.challengeable ≠ none → retries calls = s.authRetries
  bounded : ∀ earlier, earlier <+: calls → retries earlier ≤ maxAuthRetries

lemma bounded_append {more : List Call}
    (h : ∀ earlier, earlier <+: calls → retries earlier ≤ maxAuthRetries)
    (hmore : ∀ part, part <+: more → retries (calls ++ part) ≤ maxAuthRetries) :
    ∀ earlier, earlier <+: calls ++ more → retries earlier ≤ maxAuthRetries := by
  intro earlier hearlier
  rcases List.prefix_or_prefix_of_prefix hearlier (List.prefix_append calls more) with hold | hnew
  · exact h earlier hold
  · obtain ⟨part, rfl⟩ := hnew
    exact hmore part ((List.prefix_append_right_inj calls).mp hearlier)

lemma bounded_append_singleton {call : Call}
    (h : ∀ earlier, earlier <+: calls → retries earlier ≤ maxAuthRetries)
    (hcall : retries (calls ++ [call]) ≤ maxAuthRetries) :
    ∀ earlier, earlier <+: calls ++ [call] → retries earlier ≤ maxAuthRetries := by
  intro earlier hearlier
  rcases List.prefix_concat_iff.mp hearlier with rfl | hold
  · exact hcall
  · exact h earlier hold

/-- One step keeps the counter and the calls together. -/
lemma Paced.step {result : Except TransportError Outcome} {more : List Call}
    (h : s.Paced calls) (hp : Pacing profile s e result more) :
    (s.conclusion e result).session.Paced (calls ++ more) := by
  -- a session that fails is idle, and no challenge is answered any more
  have hfailed : ∀ cause, (s.conclusion e (.error cause)).session.state.challengeable = none :=
    fun _ => rfl
  cases hp with
  | quiet hcalls hstays =>
    refine ⟨fun hs => ?_, bounded_append h.bounded fun part hpart => ?_⟩
    · rw [retries_append_of_quiet hcalls]
      cases result with
      | ok o =>
        rcases hstays with hnone | ⟨hsome, hcount⟩
        · exact absurd hnone hs
        · exact (h.counted hsome).trans hcount.symm
      | error cause => exact absurd (hfailed cause) hs
    · rw [retries_append_of_quiet fun call hcall => hcalls call (hpart.subset hcall)]
      exact h.bounded calls (List.prefix_refl calls)
  | @opened c o hc ho =>
    have hzero : retries (calls ++ [⟨c, none⟩]) = 0 := by
      rw [retries_append_singleton, if_pos (by simp [Call.opens, hc])]
    refine ⟨fun _ => hzero.trans ho.symm, bounded_append_singleton h.bounded ?_⟩
    rw [hzero]
    exact Nat.zero_le _
  | @notOpened c cause hc =>
    have hsame : retries (calls ++ [⟨c, some cause⟩]) = retries calls := by
      have hplain : c.authenticates = false := by cases c <;> first | rfl | cases hc
      rw [retries_append_singleton, if_neg (by simp [Call.opens]), if_neg (by simp [hplain])]
    refine ⟨fun hs => absurd (hfailed cause) hs, bounded_append_singleton h.bounded ?_⟩
    rw [hsame]
    exact h.bounded calls (List.prefix_refl calls)
  | @challenged r o hs he hr hretries hrealm ho =>
    have hnext : retries (calls ++ [⟨.authenticate r profile.credentials, none⟩]) =
        s.authRetries + 1 := by
      rw [retries_append_authenticate, h.counted (by rw [hs]; nofun)]
    refine ⟨fun _ => hnext.trans ho.symm, bounded_append_singleton h.bounded ?_⟩
    rw [hnext]
    exact hretries
  | notChallenged r cause hs he hr hretries hrealm =>
    have hnext : retries (calls ++ [⟨.authenticate r profile.credentials, some cause⟩]) =
        s.authRetries + 1 := by
      rw [retries_append_authenticate, h.counted (by rw [hs]; nofun)]
    refine ⟨fun hs => absurd (hfailed cause) hs, bounded_append_singleton h.bounded ?_⟩
    rw [hnext]
    exact hretries

lemma paced_nil (h : s.state.challengeable = none) : s.Paced [] where
  counted hs := absurd h hs
  bounded := by simp

/-- The counter and the calls go together in every life. -/
lemma Life.paced [Transport σ] (h : Life σ profile s calls) : s.Paced calls := by
  induction h with
  | created id role => exact paced_nil rfl
  | spawned hr fresh e net hs =>
    refine paced_nil ?_
    rcases intake_process (Promise.nothing_keptBy σ) profile fresh hr e net with hin | ⟨cause, hfail⟩
    · generalize (process profile fresh _ e net).1 = o at hin hs
      cases hin with
      | refused | consumed => cases hs
      | takesIn r tag t => cases hs; rfl
    · rw [hfail] at hs
      cases hs
  | step h fresh e net ih =>
    rw [process_journal]
    simp only [process_fst]
    exact ih.step (pacing_script profile fresh _ e net)

/-! ### The discipline -/

/-- The credentials of a step go out in reply to the challenge that makes it. -/
lemma Pacing.of_authenticate {result : Except TransportError Outcome}
    (h : Pacing profile s e result calls) {call : Call} (hcall : call ∈ calls) {r : Response}
    {c : Credentials} (hc : call.command = .authenticate r c) :
    e = .response r ∧ isChallenge r.status ∧ s.state.challengeable = some r.method ∧
      foreignRealm? profile r = none ∧ c = profile.credentials := by
  cases h with
  | quiet hcalls =>
    have hquiet := (hcalls call hcall).2
    rw [hc] at hquiet
    cases hquiet
  | opened hopens | notOpened cause hopens =>
    rw [List.mem_singleton] at hcall
    subst hcall
    subst hc
    cases hopens
  | challenged r' hs he hr _ hrealm | notChallenged r' _ hs he hr _ hrealm =>
    rw [List.mem_singleton] at hcall
    subst hcall
    cases hc
    exact ⟨he, hr, hs, hrealm, rfl⟩

lemma foreignRealm?_eq_none {r : Response} (h : foreignRealm? profile r = none) (realm : String)
    (hrealm : r.realm = some realm) :
    Text.sameAnyCase (Text.trim Text.isBlank realm.toList) profile.uri.host.toList := by
  simp only [foreignRealm?, hrealm] at h
  split at h
  · assumption
  · cases h

lemma challengeable_eq_some_iff {state : SessionState} {m : Method} :
    state.challengeable = some m ↔
      m = .register ∧ (state = .registering ∨ state = .deregistering) ∨
      m = .invite ∧ (state = .outgoingCall ∨ state = .outgoingCallRingBack ∨
        state = .inCallChanging) := by
  cases state <;> cases m <;> decide

lemma isChallenge_iff {status : UInt16} : isChallenge status ↔ status = 401 ∨ status = 407 := by
  simp [isChallenge]

/-- A challenge to the request under way is what the session is asked about. -/
lemma dialogScript_of_challenge {r : Response} (hs : s.state.challengeable = some r.method)
    (hr : isChallenge r.status) :
    s.dialogScript profile (.response r) =
      (s.attaching (.response r)).authenticate profile r := by
  have hfinal : isProvisional r.status = false ∧ isAlerting r.status = false ∧
      isSuccess r.status = false := by
    rcases isChallenge_iff.mp hr with hr | hr <;> rw [hr] <;> decide
  obtain ⟨hprovisional, halerting, hsuccess⟩ := hfinal
  rcases challengeable_eq_some_iff.mp hs with ⟨hm, hs | hs⟩ | ⟨hm, hs | hs | hs⟩ <;>
    simp [dialogScript, stateRule, hs, registeringRule, registrationResponse, outgoingCallRule,
      inviteResponse, inCallChangingRule, changeResponse, hm, hr, hprovisional, halerting, hsuccess]

/-- Receivers have no requests under way. -/
lemma Life.state_eq_ready [Transport σ] (h : Life σ profile s calls) (hr : s.role = .receiver) :
    s.state = .ready := by
  induction h with
  | created id role => rfl
  | @spawned receiver s hreceiver fresh e net hs =>
    rcases intake_process (Promise.nothing_keptBy σ) profile fresh hreceiver e net with
      hin | ⟨cause, hfail⟩
    · generalize (process profile fresh receiver e net).1 = o at hin hs
      cases hin with
      | refused | consumed => cases hs
      | takesIn r tag t => cases hs; simp at hr
    · rw [hfail] at hs
      cases hs
  | @step s calls h fresh e net ih =>
    rw [process_journal] at hr ⊢
    cases hrole : s.role with
    | dialog =>
      have hdialog := (process_session profile fresh hrole e net).2.1
      simp only at hr
      rw [hdialog] at hr
      cases hr
    | receiver =>
      simp only
      rcases intake_process (Promise.nothing_keptBy σ) profile fresh hrole e net with
        hin | ⟨cause, hfail⟩
      · generalize (process profile fresh s e net).1 = o at hin
        cases hin with
        | refused | consumed | takesIn => exact ih hrole
      · rw [hfail]
        rfl

/-- A challenge that has been answered often enough makes the session idle. -/
lemma process_of_exhausted [Transport σ] (hrole : s.role = .dialog) {r : Response}
    (hs : s.state.challengeable = some r.method) (hr : isChallenge r.status)
    (hretries : maxAuthRetries ≤ s.authRetries) (fresh : SessionId) (net : σ) :
    (s.process profile fresh (.response r) net).1 =
        (s.attaching (.response r)).failed .invalidCredentials "incorrect username or password" ∧
      (s.script profile fresh (.response r)).calls net = [] := by
  have hscript : s.script profile fresh (.response r) =
      .done ((s.attaching (.response r)).failed .invalidCredentials
        "incorrect username or password") := by
    rw [script_of_dialog hrole, dialogScript_of_challenge hs hr, authenticate, if_pos (by simpa using hretries)]
  rw [process_fst, hscript]
  exact ⟨rfl, rfl⟩

/-- In every life of a session, whatever the networks do:

- credentials go out only in reply to the response that comes in, if it is a challenge to the
  registration or the invitation under way and its realm, if it names one, is the own host; and they
  are those of the profile;
- between two new requests of the session, credentials go out at most twice;
- once they went out twice for a request, another challenge to it makes the session idle, and its
  listener is told once, that they are not valid; nothing is asked of the network. -/
theorem challenge_discipline [Transport σ] (h : Life σ profile s calls) (fresh : SessionId)
    (e : SessionEvent) (net : σ) :
    let after := s.process profile fresh e (⟨net, calls⟩ : Journal σ)
    (∃ new, after.2.calls = calls ++ new ∧
      ∀ call ∈ new, ∀ r c, call.command = .authenticate r c →
        e = .response r ∧ (r.status = 401 ∨ r.status = 407) ∧
        (r.method = .register ∧ (s.state = .registering ∨ s.state = .deregistering) ∨
          r.method = .invite ∧ (s.state = .outgoingCall ∨ s.state = .outgoingCallRingBack ∨
            s.state = .inCallChanging)) ∧
        (∀ realm, r.realm = some realm →
          Text.sameAnyCase (Text.trim Text.isBlank realm.toList) profile.uri.host.toList) ∧
        c = profile.credentials) ∧
    (∀ between, between <:+: after.2.calls → (∀ call ∈ between, ¬ call.opens) →
      between.countP (·.command.authenticates) ≤ 2) ∧
    ∀ r, e = .response r → (r.status = 401 ∨ r.status = 407) →
      s.state.challengeable = some r.method →
      (∃ since, since <:+ calls ∧ (∀ call ∈ since, ¬ call.opens) ∧
        2 ≤ since.countP (·.command.authenticates)) →
      after.1.session = idle s.id s.role ∧ after.2.calls = calls ∧
      after.1.reports = [⟨s.id, if s.state.isRegistration
        then .registrationFailed .invalidCredentials "incorrect username or password"
        else .error .invalidCredentials "incorrect username or password"⟩] := by
  intro after
  have hafter : after = _ := process_journal profile fresh s e net calls
  have hpacing := pacing_script profile fresh s e net
  refine ⟨⟨(s.script profile fresh e).calls net, by rw [hafter], ?_⟩, ?_, ?_⟩
  · intro call hcall r c hc
    obtain ⟨he, hr, hs, hrealm, rfl⟩ := hpacing.of_authenticate hcall hc
    exact ⟨he, isChallenge_iff.mp hr, challengeable_eq_some_iff.mp hs, foreignRealm?_eq_none hrealm,
      rfl⟩
  · rintro between ⟨earlier, later, hbetween⟩ hopens
    have hbounded := (Life.step h fresh e net).paced.bounded (earlier ++ between)
      ⟨later, hbetween⟩
    rw [retries_append earlier hopens, maxAuthRetries] at hbounded
    omega
  · rintro r rfl hr hs ⟨since, ⟨earlier, rfl⟩, hopens, htwice⟩
    have hcount := h.paced.counted (by rw [hs]; nofun)
    rw [retries_append earlier hopens] at hcount
    have hretries : maxAuthRetries ≤ s.authRetries := by
      unfold maxAuthRetries
      omega
    have hrole : s.role = .dialog := by
      cases hrole : s.role with
      | dialog => rfl
      | receiver => rw [h.state_eq_ready hrole] at hs; cases hs
    have hexhausted : (s.process profile fresh (.response r) net).1 = _ ∧
        (s.script profile fresh (.response r)).calls net = [] :=
      process_of_exhausted hrole hs (isChallenge_iff.mpr hr) hretries fresh net
    obtain ⟨hprocess, hcalls⟩ := hexhausted
    rw [hafter]
    simp only [hprocess, hcalls, List.append_nil, true_and]
    refine ⟨?_, ?_⟩
    · simp [failed, finished, cleared]
    · simp [failed, finished, failureNotice]

/-- A call that is challenged a third time. -/
theorem challenge_discipline_of_call :
    let profile := Profile.ofUri ⟨some "alice", "localhost", none⟩ ""
    let net := Recorder.ofHost "localhost"
    let challenge := Response.answering ⟨⟨"branch"⟩, .invite, ⟨"call"⟩⟩ 407 "Proxy"
    ∃ s calls, Life Recorder profile s calls ∧ s.state = .outgoingCall ∧
      calls.countP (·.command.authenticates) = 2 ∧
      let after := s.process profile 1 (.response challenge) (⟨net, calls⟩ : Journal Recorder)
      after.1.session = idle 0 .dialog ∧ after.2.calls = calls := by
  intro profile net challenge
  have created : Life Recorder profile (.idle 0 .dialog) [] := .created 0 .dialog
  have called := created.step 1 (.makeCall ⟨some "bob", "localhost", none⟩ []) net
  have once := called.step 1 (.response challenge) net
  have twice := once.step 1 (.response challenge) net
  refine ⟨_, _, twice, rfl, rfl, ?_⟩
  obtain ⟨-, -, hexhausted⟩ := challenge_discipline twice 1 (.response challenge) net
  obtain ⟨hsession, hcalls, -⟩ :=
    hexhausted challenge rfl (.inr rfl) rfl ⟨_, List.suffix_cons _ _, by decide, by decide⟩
  exact ⟨hsession, hcalls⟩

end Session

end SipAgent
