import SipAgent.Proofs.Supervisor.Belief

/-!
# Beliefs that echo what has been told

While notices are on their way, the beliefs of a supervisor run ahead of what its listener has been
told. `Group.Echoes` says what may be on its way then, and every operation of the group leads from
one of the ways in which a supervisor can stand to another.
-/

namespace SipAgent

namespace Group

variable {σ : Type} {g g₁ g' : Group σ} {id : SessionId} {n : Notice} {e : SessionEvent}
  {notices ds before after waiting : List Delivery} {d : Delivery} {last : Option Notice}

/-! ### Notices on their way -/

/-- A notice that the supervisor has yet to be told, and how its session stands. -/
inductive Due (g : Group σ) : Notice → Prop
  | sent (hup : g.connected = true) (hasking : g.Asking) : Due g .registering
  | ended {n : Notice} (hn : n.isRegistration = true) (hne : n ≠ .registering) (hrest : g.AtRest)
      (hdown : g.connected = false →
        ∃ message, n = .registrationFailed .dataConnectionLost message) : Due g n

lemma Due.congr (h : Due g n) (hg' : SameBeliefs g g') : Due g' n := by
  cases h with
  | sent hup hasking => exact .sent (hg'.connected.trans hup) (hg'.asking hasking)
  | ended hn hne hrest hdown =>
    exact .ended hn hne (hg'.atRest hrest) fun hoff => hdown (hg'.connected.symm.trans hoff)

lemma Due.isRegistration (h : Due g n) : n.isRegistration = true := by
  cases h with
  | sent => rfl
  | ended hn => exact hn

/-- Once everything has been handed over, what the supervisor believes agrees with what listeners
have been told last. -/
inductive Echoes (g : Group σ) (notices : List Delivery) (last : Option Notice) : Prop
  /-- Only listeners have yet to be told something. -/
  | settled (hmail : g.mail notices = []) (h : g.Believes (g.remembered notices last))
  /-- The supervisor has yet to be told something, and that is the last thing about its session. -/
  | due {id : SessionId} {n : Notice} {before after : List Delivery}
      (hrunning : g.supervisor.running = true) (hid : g.supervisor.session = some id)
      (hnotices : notices = before ++ ⟨.supervisor, id, n⟩ :: after) (hbefore : g.mail before = [])
      (hafter : ∀ d ∈ after, g.supervisor.session ≠ some d.session)
      (herror : g.supervisor.lastError = none) (hdue : g.Due n)

namespace Echoes

lemma believes (h : Echoes g [] last) : Believes g last := by
  cases h with
  | settled _ h => exact h
  | due _ _ hnotices => simp at hnotices

lemma congr (h : Echoes g notices last) (hg' : SameBeliefs g g') : Echoes g' notices last := by
  have hmails := hg'.mail_eq
  cases h with
  | settled hmail h =>
    refine .settled ((hmails _).trans hmail) ?_
    rw [hg'.remembered_eq]
    exact h.congr hg'
  | due hrunning hid hnotices hbefore hafter herror hdue =>
    refine .due (hg'.running.trans hrunning) (hg'.session.trans hid) hnotices
      ((hmails _).trans hbefore) ?_ (hg'.lastError.trans herror) (hdue.congr hg')
    rw [hg'.session]
    exact hafter

/-- Whatever is said about other sessions does not matter. -/
lemma silent (h : Believes g last) (hds : ∀ d ∈ ds, g.supervisor.session ≠ some d.session) :
    Echoes g ds last := by
  refine .settled (mail_eq_nil fun d hd _ => hds d hd) ?_
  rw [remembered_of_silent hds]
  exact h

/-- A listener is told of the session what the supervisor believes. -/
lemma relayed (h : Believes g (some n)) (hup : g.connected = true)
    (hid : g.supervisor.session = some id) (hn : n.isRegistration = true)
    (hwaiting : ∀ d ∈ waiting, g.supervisor.session ≠ some d.session) (l : Listener) :
    Echoes g (⟨.listener l, id, n⟩ :: waiting) last := by
  refine .settled ?_ ?_
  · rw [mail_cons_listener]
    exact mail_eq_nil fun d hd _ => hwaiting d hd
  · rw [remembered_told hup hid hn hwaiting]
    exact h

/-- While the data connection is down, it does not matter what listeners are told. -/
lemma adrift (hrunning : g.supervisor.running = true) (hdown : g.connected = false)
    (hregistered : g.supervisor.registered = false) (hmail : g.mail ds = [])
    (hpoised : g.Poised last) : Echoes g ds last := by
  refine .settled hmail (.offline hrunning hdown hregistered ?_)
  rw [remembered_of_offline hdown]
  exact hpoised

/-- A notice that the supervisor makes nothing of may be handed over. -/
lemma drop (h : Echoes g (d :: waiting) last)
    (hd : ¬ (d.addressee = .supervisor ∧ g.supervisor.session = some d.session)) :
    Echoes g waiting (g.remember d last) := by
  have hmail := mail_cons_of_not_supervised hd
  cases h with
  | settled hnone h => exact .settled ((hmail _).symm.trans hnone) h
  | @due id n before after hrunning hid hnotices hbefore hafter herror hdue =>
    cases before with
    -- The notice that is due is not the first one, which the supervisor would make something of.
    | nil =>
      rw [List.nil_append, List.cons.injEq] at hnotices
      rw [hnotices.1] at hd
      exact absurd ⟨rfl, hid⟩ hd
    | cons first before =>
      rw [List.cons_append, List.cons.injEq] at hnotices
      obtain ⟨rfl, hwaiting⟩ := hnotices
      exact .due hrunning hid hwaiting ((hmail _).symm.trans hbefore) hafter herror hdue

variable [Transport σ]

/-! ### Asking -/

/-- A session that says nothing goes on waiting for the registrar. -/
lemma waits (hrunning : g.supervisor.running = true) (hup : g.connected = true)
    (hid : g.supervisor.session = some id) (hregistered : g.supervisor.registered = false)
    (herror : g.supervisor.lastError = none) (hlast : ∀ n, last = some n → n = .registering)
    (hbusy : ((g.dispatch id e).group.stateOf id).isRegistration = true)
    (hds : (g.dispatch id e).deliveries = []) :
    Echoes (g.dispatch id e).group (g.dispatch id e).deliveries last := by
  have hsupervisor := supervisor_dispatch g id e
  rw [hds]
  exact .settled rfl <|
    .asking ((congrArg (·.running) hsupervisor).trans hrunning)
      ((connected_dispatch g id e).trans hup)
      ⟨id, (congrArg (·.session) hsupervisor).trans hid, hbusy⟩
      ((congrArg (·.registered) hsupervisor).trans hregistered)
      ((congrArg (·.lastError) hsupervisor).trans herror) hlast

/-- What the session says is what the supervisor has yet to be told. -/
lemma tells (hrunning : g.supervisor.running = true) (hid : g.supervisor.session = some id)
    (herror : g.supervisor.lastError = none) (hbefore : g.mail before = [])
    (hafter : ∀ d ∈ after, g.supervisor.session ≠ some d.session)
    (hds : (g.dispatch id e).deliveries = [⟨.supervisor, id, n⟩])
    (hdue : (g.dispatch id e).group.Due n) :
    Echoes (g.dispatch id e).group (before ++ (g.dispatch id e).deliveries ++ after) last := by
  have hsupervisor := supervisor_dispatch g id e
  have hnotices : before ++ (g.dispatch id e).deliveries ++ after =
      before ++ ⟨.supervisor, id, n⟩ :: after := by
    rw [hds, List.append_assoc]
    rfl
  refine .due ((congrArg (·.running) hsupervisor).trans hrunning)
    ((congrArg (·.session) hsupervisor).trans hid) hnotices ?_ ?_
    ((congrArg (·.lastError) hsupervisor).trans herror) hdue
  · rw [mail_congr (congrArg Supervisor.session hsupervisor)]
    exact hbefore
  · rw [hsupervisor]
    exact hafter

/-- A supervisor whose session is idle asks, and is told at once that it is on its way, or that it
could not ask. -/
lemma of_asked (hg : Sound g) (hattended : Attended g) (hrunning : g.supervisor.running = true)
    (hup : g.connected = true) (hid : g.supervisor.session = some id) (hrest : g.AtRest)
    (herror : g.supervisor.lastError = none) (he : e.isRegistration = true)
    (hbefore : g.mail before = [])
    (hafter : ∀ d ∈ after, g.supervisor.session ≠ some d.session) :
    Echoes (g.dispatch id e).group (before ++ (g.dispatch id e).deliveries ++ after) last := by
  obtain ⟨told, hexchange, hds⟩ := hattended.exchange hg hrunning hid fun _ => he
  have hsetup := SameSetup.dispatch g id e
  have hup' := hsetup.connected.trans hup
  have hid' := hsetup.supervised.trans hid
  rw [hrest.stateOf_eq hid] at hexchange
  rcases hexchange.of_asked_idle he with ⟨rfl, hbusy⟩ | ⟨hidle, code, message, rfl⟩
  · exact tells hrunning hid herror hbefore hafter hds (.sent hup' ⟨id, hid', hbusy⟩)
  · refine tells hrunning hid herror hbefore hafter hds (.ended rfl nofun ⟨id, hid', hidle⟩ ?_)
    exact fun hdown => by cases hup'.symm.trans hdown

/-- A session that is on its way takes no other order, so everything stays as it is. -/
lemma of_busy (hg : Sound g) (hattended : Attended g) (hrunning : g.supervisor.running = true)
    (hup : g.connected = true) (hid : g.supervisor.session = some id) (hasking : g.Asking)
    (hregistered : g.supervisor.registered = false) (herror : g.supervisor.lastError = none)
    (he : e.isRegistration = true) (hlast : ∀ n, last = some n → n = .registering) :
    Echoes (g.dispatch id e).group (g.dispatch id e).deliveries last := by
  have hbusy := hasking.busy hid
  obtain ⟨told, hexchange, hds⟩ := hattended.exchange hg hrunning hid fun _ => he
  obtain ⟨rfl, hsame⟩ := hexchange.of_asked_busy he hbusy
  exact waits hrunning hup hid hregistered herror hlast (hsame ▸ hbusy) hds

/-- Whatever its session is doing, a supervisor that asks knows afterwards how things stand. -/
lemma of_order (hg : Sound g) (hattended : Attended g) (hrunning : g.supervisor.running = true)
    (hup : g.connected = true) (hid : g.supervisor.session = some id)
    (herror : g.supervisor.lastError = none) (he : e.isRegistration = true)
    (hpoised : g.Poised last) :
    Echoes (g.dispatch id e).group (g.dispatch id e).deliveries last := by
  rcases hpoised with hrest | ⟨hasking, hregistered, hlast⟩
  · have hasked : Echoes (g.dispatch id e).group ([] ++ (g.dispatch id e).deliveries ++ []) last :=
      of_asked hg hattended hrunning hup hid hrest herror he rfl nofun
    rwa [List.nil_append, List.append_nil] at hasked
  · exact of_busy hg hattended hrunning hup hid hasking hregistered herror he hlast

/-! ### Actions -/

/-- A signal reaches the session of the supervisor only while the registrar has yet to answer. -/
lemma heard (hg : Sound g) (hlisted : g.registry.Unambiguous) (hattended : Attended g)
    (hkeyed : KeyedOnline g) {key : CallId} (hid : g.supervisor.session = some id)
    (hkey : g.registry.get? key = some id) (hcommand : e.isCommand = false)
    (hlost : e ≠ .connectionLost) (h : Believes g last) :
    Echoes (g.dispatch id e).group (g.dispatch id e).deliveries last := by
  have hnot : ¬ g.AtRest :=
    not_atRest_of_owner hg hlisted hid (hlisted.mem_owners_iff.mpr ⟨key, hkey⟩)
  cases h with
  | holds _ _ hrest => exact absurd hrest hnot
  | failed _ hrest => exact absurd hrest hnot
  | offline _ hdown => cases hdown.symm.trans (hkeyed id key hid hkey)
  | asking hrunning hup hasking hregistered herror hlast =>
    have hbusy := hasking.busy hid
    obtain ⟨told, hexchange, hds⟩ :=
      hattended.exchange (e := e) hg hrunning hid (by simp [hcommand])
    rcases hexchange.of_waiting hbusy hlost with ⟨rfl, hsame⟩ | ⟨hready, n, rfl, houtcome⟩
    · exact waits hrunning hup hid hregistered herror hlast (hsame ▸ hbusy) hds
    · obtain ⟨hn, hne⟩ := Notice.isRegistration_of_isOutcome houtcome
      have hsetup := SameSetup.dispatch g id e
      have hup' := hsetup.connected.trans hup
      have htold : Echoes (g.dispatch id e).group ([] ++ (g.dispatch id e).deliveries ++ []) last :=
        tells hrunning hid herror rfl nofun hds <|
          .ended hn hne ⟨id, hsetup.supervised.trans hid, hready⟩
            fun hdown => by cases hup'.symm.trans hdown
      rwa [List.nil_append, List.append_nil] at htold

/-- A supervisor that starts asks at once, unless the data connection is down. -/
lemma starts (hg : Sound g) (hattended : Attended g) (l : Listener) (hopen : g.closed = false)
    (hidle : g.supervisor.running = false)
    (hstate : (g.engaging l).2.AtRest ∨
      (g.engaging l).2.Asking ∧ ∀ n, last = some n → n = .registering) :
    Echoes (g.startRegistration l).group (g.startRegistration l).deliveries last := by
  have hbooks := g.books_engaging l
  have hrunning : (g.engaging l).2.supervisor.running = true :=
    congrArg (·.supervisor.running) hbooks
  have hregistered : (g.engaging l).2.supervisor.registered = false :=
    congrArg (·.supervisor.registered) hbooks
  have hpoised : (g.engaging l).2.Poised last :=
    hstate.imp_right fun ⟨hasking, hlast⟩ => ⟨hasking, hregistered, hlast⟩
  rw [startRegistration_eq g l hopen hidle]
  dsimp only
  split
  · next hup =>
    have hasked := of_order (hg.keeps (keeps_engaging g l)) (hattended.engaging l) hrunning hup
      (congrArg (·.supervisor.session) hbooks) (congrArg (·.supervisor.lastError) hbooks)
      (e := .deregister) rfl hpoised
    split
    · exact hasked
    · exact hasked.congr (.scheduleRetry _)
  · next hdown => exact .settled rfl (.offline hrunning (by simpa using hdown) hregistered hpoised)

omit [Transport σ] in
lemma setRegistrationListener (h : Believes g last) (l : Listener) :
    Echoes (g.setRegistrationListener l).group (g.setRegistrationListener l).deliveries last := by
  unfold Group.setRegistrationListener
  split
  · exact .settled rfl h
  · dsimp only
    split
    · exact .settled rfl (h.setListener l)
    · next id hid =>
      exact .settled (mail_cons_listener _ _ _ _ _) ((h.setListener l).replayed hid l)

/-! ### The data connection -/

lemma regainConnection (hg : Sound g) (hattended : Attended g) (h : Believes g last) :
    Echoes g.regainConnection.group g.regainConnection.deliveries last := by
  cases hrunning : g.supervisor.running with
  | false =>
    rw [regainConnection_of_not_running g hrunning]
    obtain ⟨hregistered, -⟩ := h.resigned hrunning
    exact .settled rfl (h.up_or_down hrunning hrunning hregistered rfl rfl fun _ _ => rfl)
  | true =>
    obtain ⟨id, hid⟩ := hattended.session hrunning
    rw [regainConnection_eq g hrunning hid]
    exact of_order (hg.keeps (keeps_resumed g)) hattended.resumed hrunning rfl hid rfl rfl h.poised

/-- A supervisor that has given up hears nothing of the loss. -/
lemma lost_resigned (hg : Sound g) (hlisted : g.registry.Unambiguous) (hattended : Attended g)
    (hstopped : g.supervisor.running = false) (h : Believes g last) :
    Echoes g.loseConnection.group g.loseConnection.deliveries last := by
  have hbulletin : g.bulletin = [] := bulletin_eq_nil (.inl hstopped)
  have hlastError := lastError_loseConnection hbulletin
  obtain ⟨timer, error, -, -, heq⟩ := g.loseConnection_eq
  rw [heq] at hlastError ⊢
  have hspared : ∀ id, g.supervisor.session = some id →
      g.cutOff.group.stateOf id = g.stateOf id ∧ ∀ d ∈ g.cutOff.deliveries, d.session ≠ id :=
    fun id hid => cutOff_of_not_owner hg hlisted hattended hid fun howner =>
      not_atRest_of_owner hg hlisted hid howner (h.resigned hstopped).2
  rw [hbulletin, List.append_nil]
  refine silent (h.up_or_down hstopped hstopped rfl hlastError rfl ?_) ?_
  · exact fun id hid => (hspared id hid).1
  · exact fun d hd hid => (hspared _ hid).2 d hd rfl

/-- A session with a key waits for the registrar, and says that the connection is lost. -/
lemma lost_owner (hg : Sound g) (hlisted : g.registry.Unambiguous) (hattended : Attended g)
    (hup : g.connected = true) (hid : g.supervisor.session = some id)
    (howner : id ∈ g.registry.owners) (h : Believes g last) :
    Echoes g.loseConnection.group g.loseConnection.deliveries last := by
  have hnot := not_atRest_of_owner hg hlisted hid howner
  have hbulletin : g.bulletin = [] := bulletin_eq_nil (.inr ⟨id, hid, howner⟩)
  have hlastError := lastError_loseConnection hbulletin
  obtain ⟨timer, error, -, -, heq⟩ := g.loseConnection_eq
  rw [heq] at hlastError ⊢
  cases h with
  | holds _ _ hrest => exact absurd hrest hnot
  | failed _ hrest => exact absurd hrest hnot
  | offline _ hdown => cases hdown.symm.trans hup
  | asking hrunning _ hasking _ herror =>
    obtain ⟨hready, before, after, hdeliveries, hsilent⟩ :=
      cutOff_of_owner hg hlisted hattended hrunning hid (hasking.busy hid) howner
    have hothers : ∀ d ∈ before ++ after, g.supervisor.session ≠ some d.session :=
      fun d hd hsession => hsilent d hd (Option.some.inj (hsession.symm.trans hid))
    rw [hbulletin, List.append_nil]
    refine .due hrunning hid hdeliveries ?_ ?_ (hlastError.trans herror) ?_
    · exact mail_eq_nil fun d hd _ => hothers d (List.mem_append_left _ hd)
    · exact fun d hd => hothers d (List.mem_append_right _ hd)
    · exact .ended rfl nofun ⟨id, hid, hready⟩ fun _ => ⟨_, rfl⟩

/-- A session without a key notices nothing, and the supervisor speaks for it. -/
lemma lost_other (hg : Sound g) (hlisted : g.registry.Unambiguous) (hattended : Attended g)
    (hrunning : g.supervisor.running = true) (hid : g.supervisor.session = some id)
    (hnot : id ∉ g.registry.owners) (h : Believes g last) :
    Echoes g.loseConnection.group g.loseConnection.deliveries last := by
  obtain ⟨hsame, hsilent⟩ := cutOff_of_not_owner hg hlisted hattended hid hnot
  have hstate : ∀ i, g.supervisor.session = some i →
      g.cutOff.group.stateOf i = g.stateOf i := fun i hi => by
    obtain rfl : i = id := Option.some.inj (hi.symm.trans hid)
    exact hsame
  obtain ⟨timer, error, -, -, heq⟩ := g.loseConnection_eq
  rw [heq]
  refine adrift hrunning (congrArg Books.connected g.books_cutOff) rfl ?_ ?_
  · refine mail_eq_nil fun d hd haddressee hsession => ?_
    rcases List.mem_append.mp hd with hd | hd
    · exact hsilent d hd (Option.some.inj (hsession.symm.trans hid))
    · obtain ⟨-, l, hl⟩ := g.mem_bulletin hd
      cases hl.symm.trans haddressee
  · refine h.poised.imp (fun hrest => hrest.congr rfl hstate) fun ⟨hasking, hpoised⟩ => ?_
    exact ⟨hasking.congr rfl hstate, rfl, hpoised.2⟩

lemma loseConnection (hg : Sound g) (hlisted : g.registry.Unambiguous) (hattended : Attended g)
    (hup : g.connected = true) (h : Believes g last) :
    Echoes g.loseConnection.group g.loseConnection.deliveries last := by
  cases hrunning : g.supervisor.running with
  | false => exact lost_resigned hg hlisted hattended hrunning h
  | true =>
    obtain ⟨id, hid⟩ := hattended.session hrunning
    by_cases howner : id ∈ g.registry.owners
    · exact lost_owner hg hlisted hattended hup hid howner h
    · exact lost_other hg hlisted hattended hrunning hid howner h

/-- What the supervisor knows when it wakes up. -/
lemma wake (hg : Sound g) (hattended : Attended g) (h : Believes g last) (call : WakeupCall) :
    Echoes (g.wake call).group (g.wake call).deliveries last := by
  cases call with
  | keepalive process => exact .settled rfl (h.congr (.keepAlive g process))
  | refresh =>
    simp only [Group.wake]
    rcases g.refresh_eq with ⟨-, heq⟩ | ⟨hrunning, hup, id, hid, heq⟩
    · rw [heq]
      exact .settled rfl h
    · rw [heq]
      exact of_order (hg.keeps (keeps_cleared g)) (hattended.paperwork (.cleared g)) hrunning hup
        hid rfl rfl h.poised

/-! ### Handing over -/

/-- The supervisor is told how things stand, and says so. -/
lemma taken (hg : Sound g) (hattended : Attended g) (hrunning : g.supervisor.running = true)
    (hid : g.supervisor.session = some id) (herror : g.supervisor.lastError = none)
    (hwaiting : ∀ d ∈ waiting, g.supervisor.session ≠ some d.session) (hdue : g.Due n) :
    Echoes (g.handOver ⟨.supervisor, id, n⟩).group
      ((g.handOver ⟨.supervisor, id, n⟩).deliveries ++ waiting) last := by
  have hn := hdue.isRegistration
  have htakes := takesNotice_of_running hrunning hid hn
  have hfiles := Files.noting g id n
  -- If the supervisor does not ask again, its listener is told what it has been told.
  have hrelayed : g.connected = true → g.asksAgain n = false →
      Believes (g.noting id n) (some n) → Echoes (g.handOver ⟨.supervisor, id, n⟩).group
        ((g.handOver ⟨.supervisor, id, n⟩).deliveries ++ waiting) last := fun hup hasks h => by
    rw [handOver_eq, if_pos htakes]
    dsimp only
    rw [hasks]
    refine relayed h (hfiles.connected.trans hup) (hfiles.supervised.trans hid) hn ?_ _
    rw [hfiles.supervised]
    exact hwaiting
  cases hdue with
  | sent hup hasking =>
    exact hrelayed hup rfl (.asking hrunning hup hasking rfl herror fun n hn =>
      (Option.some.inj hn).symm)
  | ended _ hne hrest hdown =>
    cases hconnected : g.connected with
    | false =>
      obtain ⟨message, rfl⟩ := hdown hconnected
      rw [handOver_eq, if_pos htakes]
      refine adrift hrunning hconnected rfl ?_ (.inl hrest)
      exact (mail_cons_listener _ _ _ _ _).trans (mail_eq_nil fun d hd _ => hwaiting d hd)
    | true =>
      cases n with
      | registering => exact absurd rfl hne
      | registrationFailed code message =>
        exact hrelayed hconnected rfl (.failing hconnected hrest code message)
      | registrationTimeout =>
        have hnoted : Believes (g.noteFailure .timeOut "registration timed out")
            (some .registrationTimeout) := .noted hconnected hrest (.inr ⟨rfl, rfl⟩)
        exact hrelayed hconnected rfl (hnoted.congr (.scheduleRetry _))
      | registrationDone duration =>
        by_cases hpos : 0 < duration
        · refine hrelayed hconnected (by simp [asksAgain, hpos]) ?_
          simp only [noting, if_pos hpos]
          exact .granted hconnected hrunning hrest hpos
        · have hasks : g.asksAgain (.registrationDone duration) = true := by
            simp [asksAgain, hpos, hconnected]
          have htold : g.ended.mail [g.tellListener id (.registrationDone duration)] = [] :=
            mail_cons_listener _ _ _ _ _
          rw [handOver_eq, if_pos htakes]
          dsimp only
          rw [hasks]
          exact of_asked (hg.keeps (keeps_ended g)) (hattended.paperwork (.ended g)) hrunning
            hconnected hid hrest herror rfl htold hwaiting
      | _ => cases hn

/-- Handing a notice over leaves things as they have been told. -/
lemma handOver (hg : Sound g) (hattended : Attended g) (h : Echoes g (d :: waiting) last) :
    Echoes (g.handOver d).group ((g.handOver d).deliveries ++ waiting) (g.remember d last) := by
  by_cases hmine : d.addressee = .supervisor ∧ g.supervisor.session = some d.session
  · obtain ⟨addressee, id, n⟩ := d
    obtain ⟨rfl, hid⟩ := hmine
    have hmail : ∀ waiting, g.mail (⟨.supervisor, id, n⟩ :: waiting) ≠ [] := fun waiting => by
      rw [mail_cons hid]
      exact List.cons_ne_nil _ _
    cases h with
    | settled hnone => exact absurd hnone (hmail _)
    | @due i n' before after hrunning _ hnotices hbefore hafter herror hdue =>
      cases before with
      | cons first before =>
        rw [List.cons_append, List.cons.injEq] at hnotices
        rw [← hnotices.1] at hbefore
        exact absurd hbefore (hmail _)
      | nil =>
        rw [List.nil_append, List.cons.injEq, Delivery.mk.injEq] at hnotices
        obtain ⟨⟨-, rfl, rfl⟩, rfl⟩ := hnotices
        exact taken hg hattended hrunning hid herror hafter hdue
  · rw [handOver_of_not_supervised hmine]
    exact h.drop hmine

end Echoes

end Group

end SipAgent
