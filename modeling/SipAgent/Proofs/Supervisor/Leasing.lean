import SipAgent.Proofs.Supervisor.Lease

/-!
# What becomes of the last grant

The flag, the refresh and the last grant still hang together after every step of a thread that uses
the group alone, as long as no time passes a wake-up that is due. An answer of the registrar makes a
new grant, what is asked of the registrar puts an end to the old one, and nothing else matters.
-/

namespace SipAgent

namespace Group

variable {σ : Type} {g g' : Group σ} {id : SessionId} {t : Grant} {x : Option Grant}
  {notices ds waiting : List Delivery} {wakeups : List WakeupCall} {d : Delivery}

namespace Leased

variable [Transport σ]

/-! ### Actions -/

/-- Nobody is told of a grant by asking for one. -/
lemma no_grant_of_asked (hg : Sound g) (hattended : Attended g)
    (hid : g.supervisor.session = some id) {e : SessionEvent} (he : e.isRegistration = true)
    (duration : Int) :
    .registrationDone duration ∉ (g.dispatch id e).group.mail (g.dispatch id e).deliveries := by
  obtain ⟨s, a, hcell, hs, -⟩ := hattended.cell id hid
  obtain ⟨s', told, hexchange, -, -, hds⟩ := dispatch_exchange hg hcell hs fun _ => he
  intro hdone
  obtain ⟨d, hd, -, -, hnotice⟩ := mem_mail.mp hdone
  rw [hds] at hd
  obtain ⟨n, hn, rfl⟩ := List.mem_map.mp hd
  exact (hexchange.of_asked he).1 duration (hnotice ▸ hn)

/-- A supervisor that is not registered asks. -/
lemma of_asked (hg : Sound g) (hattended : Attended g) (hid : g.supervisor.session = some id)
    {e : SessionEvent} (he : e.isRegistration = true)
    (hregistered : g.supervisor.registered = false) (hx : ∀ t, x = some t → t.stands = false) :
    Leased (g.dispatch id e).group (g.dispatch id e).deliveries wakeups x := by
  refine of_unregistered ?_ hx fun _ duration _ => no_grant_of_asked hg hattended hid he duration
  rw [supervisor_dispatch]
  exact hregistered

/-- The answer of a registrar is the only signal that matters. -/
lemma signal (hg : Sound g) (hattended : Attended g)
    (hatRest : g.supervisor.registered = true → g.AtRest) (h : Leased g [] wakeups x) (s : Signal) :
    Leased (g.act (.signal s)).group (g.act (.signal s)).deliveries wakeups
      (g.lease (.act (.signal s)) x) := by
  by_cases hgrants : ∃ r, s = .response r ∧ g.grants r = true
  · obtain ⟨r, rfl, hgrants⟩ := hgrants
    obtain ⟨-, -, -, hrunning, i, hi, -, hbusy⟩ := grants_iff.mp hgrants
    obtain ⟨id, hid, hgroup, hds, -, -⟩ := act_of_grants hg hattended hgrants
    obtain rfl : i = id := Option.some.inj (hi.symm.trans hid)
    have hregistered : g.supervisor.registered = false := by
      by_contra hregistered
      have hrest := hatRest (by simpa using hregistered)
      cases hbusy.symm.trans (hrest.stateOf_eq hid)
    have hsupervisor := supervisor_dispatch g i (.response r)
    have hmail : (g.dispatch i (.response r)).group.mail
        [⟨.supervisor, i, .registrationDone r.lifetime⟩] = [.registrationDone r.lifetime] := by
      rw [mail_cons (by rw [hsupervisor]; exact hid), mail_nil]
    simp only [lease, hgrants, if_true]
    rw [hgroup, hds]
    refine ⟨fun hs => ?_, fun t ht _ => ?_, fun _ _ _ _ => ⟨_, rfl, rfl⟩⟩
    · rw [hsupervisor, hregistered] at hs
      cases hs
    · cases ht
      exact .coming (by rw [hsupervisor]; exact hrunning) r.lifetime_pos hmail
        (Instant.dispatch g i _).now
  · have hsame : g.lease (.act (.signal s)) x = x := by
      cases s with
      | response r =>
        have hnot : g.grants r = false := by
          by_contra hnot
          exact hgrants ⟨r, rfl, by simpa using hnot⟩
        simp only [lease, hnot, Bool.false_eq_true, if_false]
      | _ => rfl
    rw [hsame]
    simp only [act, answering, processSignal]
    split
    · exact h
    next hopen =>
    split
    · exact h
    next id hresolve =>
    by_cases hid : g.supervisor.session = some id
    · obtain ⟨t, a, hcell, ht, -⟩ := hattended.cell id hid
      have hs := session?_eq_some.mpr ⟨a, hcell⟩
      have howner := hg.owner_of_resolve hs ht.role hresolve
      have hregistered : g.supervisor.registered = false := by
        by_contra hregistered
        have hready := (hatRest (by simpa using hregistered)).state hid hcell
        exact hg.not_owner_of_ready hs hready _ howner
      refine of_unregistered ?_ (h.not_stands hregistered) fun hrunning duration hpos hdone => ?_
      · rw [supervisor_dispatch]
        exact hregistered
      · obtain ⟨d, hd, -, -, hnotice⟩ := mem_mail.mp hdone
        rw [supervisor_dispatch] at hrunning
        exact hgrants (grants_of_told hattended (by simpa using hopen) hrunning hid hresolve hd
          hpos hnotice)
    · exact h.aside (.dispatch hg hattended hid _) (.dispatch g id _)

lemma startRegistration (hg : Sound g) (hattended : Attended g) (hbooks : g.InOrder True wakeups)
    (h : Leased g [] wakeups x) (l : Listener) :
    Leased (g.startRegistration l).group (g.startRegistration l).deliveries wakeups x := by
  cases hopen : g.closed with
  | true =>
    rw [startRegistration_of_closed g l hopen]
    exact h
  | false =>
  cases hidle : g.supervisor.running with
  | true =>
    rw [startRegistration_of_running g l hopen hidle]
    exact h.congr ⟨rfl, rfl⟩ rfl rfl rfl rfl
  | false =>
  have hx := h.not_stands (hbooks.not_registered (.inl hidle))
  have hengaging := g.books_engaging l
  have hregistered : (g.engaging l).2.supervisor.registered = false :=
    congrArg (·.supervisor.registered) hengaging
  have hasked := (congrArg Supervisor.registered
    (supervisor_dispatch (g.engaging l).2 (g.engaging l).1 .deregister)).trans hregistered
  have hmail := no_grant_of_asked (hg.keeps (keeps_engaging g l)) (hattended.engaging l)
    (congrArg (·.supervisor.session) hengaging) (e := .deregister) rfl
  rw [startRegistration_eq g l hopen hidle]
  dsimp only
  split
  · split
    · exact of_unregistered hasked hx fun _ duration _ => hmail duration
    · refine of_unregistered ((registered_scheduleRetry _).trans hasked) hx fun _ duration _ => ?_
      rw [mail_congr (Files.scheduleRetry _).supervised]
      exact hmail duration
  · exact of_unregistered hregistered hx fun _ _ _ => nofun

lemma regainConnection (hg : Sound g) (hattended : Attended g)
    (hregistered : g.supervisor.registered = false) (h : Leased g [] wakeups x) :
    Leased g.regainConnection.group g.regainConnection.deliveries wakeups x := by
  cases hrunning : g.supervisor.running with
  | false =>
    rw [regainConnection_of_not_running g hrunning]
    exact h.congr ⟨rfl, rfl⟩ rfl rfl rfl rfl
  | true =>
    obtain ⟨id, hid⟩ := hattended.session hrunning
    rw [regainConnection_eq g hrunning hid]
    exact of_asked (hg.keeps (keeps_resumed g)) hattended.resumed hid rfl hregistered
      (h.not_stands hregistered)

/-- Nobody is told of a grant because the data connection is lost. -/
lemma loseConnection (hg : Sound g) (hattended : Attended g)
    (hx : ∀ t, x = some t → t.stands = false) :
    Leased g.loseConnection.group g.loseConnection.deliveries wakeups x := by
  have horderly := Orderly.loseConnection hg hattended
  obtain ⟨timer, error, -, -, heq⟩ := g.loseConnection_eq
  rw [heq] at horderly ⊢
  refine of_unregistered rfl hx fun _ duration hpos hdone => ?_
  have hup := ((horderly.granted duration hdone).2 hpos).1
  cases (congrArg Books.connected g.books_cutOff).symm.trans hup

lemma setConnected (hg : Sound g) (hattended : Attended g) (hbooks : g.InOrder True wakeups)
    (h : Leased g [] wakeups x) (up : Bool) :
    Leased (g.setConnected up).group (g.setConnected up).deliveries wakeups
      (g.lease (.act (.setConnected up)) x) := by
  unfold Group.setConnected
  split
  · next hcannot =>
    cases up with
    | true => exact h
    | false =>
      have hregistered : g.supervisor.registered = false := by
        refine hbooks.not_registered (.inr ?_)
        simpa using hcannot
      exact of_unregistered hregistered (not_stands_past x) fun _ _ _ => nofun
  · next hcan =>
    cases up with
    | true =>
      have hdown : g.connected = false := by
        rw [Bool.or_eq_true, decide_eq_true_eq, not_or, Bool.not_eq_true] at hcan
        simpa using hcan.2
      exact h.regainConnection hg hattended (hbooks.not_registered (.inr (.inr hdown)))
    | false => exact loseConnection hg hattended (not_stands_past x)

omit [Transport σ] in
/-- Time passes, but no wake-up that is due. -/
lemma tick (h : Leased g [] [] x) {milliseconds : ℕ}
    (hdue : ∀ w ∈ g.timer.queue, g.now + milliseconds ≤ w.due) :
    Leased (g.tick milliseconds) [] [] x := by
  have hnow : ∀ t, x = some t → t.stands = true →
      g.supervisor.registered = true ∧ g.now + milliseconds ≤ t.due g.settings ∧
        t.due g.settings ∈ g.timer.dues .refresh := by
    intro t ht hstands
    cases h.stands t ht hstands with
    | coming _ _ hmail => cases hmail
    | holding hregistered _ _ hqueued =>
      have hqueued := hqueued.resolve_right nofun
      obtain ⟨w, hw, hmoment⟩ := List.mem_map.mp hqueued
      refine ⟨hregistered, ?_, hqueued⟩
      rw [← hmoment]
      exact hdue w (List.mem_of_mem_filter hw)
  refine ⟨fun hs => ?_, fun t ht hstands => ?_, fun _ _ _ => nofun⟩
  · obtain ⟨t, ht, -, hstands⟩ := h.registered hs
    have hstands := hstands.resolve_right (by simp)
    exact ⟨t, ht, (hnow t ht hstands).2.1, .inl hstands⟩
  · obtain ⟨hregistered, hlater, hqueued⟩ := hnow t ht hstands
    exact .holding hregistered rfl hlater (.inl hqueued)

/-! ### Waking up -/

omit [Transport σ] in
/-- The refresh that is due may be given out now. -/
lemma ringAlarm (h : Leased g [] wakeups x) :
    Leased g.ringAlarm.2 [] (wakeups ++ g.ringAlarm.1.toList) x := by
  have hinstant : g.Instant g.ringAlarm.2 := ⟨rfl, rfl⟩
  refine ⟨h.registered, fun t ht hstands => ?_, h.granted⟩
  cases h.stands t ht hstands with
  | coming hrunning hpos hmail hnow => exact .coming hrunning hpos hmail hnow
  | holding hregistered hmail hnow hdue =>
    refine .holding hregistered hmail hnow ?_
    rcases hdue with hqueued | hgiven
    · exact (Timer.mem_dues_ring hqueued g.now).imp_right fun hrung =>
        List.mem_append_right _ (Option.mem_toList.mpr hrung)
    · exact .inr (List.mem_append_left _ hgiven)

lemma keepAlive {before after : List WakeupCall} {process : ℕ}
    (h : Leased g [] (before ++ .keepalive process :: after) x) :
    Leased (g.keepAlive process) [] (before ++ after) x := by
  have hless : Leased g [] (before ++ after) x := by
    refine ⟨h.registered, fun t ht hstands => ?_, h.granted⟩
    cases h.stands t ht hstands with
    | coming hrunning hpos hmail hnow => exact .coming hrunning hpos hmail hnow
    | holding hregistered hmail hnow hdue =>
      exact .holding hregistered hmail hnow (hdue.imp_right fun hgiven => by simpa using hgiven)
  have hdues := g.dues_keepAlive process
  rcases g.keepAlive_eq process with ⟨-, heq⟩ | ⟨-, timer, network, heq, -⟩
  · rw [heq]
    exact hless
  · rw [heq] at hdues ⊢
    exact hless.congr ⟨rfl, rfl⟩ rfl rfl hdues rfl

/-- An idle session that is asked to register says so, or that it cannot. -/
lemma unregisters_of_asked (hg : Sound g) (hattended : Attended g)
    (hrunning : g.supervisor.running = true) (hid : g.supervisor.session = some id)
    (hready : g.stateOf id = .ready) {e : SessionEvent} (he : e.isRegistration = true) :
    ∃ n ∈ (g.dispatch id e).group.mail (g.dispatch id e).deliveries, n.unregisters = true := by
  obtain ⟨told, hexchange, hds⟩ := hattended.exchange hg hrunning hid fun _ => he
  rw [hds, mail_told ((congrArg Supervisor.session (supervisor_dispatch g id e)).trans hid),
    if_pos rfl]
  rw [hready] at hexchange
  rcases hexchange.of_asked_idle he with ⟨rfl, -⟩ | ⟨-, code, message, rfl⟩
  · exact ⟨_, List.mem_singleton_self _, rfl⟩
  · exact ⟨_, List.mem_singleton_self _, rfl⟩

/-- A refresh takes effect while the supervisor takes itself for registered at most until it is told
of it. -/
lemma refresh {wakeups' : List WakeupCall} (hg : Sound g) (hattended : Attended g)
    (hbooks : g.InOrder True wakeups)
    (hatRest : g.supervisor.registered = true → g.AtRest) (h : Leased g [] wakeups x) :
    Leased g.refresh.group g.refresh.deliveries wakeups' (x.map Grant.past) := by
  rcases g.refresh_eq with ⟨hcannot, heq⟩ | ⟨hrunning, -, id, hid, heq⟩
  · rw [heq]
    exact of_unregistered (hbooks.not_registered_of_idle_refresh hatRest hcannot)
      (not_stands_past x) fun _ _ _ => nofun
  · have hsound : Sound g.cleared := hg.keeps (keeps_cleared g)
    have hcleared : Attended g.cleared := hattended.paperwork (.cleared g)
    have hsupervisor := supervisor_dispatch g.cleared id (.register g.settings.expiry)
    have hinstant := Instant.dispatch g.cleared id (.register g.settings.expiry)
    rw [heq]
    refine ⟨fun hs => ?_, fun t ht hstands => ?_, fun _ duration _ hdone => ?_⟩
    · rw [hsupervisor] at hs
      obtain ⟨t, ht, hnow, -⟩ := h.registered hs
      have hready := (hatRest hs).stateOf_eq hid
      rw [hinstant.now, hinstant.settings]
      exact ⟨t.past, by rw [ht]; rfl, hnow,
        .inr (unregisters_of_asked hsound hcleared hrunning hid hready rfl)⟩
    · rw [not_stands_past x t ht] at hstands
      cases hstands
    · exact absurd hdone (no_grant_of_asked hsound hcleared hid rfl duration)

/-! ### Handing over -/

omit [Transport σ] in
/-- Nothing stands while the supervisor has yet to be told of something else than a grant. -/
lemma not_stands_of_told {n : Notice} (hid : g.supervisor.session = some id)
    (hn : ∀ duration : Int, 0 < duration → n ≠ .registrationDone duration)
    (h : Leased g (⟨.supervisor, id, n⟩ :: waiting) wakeups x) :
    ∀ t, x = some t → t.stands = false := by
  have hmail := mail_cons hid n waiting
  intro t ht
  by_contra hstands
  cases h.stands t ht (by simpa using hstands) with
  | coming _ hpos hcoming =>
    rw [hmail, List.cons.injEq] at hcoming
    exact hn t.told (Int.natCast_pos.mpr hpos) hcoming.1
  | holding _ hnothing =>
    rw [hmail] at hnothing
    cases hnothing

/-- A supervisor that is told otherwise does not take itself for registered any more. -/
lemma unregistered {n : Notice} (hg : Sound g) (hattended : Attended g)
    (hrunning : g.supervisor.running = true) (hid : g.supervisor.session = some id)
    (hn : n.unregisters = true) (h : Leased g (⟨.supervisor, id, n⟩ :: waiting) wakeups x) :
    Leased (g.handOver ⟨.supervisor, id, n⟩).group
      ((g.handOver ⟨.supervisor, id, n⟩).deliveries ++ waiting) wakeups x := by
  have hmail := mail_cons hid n waiting
  have hx := h.not_stands_of_told hid fun duration hpos hdone => by
    rw [hdone] at hn
    simp only [Notice.unregisters, decide_eq_true_eq] at hn
    omega
  have hlater : ∀ duration : Int, 0 < duration → .registrationDone duration ∉ g.mail waiting := by
    intro duration hpos hdone
    obtain ⟨t, ht, hstands⟩ := h.granted hrunning duration hpos
      (hmail ▸ List.mem_cons_of_mem _ hdone)
    cases (hx t ht).symm.trans hstands
  have hregistration : n.isRegistration = true := by
    cases n <;> first | rfl | cases hn
  rw [handOver_eq, if_pos (takesNotice_of_running hrunning hid hregistration)]
  dsimp only
  split
  · have hsupervisor := supervisor_dispatch g.ended id (.register g.settings.expiry)
    have hsession : (g.ended.dispatch id (.register g.settings.expiry)).group.supervisor.session =
        g.supervisor.session := by
      rw [hsupervisor]
      rfl
    refine of_unregistered ?_ hx fun _ duration hpos => ?_
    · dsimp only
      rw [hsupervisor]
      rfl
    · dsimp only
      rw [List.cons_append, tellListener, mail_cons_listener, mail_append,
        mail_congr hsession waiting, List.mem_append, not_or]
      exact ⟨no_grant_of_asked (hg.keeps (keeps_ended g)) (hattended.paperwork (.ended g)) hid rfl
        duration, hlater duration hpos⟩
  · refine of_unregistered (registered_noting g id hn) hx fun _ duration hpos => ?_
    rw [List.cons_append, tellListener, mail_cons_listener, List.nil_append,
      mail_congr (Files.noting g id n).supervised]
    exact hlater duration hpos

/-- A grant that is told stands from then on. -/
lemma told {duration : Int} (hrunning : g.supervisor.running = true)
    (hticks : g.timer.stopped = false) (hid : g.supervisor.session = some id)
    (hpos : 0 < duration)
    (h : Leased g (⟨.supervisor, id, .registrationDone duration⟩ :: waiting) wakeups x) :
    Leased (g.handOver ⟨.supervisor, id, .registrationDone duration⟩).group
      ((g.handOver ⟨.supervisor, id, .registrationDone duration⟩).deliveries ++ waiting) wakeups
      x := by
  have hmail := mail_cons hid (.registrationDone duration) waiting
  obtain ⟨t, rfl, hstands⟩ := h.granted hrunning duration hpos (by rw [hmail]; exact
    List.mem_cons_self)
  have hcoming : g.mail waiting = [] ∧ duration = t.told ∧ g.now = t.moment := by
    cases h.stands t rfl hstands with
    | coming _ _ hcoming hnow =>
      rw [hmail, List.cons.injEq, Notice.registrationDone.injEq] at hcoming
      exact ⟨hcoming.2, hcoming.1, hnow⟩
    | holding _ hnothing =>
      rw [hmail] at hnothing
      cases hnothing
  obtain ⟨hnone, rfl, hnow⟩ := hcoming
  have hdues := dues_of_granted hrunning hid hticks (Int.natCast_pos.mp hpos)
  have hfiles := Files.noting g id (.registrationDone t.told)
  have hregistered := registered_noting_of_pos g id hpos
  have heq : g.handOver ⟨.supervisor, id, .registrationDone t.told⟩ =
      ⟨g.noting id (.registrationDone t.told), [g.tellListener id (.registrationDone t.told)],
        ()⟩ := by
    have hnot : g.asksAgain (.registrationDone t.told) = false := by
      dsimp only [asksAgain]
      rw [decide_eq_true hpos]
      rfl
    rw [handOver_eq, if_pos (takesNotice_of_running hrunning hid rfl)]
    simp only [hnot, Bool.false_eq_true, if_false]
  rw [heq] at hdues ⊢
  have hlater : (g.noting id (.registrationDone t.told)).now ≤ t.due g.settings := by
    rw [hfiles.now, hnow]
    exact Nat.le_add_right _ _
  have hnothing : (g.noting id (.registrationDone t.told)).mail
      ([g.tellListener id (.registrationDone t.told)] ++ waiting) = [] := by
    rw [List.singleton_append, tellListener, mail_cons_listener, mail_congr hfiles.supervised]
    exact hnone
  refine ⟨fun _ => ⟨t, rfl, ?_, .inl hstands⟩, fun t' ht' _ => ?_, fun _ _ _ hdone => ?_⟩
  · rw [hfiles.settings]
    exact hlater
  · cases ht'
    refine .holding hregistered hnothing ?_ (.inl ?_)
    · rw [hfiles.settings]
      exact hlater
    · rw [hfiles.settings, hdues, hnow]
      exact List.mem_singleton_self _
  · rw [hnothing] at hdone
    cases hdone

/-- The supervisor makes nothing of what says nothing about the registration. -/
lemma ignored {n : Notice} (hid : g.supervisor.session = some id) (hn : ¬ n.unregisters = true)
    (hgranted : ∀ duration : Int, 0 < duration → n ≠ .registrationDone duration)
    (h : Leased g (⟨.supervisor, id, n⟩ :: waiting) wakeups x) :
    Leased (g.handOver ⟨.supervisor, id, n⟩).group
      ((g.handOver ⟨.supervisor, id, n⟩).deliveries ++ waiting) wakeups x := by
  have hmail := mail_cons hid n waiting
  have hnot : g.takesNotice ⟨.supervisor, id, n⟩ = false := by
    have hother : n.isRegistration = false := by
      cases n with
      | registering | registrationFailed | registrationTimeout => exact absurd rfl hn
      | registrationDone duration =>
        have hpos : 0 < duration := by simpa [Notice.unregisters] using hn
        exact absurd rfl (hgranted duration hpos)
      | _ => rfl
    simp [takesNotice, hother]
  have hx := h.not_stands_of_told hid hgranted
  rw [handOver_eq, hnot]
  refine ⟨fun hs => ?_, fun t ht hstands => ?_, fun hruns duration hpos hdone => ?_⟩
  · obtain ⟨t, ht, hnow, hstands | ⟨n', hn', hunregisters⟩⟩ := h.registered hs
    · exact ⟨t, ht, hnow, .inl hstands⟩
    · rw [hmail, List.mem_cons] at hn'
      rcases hn' with rfl | hn'
      · exact absurd hunregisters hn
      · exact ⟨t, ht, hnow, .inr ⟨n', hn', hunregisters⟩⟩
  · cases (hx t ht).symm.trans hstands
  · exact h.granted hruns duration hpos (hmail ▸ List.mem_cons_of_mem _ hdone)

/-- What the supervisor is told of its registration is so from then on. -/
lemma handOver (hg : Sound g) (hattended : Attended g) (hbooks : g.InOrder True wakeups)
    (hticks : g.timer.stopped = false) (h : Leased g (d :: waiting) wakeups x) :
    Leased (g.handOver d).group ((g.handOver d).deliveries ++ waiting) wakeups x := by
  by_cases hmine : d.addressee = .supervisor ∧ g.supervisor.session = some d.session
  · obtain ⟨addressee, id, n⟩ := d
    obtain ⟨rfl, hid⟩ := hmine
    have hmail := mail_cons hid n waiting
    cases hrunning : g.supervisor.running with
    | false =>
      have hx : ∀ t, x = some t → t.stands = false := by
        intro t ht
        by_contra hstands
        cases h.stands t ht (by simpa using hstands) with
        | coming hruns => cases hrunning.symm.trans hruns
        | holding hregistered =>
          cases (hbooks.not_registered (.inl hrunning)).symm.trans hregistered
      rw [handOver_of_not_running g hrunning]
      exact of_unregistered (hbooks.not_registered (.inl hrunning)) hx fun hruns => by
        cases hrunning.symm.trans hruns
    | true =>
    by_cases hn : n.unregisters = true
    · exact h.unregistered hg hattended hrunning hid hn
    by_cases hgranted : ∃ duration : Int, 0 < duration ∧ n = .registrationDone duration
    · obtain ⟨duration, hpos, rfl⟩ := hgranted
      exact h.told hrunning hticks hid hpos
    exact h.ignored hid hn fun duration hpos hdone => hgranted ⟨duration, hpos, hdone⟩
  · rw [handOver_of_not_supervised hmine]
    exact h.of_mail_eq (mail_cons_of_not_supervised hmine waiting).symm

/-! ### Actions, once more -/

/-- Whatever is done by a thread that has handed everything over, as long as it lets no time
pass. -/
lemma act (hg : Sound g) (hattended : Attended g) (hbooks : g.InOrder True wakeups)
    (hatRest : g.supervisor.registered = true → g.AtRest) (h : Leased g [] wakeups x) {a : Action}
    (ha : (Occurrence.act a).Supervised g) (htick : ∀ milliseconds, a ≠ .tick milliseconds) :
    Leased (g.act a).group (g.act a).deliveries wakeups (g.lease (.act a) x) := by
  by_cases hsignal : ∃ s, a = .signal s
  · obtain ⟨s, rfl⟩ := hsignal
    exact h.signal hg hattended hatRest s
  cases hown : a.isSupervision with
  | false =>
    have hsame : g.lease (.act a) x = x := by
      cases a <;> first | exact absurd ⟨_, rfl⟩ hsignal | rfl | cases hown
    rw [hsame]
    exact h.aside (.act hg hattended ha.undisturbed hown (not_exists.mp hsignal)) (.act g htick)
  | true =>
    have hafter : (g.act a).group.InOrder True wakeups := hbooks.act ha.1.1
    cases a with
    | startRegistration l => exact h.startRegistration hg hattended hbooks l
    | stopRegistration =>
      exact of_not_running g.stopRegistration_running hafter.registered (not_stands_past x)
    | setRegistrationListener l =>
      simp only [Group.act, answering, setRegistrationListener]
      split
      · exact h
      · split
        · exact h.congr ⟨rfl, rfl⟩ rfl rfl rfl rfl
        · exact h.congr ⟨rfl, rfl⟩ rfl rfl rfl (mail_cons_listener _ _ _ _ _)
    | setConnected up => exact h.setConnected hg hattended hbooks up
    | stopTimer => exact ha.2.elim
    | close =>
      refine of_not_running ?_ hafter.registered (not_stands_past x)
      simp only [Group.act, answering, close]
      split
      · next hclosed => exact hbooks.closed hclosed
      · exact g.stopRegistration_running
    | _ => cases hown

end Leased

end Group

end SipAgent
