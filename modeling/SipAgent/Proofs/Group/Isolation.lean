import SipAgent.Proofs.Group.Confinement

/-!
# What a signal concerns

A signal concerns the session that owns its Call-ID, or the one with which the receiver takes a call
in, `Group.concerns`. Dealing with the signal, the notices that it causes included, stays within this
session: `Group.confined_heed`. The receiver itself is told of something only if its own answer could
not be sent.
-/

namespace SipAgent

lemma Session.unfailing_receiverScript (s : Session) (fresh : SessionId) (e : SessionEvent) :
    (s.receiverScript fresh e).Unfailing := by
  unfold receiverScript
  split
  · split
    · exact fun tag reply => trivial
    · exact fun reply => trivial
    · exact fun reply => trivial
    · exact fun reply => trivial
    · trivial
    · trivial
  · trivial

/-- An idle receiver tells that a call has come in, or that its answer could not be sent. -/
lemma Session.report_of_receiver {σ : Type} [Transport σ] (profile : Profile) (id fresh : SessionId)
    {e : SessionEvent} (he : e.isRegistration = false) (net : σ) {report : Report}
    (h : report ∈ ((idle id .receiver).process profile fresh e net).1.reports) :
    report.notice.isRegistration = false ∧
      (report.session = fresh ∨ report.session = id ∧
        ∃ call ∈ ((idle id .receiver).script profile fresh e).calls net, call.refused ≠ none) := by
  have hintake := (takesIn_receiverScript (R := .nothing) (idle id .receiver) fresh e).run
    (Promise.nothing_keptBy σ) net
  rw [process_fst, script_of_receiver rfl] at h
  rw [script_of_receiver rfl]
  cases hrun : (((idle id .receiver).receiverScript fresh e).run net).1 with
  | ok outcome =>
    rw [hrun] at h hintake
    change Intake _ _ _ _ outcome at hintake
    change report ∈ outcome.reports at h
    cases hintake with
    | refused | consumed => cases h
    | takesIn r =>
      rw [List.mem_singleton.mp h]
      exact ⟨rfl, .inl rfl⟩
  | error cause =>
    rw [hrun] at h
    obtain ⟨code, message, hfailed⟩ := transportFailed_of_idle (s := idle id .receiver) he cause
    change report ∈ ((idle id .receiver).transportFailed e cause).reports at h
    rw [hfailed] at h
    rw [List.mem_singleton.mp h]
    exact ⟨rfl, .inr ⟨rfl, Script.exists_refused ((unfailing_receiverScript _ _ _).refused hrun)⟩⟩

lemma Signal.Coherent.within {m : Signal} (hm : m.Coherent) (registrations : Option CallId) :
    (SessionEvent.ofSignal m).Within registrations m.key := by
  cases m with
  | request r =>
    refine ⟨?_, by rintro _ ⟨⟩, hm, by rintro ⟨⟩⟩
    rintro _ ⟨⟩
    rfl
  | response r =>
    refine ⟨by rintro _ ⟨⟩, ?_, hm, by rintro ⟨⟩⟩
    rintro _ ⟨⟩
    rfl
  | timeout t => exact ⟨by rintro _ ⟨⟩, by rintro _ ⟨⟩, by rintro _ ⟨⟩, by rintro ⟨⟩⟩
  | dialogTerminated d => exact ⟨by rintro _ ⟨⟩, by rintro _ ⟨⟩, by rintro _ ⟨⟩, by rintro ⟨⟩⟩
  | transactionTerminated t => exact ⟨by rintro _ ⟨⟩, by rintro _ ⟨⟩, by rintro _ ⟨⟩, by rintro ⟨⟩⟩

namespace Group

/-- The session that a Call-ID concerns: its owner, else the one that would take a call in. -/
def concerns {σ : Type} (g : Group σ) (key : CallId) : SessionId :=
  (g.registry.get? key).getD g.cells.length

/-- Notices that no supervisor waits for are handed over, and that is all. -/
lemma settle_of_ignored {σ : Type} [Transport σ] (g : Group σ) {ds : List Delivery}
    (h : ∀ d ∈ ds, d.notice.isRegistration = false) : g.settle ds = (g, ds) := by
  induction ds with
  | nil => exact settle_nil g
  | cons d waiting ih =>
    have hignored : g.takesNotice d = false := by
      simp [takesNotice, h d List.mem_cons_self]
    rw [settle_cons, handOver_eq, hignored]
    simp only [Bool.false_eq_true, if_false, List.nil_append]
    rw [ih fun d' hd' => h d' (List.mem_cons_of_mem _ hd')]

variable {g : Group (Journal Recorder)} {m : Signal} {id : SessionId}

/-- Nobody else is concerned by a signal that the receiver gets. -/
lemma confined_receiver (hs : g.session? id = some (.idle id .receiver))
    (hm : m.Coherent) :
    let change := g.dispatch id (.ofSignal m)
    Confined m.key g.cells.length g change.group ∧
      ∃ calls, change.group.network.calls = g.network.calls ++ calls ∧
        ∀ d ∈ change.deliveries, d.notice.isRegistration = false ∧
          (d.session = g.cells.length ∨ d.session = id ∧ ∃ call ∈ calls, call.refused ≠ none) := by
  intro change
  obtain ⟨a, hcell⟩ := session?_eq_some.mp hs
  have hwithin := hm.within g.network.network.registrationCallId
  have heffect := Session.intakeEffect_process promise_keptBy_journal g.profile id g.cells.length
    (.ofSignal m) g.network
  change Session.IntakeEffect _ _ _ _ (g.outcomeOf _ (.ofSignal m)) at heffect
  have hkept : (g.outcomeOf (.idle id .receiver) (.ofSignal m)).session = .idle id .receiver := by
    cases heffect <;> assumption
  refine ⟨confined_dispatch hs (Session.within_idle id .receiver m.key) hwithin (fun i hi => ?_)
    (fun other hother => ?_) fun i hi => ?_, _, calls_dispatch hs _, fun d hd => ?_⟩
  · rw [dispatch_cells? hcell, if_neg hi, hkept]
    split
    · next heq => rw [heq, hcell]
    · rfl
  · rw [dispatch_registry hs]
    cases heffect with
    | nothing _ hchanges => rw [hchanges, Registry.after_nil]
    | spawns r tag t he _ _ _ hchanges =>
      rw [hchanges, Registry.after_bind, Registry.get?_insert, if_neg]
      rintro rfl
      exact hother (hwithin.request r he)
  · rw [dispatch_registry hs] at hi
    cases heffect with
    | nothing _ hchanges =>
      rw [hchanges] at hi
      exact .inr hi
    | spawns r tag t _ _ _ _ hchanges =>
      rw [hchanges, Registry.after_bind, Registry.get?_insert] at hi
      split at hi
      · exact .inl (Option.some.inj hi).symm
      · exact .inr hi
  · change d ∈ (g.dispatch id (.ofSignal m)).deliveries at hd
    rw [dispatch_deliveries hcell] at hd
    obtain ⟨report, hreport, rfl⟩ := List.mem_map.mp hd
    have hcommand : (SessionEvent.ofSignal m).isRegistration = false := by cases m <;> rfl
    rw [outcomeOf_journal] at hreport
    exact Session.report_of_receiver g.profile id g.cells.length hcommand _ hreport

lemma heed_of_resolve (hopen : g.closed = false) (h : g.registry.resolve m.key = some id) :
    g.heed m =
      (g.dispatch id (.ofSignal m)).group.settle (g.dispatch id (.ofSignal m)).deliveries := by
  have hdispatch : g.processSignal m = g.dispatch id (.ofSignal m) := by
    simp only [processSignal, hopen, h, Bool.false_eq_true, if_false]
  rw [heed, hdispatch]

lemma heed_of_nobody (hopen : g.closed = false) (h : g.registry.resolve m.key = none) :
    g.heed m = (g, []) := by
  have hnothing : g.processSignal m = ⟨g, [], false⟩ := by
    simp only [processSignal, hopen, h, Bool.false_eq_true, if_false]
  rw [heed, hnothing, settle_nil]

/-- The owner of a key holds nothing that belongs to another one. -/
lemma Regular.handles (hg : Regular g) {key : CallId} (h : g.registry.get? key = some id) :
    Handles key id g := by
  obtain ⟨s, hs, hholds⟩ := hg.sound.owners key id h
  obtain ⟨a, hcell⟩ := session?_eq_some.mp hs
  refine ⟨hg, s, a, hcell, hholds.role, ?_⟩
  exact (hg.shaped id s hs hholds.role).within fun k hk => Option.some.inj (hk.symm.trans hholds.key)

/-- Dealing with a signal, the notices that it causes included, stays within the session that it
concerns, and touches the supervisor's books only if this is the session that is supervised. -/
theorem confined_heed (hg : Regular g) (hopen : g.closed = false) (hm : m.Coherent) :
    Confined m.key (g.concerns m.key) g (g.heed m).1 ∧
      (g.registry.get? m.key = none → (g.heed m).1.books = g.books) ∧
      ∃ calls, (g.heed m).1.network.calls = g.network.calls ++ calls ∧
        ∀ d ∈ (g.heed m).2, d.session = g.concerns m.key ∨
          g.registry.get? m.key = none ∧ g.registry.receiver = some d.session ∧
            ∃ call ∈ calls, call.refused ≠ none := by
  cases hkey : g.registry.get? m.key with
  | some id =>
    have hresolve : g.registry.resolve m.key = some id := by rw [Registry.resolve, hkey]
    have hwho : g.concerns m.key = id := by rw [concerns, hkey, Option.getD_some]
    obtain ⟨hhandles, hconfined, habout⟩ :=
      (hg.handles hkey).dispatch (hm.within _) (.signal hm hresolve)
    obtain ⟨-, hconfined', hsessions⟩ := hhandles.settle habout
    rw [heed_of_resolve hopen hresolve, hwho]
    have hall := hconfined.trans hconfined'
    obtain ⟨calls, hcalls, -⟩ := hall.calls
    refine ⟨hall, fun hfree => ?_, calls, hcalls, fun d hd => .inl (hsessions d hd)⟩
    cases hfree
  | none =>
    have hwho : g.concerns m.key = g.cells.length := by rw [concerns, hkey, Option.getD_none]
    rw [hwho]
    cases hreceiver : g.registry.receiver with
    | none =>
      rw [heed_of_nobody hopen (by rw [Registry.resolve, hkey, hreceiver])]
      exact ⟨.refl _ _ _, fun _ => rfl, [], by simp, by simp⟩
    | some id =>
      have hresolve : g.registry.resolve m.key = some id := by rw [Registry.resolve, hkey, hreceiver]
      obtain ⟨hconfined, calls, hcalls, htold⟩ :=
        confined_receiver (hg.sound.receiver id hreceiver) hm
      rw [heed_of_resolve hopen hresolve, settle_of_ignored _ fun d hd => (htold d hd).1]
      refine ⟨hconfined, fun _ => books_dispatch g id _, calls, hcalls, fun d hd => ?_⟩
      rcases (htold d hd).2 with hsession | ⟨hsession, hrefused⟩
      · exact .inl hsession
      · exact .inr ⟨rfl, by rw [hsession], hrefused⟩

end Group

end SipAgent
