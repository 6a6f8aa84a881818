import SipAgent.Proofs.Group.Debts
import SipAgent.Proofs.Group.Regular
import SipAgent.Proofs.Supervisor.Filing

/-!
# A signal stays within one call

Dealing with a signal changes one session and one key, and nothing else in a group (`Group.Confined`).
The session that owns the key names nothing that belongs to another Call-ID, and a supervisor that it
reports to asks it for a registration at most, which goes out under the same Call-ID.
-/

namespace SipAgent

namespace Group

variable {g g₁ g' : Group (Journal Recorder)} {key : CallId} {who id : SessionId} {s : Session}
  {e : SessionEvent}

/-! ### Groups that differ in one call -/

/-- Nothing changes but one session and its key, and what is asked of the network goes out under this
key. The supervisor's books change only if they are about this session. -/
structure Confined (key : CallId) (who : SessionId) (g g' : Group (Journal Recorder)) : Prop
    extends SameSetup g g' where
  cells : ∀ i, i ≠ who → g'.cells[i]? = g.cells[i]?
  keys : ∀ other, other ≠ key → g'.registry.get? other = g.registry.get? other
  owner : ∀ i, g'.registry.get? key = some i → i = who ∨ g.registry.get? key = some i
  receiver : g'.registry.receiver = g.registry.receiver
  books : g.supervisor.session ≠ some who → g'.books = g.books
  network : g.network.network.Carries key g'.network.network
  calls : ∃ calls, g'.network.calls = g.network.calls ++ calls ∧ ∀ call ∈ calls,
    call.command.callId? g.network.network.registrationCallId = some key

namespace Confined

lemma refl (key : CallId) (who : SessionId) (g : Group (Journal Recorder)) : Confined key who g g :=
  ⟨.refl g, fun _ _ => rfl, fun _ _ => rfl, fun _ h => .inr h, rfl, fun _ => rfl, .refl _ _,
    [], by simp, by simp⟩

lemma trans (h : Confined key who g g₁) (h' : Confined key who g₁ g') : Confined key who g g' where
  toSameSetup := h.toSameSetup.trans h'.toSameSetup
  cells i hi := (h'.cells i hi).trans (h.cells i hi)
  keys other hother := (h'.keys other hother).trans (h.keys other hother)
  owner i hi := (h'.owner i hi).elim .inl (h.owner i)
  receiver := h'.receiver.trans h.receiver
  books hne := (h'.books (by rwa [h.supervised])).trans (h.books hne)
  network := h.network.trans h'.network
  calls := by
    obtain ⟨calls, hcalls, hkey⟩ := h.calls
    obtain ⟨calls', hcalls', hkey'⟩ := h'.calls
    refine ⟨calls ++ calls', by rw [hcalls', hcalls, List.append_assoc], fun call hcall => ?_⟩
    rcases List.mem_append.mp hcall with hcall | hcall
    · exact hkey call hcall
    · rw [← h.network.registrationCallId]
      exact hkey' call hcall

/-- What the supervisor puts down about its session. -/
lemma of_files (h : Files g g') (hwho : g.supervisor.session = some who) :
    Confined key who g g' where
  toSameSetup := h.toSameSetup
  cells i _ := by rw [h.cells]
  keys other _ := by rw [h.registry]
  owner i hi := .inr (by rwa [← h.registry])
  receiver := by rw [h.registry]
  books hne := absurd hwho hne
  network := by
    rw [h.network]
    exact .refl _ _
  calls := ⟨[], by rw [h.network, List.append_nil], by simp⟩

end Confined

/-! ### The session of the call -/

/-- The session holds nothing but what belongs to the key. -/
structure Handles (key : CallId) (who : SessionId) (g : Group (Journal Recorder)) : Prop where
  regular : Regular g
  cell : ∃ s a, g.cells[who]? = some ⟨s, a⟩ ∧ s.role = .dialog ∧ s.Within key

/-- The notice is about the session; if it says that a registration has been granted or has ended,
registrations go out under the key. -/
structure About (key : CallId) (who : SessionId) (g : Group (Journal Recorder)) (d : Delivery) :
    Prop where
  session : d.session = who
  done : ∀ duration, d.notice = .registrationDone duration →
    g.network.network.registrationCallId = some key

/-- A session that asks for the key has its own one changed to it at most. -/
lemma get?_after_rebound_of_within {r : Registry SessionId} (hs : s.Within key) {other : CallId}
    (hother : other ≠ key) : (r.after (s.rebound key)).get? other = r.get? other := by
  by_cases hkey : s.key = some key
  · simp [Session.rebound, hkey]
  · rw [Registry.get?_after_rebound hkey, if_neg hother, Registry.get?_after_unbound, if_neg]
    rintro ⟨hown, -⟩
    exact hother (hs.own other hown)

/-- An event that is about the key alone leaves the session with this key or with none, and touches no
other one. -/
lemma keys_dispatch (hs : g.session? who = some s) (hrole : s.role = .dialog)
    (hwithin : s.Within key) (he : e.Within g.network.network.registrationCallId key)
    (hafter : Regular (g.dispatch who e).group)
    (hkept : (g.dispatch who e).group.network.network.registrationCallId =
      g.network.network.registrationCallId) :
    (∀ k, (g.outcomeOf s e).session.key = some k → k = key) ∧
      ∀ other, other ≠ key →
        (g.dispatch who e).group.registry.get? other = g.registry.get? other := by
  obtain ⟨heffect, -⟩ := Session.keyEffect_process promise_keptBy_journal g.profile g.cells.length
    hrole e g.network
  change Session.KeyEffect _ _ _ (g.outcomeOf s e) at heffect
  have hself := dispatch_session?_self hs e
  rw [dispatch_registry hs]
  cases heffect with
  | kept hkey hchanges =>
    rw [hchanges]
    exact ⟨fun k hk => hwithin.own k (hkey.symm.trans hk), fun _ _ => rfl⟩
  | released hsession hchanges =>
    rw [hchanges, hsession]
    refine ⟨nofun, fun other hother => ?_⟩
    rw [Registry.get?_after_unbound, if_neg]
    rintro ⟨hown, -⟩
    exact hother (hwithin.own other hown)
  | taken k hcommand hready hkey hchanges hstate =>
    obtain ⟨hasked, hregistrations⟩ := he.command hcommand
    have hexchange := Session.exchange_of_asked g.profile g.cells.length hrole hready hasked g.network
    change s.Exchanges e (g.outcomeOf s e) at hexchange
    obtain ⟨told, hexchange, -⟩ := hexchange
    have hregisters : (g.outcomeOf s e).session.state.isRegistration = true := by
      refine hstate.resolve_right fun hcalls => ?_
      rcases hexchange.state (.inl hready) with h | h <;> rw [hcalls] at h <;> cases h
    obtain ⟨k', hk', hshared⟩ := hafter.registers who _ hself hregisters
    obtain rfl : k' = key := by
      rw [hkept, hregistrations] at hshared
      exact (Option.some.inj hshared).symm
    obtain rfl : k = k' := Option.some.inj (hkey.symm.trans hk')
    rw [hchanges]
    refine ⟨fun k' hk' => Option.some.inj (hk'.symm.trans hkey), fun other hother => ?_⟩
    exact get?_after_rebound_of_within hwithin hother
  | renewed r credentials t hr ht hs hkey hchanges =>
    obtain rfl : t.callId = key := ht.2.trans (he.response r hr)
    rw [hchanges]
    refine ⟨fun k hk => Option.some.inj (hk.symm.trans hkey), fun other hother => ?_⟩
    exact get?_after_rebound_of_within hwithin hother

/-- An event that is about the key alone, for a session that holds nothing else: what is asked of the
network goes out under the key. -/
lemma confined_dispatch (hs : g.session? id = some s) (hwithin : s.Within key)
    (he : e.Within g.network.network.registrationCallId key)
    (hcells : ∀ i, i ≠ who → (g.dispatch id e).group.cells[i]? = g.cells[i]?)
    (hkeys : ∀ other, other ≠ key →
      (g.dispatch id e).group.registry.get? other = g.registry.get? other)
    (howner : ∀ i, (g.dispatch id e).group.registry.get? key = some i →
      i = who ∨ g.registry.get? key = some i) :
    Confined key who g (g.dispatch id e).group where
  toSameSetup := .dispatch g id e
  cells := hcells
  keys := hkeys
  owner := howner
  receiver := dispatch_registry_receiver g id e
  books _ := books_dispatch g id e
  network := by
    rw [network_dispatch hs, Session.process_snd]
    exact .run (hwithin.gives_script he g.profile g.cells.length) rfl
  calls := ⟨_, calls_dispatch hs e,
    (hwithin.gives_script he g.profile g.cells.length).calls (Promise.nothing_keptBy _) _⟩

/-- Whatever happens to the session of a call stays within the call. -/
theorem Handles.dispatch (h : Handles key who g)
    (he : e.Within g.network.network.registrationCallId key)
    (hfeeds : Feeds Signal.Coherent g who e) :
    Handles key who (g.dispatch who e).group ∧ Confined key who g (g.dispatch who e).group ∧
      ∀ d ∈ (g.dispatch who e).deliveries, About key who (g.dispatch who e).group d := by
  obtain ⟨s, a, hcell, hrole, hwithin⟩ := h.cell
  have hs : g.session? who = some s := session?_eq_some.mpr ⟨a, hcell⟩
  have hafter := h.regular.feeds hfeeds
  have hnetwork : g.network.network.Carries key (g.dispatch who e).group.network.network := by
    rw [network_dispatch hs, Session.process_snd]
    exact .run (hwithin.gives_script he g.profile g.cells.length) rfl
  obtain ⟨hown, hkeys⟩ := keys_dispatch hs hrole hwithin he hafter hnetwork.registrationCallId
  obtain ⟨hid, hdialog, hreports⟩ :=
    Session.process_session g.profile g.cells.length hrole e g.network
  have hspawned := (Session.keyEffect_process (Promise.nothing_keptBy _) g.profile g.cells.length
    hrole e g.network).2
  refine ⟨⟨hafter, _, a, dispatch_cells_self hcell e, hdialog, ?_⟩,
    confined_dispatch hs hwithin he (fun i hi => ?_) hkeys fun i hi => ?_, fun d hd => ?_⟩
  · exact (hafter.shaped who _ (dispatch_session?_self hs e) hdialog).within hown
  · rw [dispatch_cells? hcell, if_neg hi]
    split
    · next hlength =>
      rw [outcomeOf, hspawned, hlength, List.getElem?_eq_none (Nat.le_refl _)]
      rfl
    · rfl
  · rw [dispatch_registry hs] at hi
    have hself := Session.selfContained_process g.profile g.cells.length s e g.network
    rcases Registry.get?_of_after hi with hi | ⟨change, hchange, hsession⟩
    · exact .inr hi
    rcases hself.changes change hchange with hsame | ⟨t, ht, -⟩
    · exact .inl (by rw [← hsession, hsame, hid, h.regular.sound.numbered who s hs])
    · rw [hspawned] at ht
      cases ht
  · rw [dispatch_deliveries hcell] at hd
    obtain ⟨report, hreport, rfl⟩ := List.mem_map.mp hd
    refine ⟨(hreports report hreport).trans (h.regular.sound.numbered who s hs), ?_⟩
    intro duration hdone
    obtain ⟨-, -, hbusy, -⟩ :=
      Session.response_of_done g.profile g.cells.length hrole g.network hreport hdone
    obtain ⟨k, hk, hshared⟩ := h.regular.registers who s hs hbusy
    rw [hnetwork.registrationCallId, hshared, hwithin.own k hk]

/-! ### Handing over -/

lemma About.of_eq {d : Delivery} (h : About key who g d)
    (hsame : g'.network.network.registrationCallId = g.network.network.registrationCallId) :
    About key who g' d :=
  ⟨h.session, fun duration hdone => hsame.trans (h.done duration hdone)⟩

lemma Handles.files (h : Handles key who g) (hfiles : Files g g') : Handles key who g' := by
  obtain ⟨s, a, hcell, hs⟩ := h.cell
  have hrests : Rests g g' :=
    .of_eq hfiles.profile hfiles.closed hfiles.registry hfiles.cells hfiles.network
  exact ⟨h.regular.rests hrests, s, a, hfiles.cells ▸ hcell, hs⟩

/-- A registration that is asked for goes out under the key. -/
lemma within_register {registrations : Option CallId} (h : registrations = some key)
    (expiry : UInt32) : (SessionEvent.register expiry).Within registrations key where
  request r he := by cases he
  response r he := by cases he
  dialog d hd := by cases hd
  command _ := ⟨rfl, h⟩

/-- A notice about the session concerns nobody else, even when it makes the supervisor ask for another
registration. -/
theorem Handles.handOver (h : Handles key who g) {d : Delivery} (hd : About key who g d) :
    Handles key who (g.handOver d).group ∧ Confined key who g (g.handOver d).group ∧
      ∀ d' ∈ (g.handOver d).deliveries, About key who (g.handOver d).group d' := by
  obtain rfl := hd.session
  have htold : About key d.session g (g.tellListener d.session d.notice) := ⟨rfl, hd.done⟩
  rw [handOver_eq]
  split
  · next htakes =>
    simp only [takesNotice, supervises, Bool.and_eq_true, decide_eq_true_eq] at htakes
    have hwho : g.supervisor.session = some d.session := htakes.1.2.2
    split
    · next hasks =>
      have hended : Files g g.ended := .revise rfl
      have hshared : g.network.network.registrationCallId = some key := by
        cases hnotice : d.notice with
        | registrationDone duration => exact hd.done duration hnotice
        | _ =>
          rw [hnotice] at hasks
          cases hasks
      obtain ⟨hhandles, hconfined, habout⟩ :=
        (h.files hended).dispatch (within_register hshared g.settings.expiry)
          (.command d.session rfl)
      refine ⟨hhandles, .trans (.of_files hended hwho) hconfined, fun d' hd' => ?_⟩
      rcases List.mem_cons.mp hd' with rfl | hd'
      · exact htold.of_eq hconfined.network.registrationCallId
      · exact habout d' hd'
    · have hfiles := Files.noting g d.session d.notice
      refine ⟨h.files hfiles, .of_files hfiles hwho, List.forall_mem_singleton.mpr ?_⟩
      exact htold.of_eq (by rw [hfiles.network])
  · exact ⟨h, .refl key d.session g, by simp⟩

/-- Whatever comes of notices about a session stays within its call. -/
theorem Handles.settle (h : Handles key who g) {ds : List Delivery}
    (hds : ∀ d ∈ ds, About key who g d) :
    Handles key who (g.settle ds).1 ∧ Confined key who g (g.settle ds).1 ∧
      ∀ d ∈ (g.settle ds).2, d.session = who := by
  induction g, ds using settle.induct with
  | case1 g =>
    rw [settle_nil]
    exact ⟨h, .refl key who g, by simp⟩
  | case2 g d waiting ih =>
    have hd := hds d List.mem_cons_self
    obtain ⟨hhandles, hconfined, habout⟩ := h.handOver hd
    obtain ⟨hhandles', hconfined', hsessions⟩ := ih hhandles fun d' hd' => by
      rcases List.mem_append.mp hd' with hd' | hd'
      · exact habout d' hd'
      · exact (hds d' (List.mem_cons_of_mem _ hd')).of_eq hconfined.network.registrationCallId
    rw [settle_cons]
    refine ⟨hhandles', hconfined.trans hconfined', fun d' hd' => ?_⟩
    rcases List.mem_cons.mp hd' with rfl | hd'
    · exact hd.session
    · exact hsessions d' hd'

end Group

end SipAgent
