import SipAgent.Proofs.Group.Isolation
import SipAgent.Proofs.Session.Renaming

/-!
# The same signal in another group

What a group makes of a signal depends on little of it: on the session that the signal concerns, on
its key, on the books if this session is supervised, and on the moment at which identifiers are
drawn. Two groups that agree on all of this (`Group.Matching`) go on agreeing while notices are
handed over, and tell the same (`Matching.settle`), so the signal leads to the same session with
other names in it.
-/

namespace SipAgent

lemma Registry.get?_after_congr {r r' : Registry SessionId} {key : CallId}
    (h : r'.get? key = r.get? key) (changes : List KeyChange) :
    (r'.after changes).get? key = (r.after changes).get? key := by
  induction changes generalizing r r' with
  | nil => exact h
  | cons change later ih =>
    refine ih ?_
    cases change with
    | bind id k =>
      simp only [Group.applyKeyChange, Registry.get?_insert, h]
    | unbind id k =>
      simp only [Group.applyKeyChange, Registry.get?_remove]
      by_cases hk : key = k
      · rw [← hk, h]
      · simp [hk, h]

namespace Group

variable {key : CallId} {who : SessionId} {draws : Nat} {s s' : Session} {e : SessionEvent}
  {g₀ g₀' g g' : Group (Journal Recorder)}

/-- Both groups agree on what a call depends on, but for names that were drawn since two moments. -/
structure Matching (key : CallId) (who : SessionId) (g₀ g₀' : Group (Journal Recorder)) (draws : Nat)
    (g g' : Group (Journal Recorder)) : Prop extends SameSetup g g' where
  books : g.supervisor.session = some who → g'.books = g.books
  cell : ∃ s s' a, g.cells[who]? = some ⟨s, a⟩ ∧ g'.cells[who]? = some ⟨s', a⟩ ∧
    s.Renamed (IdSupply.Drawn g₀.network.network.supply g₀'.network.network.supply draws) s'
  key : g'.registry.get? key = g.registry.get? key
  network : Recorder.Abreast g₀.network.network g₀'.network.network draws g.network.network
    g'.network.network

namespace Matching

/-- An event of which the sessions make the same. -/
lemma dispatch (h : Matching key who g₀ g₀' draws g g') {a : Addressee}
    (hcell : g.cells[who]? = some ⟨s, a⟩) (hcell' : g'.cells[who]? = some ⟨s', a⟩)
    (halike : Session.RunAlike g₀.network.network g₀'.network.network draws
      (s.process g.profile g.cells.length e g.network.network)
      (s'.process g.profile g'.cells.length e g'.network.network)) :
    ∃ draws', draws ≤ draws' ∧
      Matching key who g₀ g₀' draws' (g.dispatch who e).group (g'.dispatch who e).group ∧
      (g'.dispatch who e).deliveries = (g.dispatch who e).deliveries := by
  obtain ⟨draws', hle, houtcome, hnet⟩ := halike
  have hs : g.session? who = some s := session?_eq_some.mpr ⟨a, hcell⟩
  have hs' : g'.session? who = some s' := session?_eq_some.mpr ⟨a, hcell'⟩
  rw [← outcomeOf_journal, ← h.profile, ← outcomeOf_journal] at houtcome
  rw [← network_dispatch hs, ← h.profile, ← network_dispatch hs'] at hnet
  have hbefore := (SameSetup.dispatch g who e).symm.trans h.toSameSetup
  refine ⟨draws', hle, ⟨hbefore.trans (.dispatch g' who e), ?_, ?_, ?_, hnet⟩, ?_⟩
  · intro hwho
    rw [supervisor_dispatch] at hwho
    rw [books_dispatch g who e, books_dispatch g' who e]
    exact h.books hwho
  · exact ⟨_, _, a, dispatch_cells_self hcell e, dispatch_cells_self hcell' e, houtcome.session⟩
  · rw [dispatch_registry hs, dispatch_registry hs', houtcome.keyChanges]
    exact Registry.get?_after_congr h.key _
  · rw [dispatch_deliveries hcell, dispatch_deliveries hcell', houtcome.reports]

/-- A signal of which both groups know the same. -/
lemma signal (h : Matching key who g₀ g₀' draws g g') (hg : Handles key who g)
    (hcell : g'.cells[who]? = g.cells[who]?) (he : e.isCommand = false) :
    ∃ draws', draws ≤ draws' ∧
      Matching key who g₀ g₀' draws' (g.dispatch who e).group (g'.dispatch who e).group ∧
      (g'.dispatch who e).deliveries = (g.dispatch who e).deliveries := by
  obtain ⟨s, a, hs, hrole, -⟩ := hg.cell
  refine h.dispatch hs (hcell.trans hs) ?_
  refine Session.process_signal_alike h.network g.profile _ _ hrole he fun hstate => ?_
  cases hg.regular.shaped who s (session?_eq_some.mpr ⟨a, hs⟩) hrole with
  | idle => cases hstate
  | busy k hb =>
    obtain ⟨⟨d, hd⟩, -⟩ := hb.call (by rw [hstate]; rfl)
    rw [hd]
    rfl

/-- A registration that both groups ask for. -/
lemma register (h : Matching key who g₀ g₀' draws g g') (hg : Handles key who g)
    (hg' : Handles key who g') (hshared : g.network.network.registrationCallId = some key)
    (expiry : UInt32) :
    ∃ draws', draws ≤ draws' ∧
      Matching key who g₀ g₀' draws' (g.dispatch who (.register expiry)).group
        (g'.dispatch who (.register expiry)).group ∧
      (g'.dispatch who (.register expiry)).deliveries =
        (g.dispatch who (.register expiry)).deliveries := by
  obtain ⟨s, s', a, hs, hs', hrenamed⟩ := h.cell
  obtain ⟨t, b, ht, hrole, -⟩ := hg.cell
  obtain ⟨rfl, rfl⟩ : t = s ∧ b = a := by
    rw [hs] at ht
    cases ht
    exact ⟨rfl, rfl⟩
  have hid := hg.regular.sound.numbered who t (session?_eq_some.mpr ⟨b, hs⟩)
  have hid' := hg'.regular.sound.numbered who s' (session?_eq_some.mpr ⟨b, hs'⟩)
  refine h.dispatch hs hs' ?_
  exact Session.process_register_alike h.network g.profile _ _ hrole (hid'.trans hid.symm) hrenamed
    hshared expiry

/-- What the supervisor puts down is the same in both groups. -/
lemma files {f : Group (Journal Recorder) → Group (Journal Recorder)}
    (h : Matching key who g₀ g₀' draws g g') (hfiles : ∀ g, Files g (f g))
    (hbooks : g.supervisor.session = some who → (f g').books = (f g).books) :
    Matching key who g₀ g₀' draws (f g) (f g') where
  toSameSetup := ((hfiles g).toSameSetup.symm.trans h.toSameSetup).trans (hfiles g').toSameSetup
  books := by
    rw [(hfiles g).supervised]
    exact hbooks
  cell := by
    rw [(hfiles g).cells, (hfiles g').cells]
    exact h.cell
  key := by rw [(hfiles g).registry, (hfiles g').registry, h.key]
  network := by
    rw [(hfiles g).network, (hfiles g').network]
    exact h.network

/-- A group with the same books is the same but for sessions, keys and network. -/
lemma eq_among (h : Matching key who g₀ g₀' draws g g') (hwho : g.supervisor.session = some who) :
    g' = g.among g'.cells g'.registry g'.network := by
  have hbooks := h.books hwho
  have hsupervisor : g'.supervisor = g.supervisor := congrArg Books.supervisor hbooks
  have htimer : g'.timer = g.timer := congrArg Books.timer hbooks
  have hkeepalives : g'.keepalives = g.keepalives := congrArg Books.keepalives hbooks
  have hprofile := h.profile
  have hsettings := h.settings
  have hnow := h.now
  have hclosed := h.closed
  have hconnected := h.connected
  clear h hbooks hwho
  cases g
  cases g'
  dsimp only at *
  subst hsupervisor htimer hkeepalives hprofile hsettings hnow hclosed hconnected
  rfl

/-- Handing a notice over that is about the session causes the same in both groups. -/
lemma handOver (h : Matching key who g₀ g₀' draws g g') (hg : Handles key who g)
    (hg' : Handles key who g') {d : Delivery} (hd : About key who g d) :
    ∃ draws', draws ≤ draws' ∧
      Matching key who g₀ g₀' draws' (g.handOver d).group (g'.handOver d).group ∧
      (g'.handOver d).deliveries = (g.handOver d).deliveries := by
  obtain rfl := hd.session
  by_cases hwho : g.supervisor.session = some d.session
  · have hamong := h.eq_among hwho
    have hsupervisor : g'.supervisor = g.supervisor := congrArg Books.supervisor (h.books hwho)
    have htakes : g'.takesNotice d = g.takesNotice d := by
      simp only [takesNotice, supervises, hsupervisor]
    have hasks : g'.asksAgain d.notice = g.asksAgain d.notice := by
      cases d.notice <;> simp only [asksAgain, h.connected]
    have htold : g'.tellListener d.session d.notice = g.tellListener d.session d.notice := by
      simp only [tellListener, hsupervisor]
    rw [handOver_eq, handOver_eq, htakes, hasks, htold, h.settings]
    split
    · split
      · next hagain =>
        have hended : ∀ g : Group (Journal Recorder), Files g g.ended := fun g => .revise rfl
        have hbooks : g.supervisor.session = some d.session → g'.ended.books = g.ended.books := by
          intro _
          rw [hamong]
          rfl
        have hshared : g.network.network.registrationCallId = some key := by
          cases hnotice : d.notice with
          | registrationDone duration => exact hd.done duration hnotice
          | _ =>
            rw [hnotice] at hagain
            cases hagain
        obtain ⟨draws', hle, hmatching, hsame⟩ := (h.files hended hbooks).register
          (hg.files (hended g)) (hg'.files (hended g')) hshared g.settings.expiry
        exact ⟨draws', hle, hmatching, congrArg (_ :: ·) hsame⟩
      · have hbooks : g.supervisor.session = some d.session →
            (g'.noting d.session d.notice).books = (g.noting d.session d.notice).books := by
          intro _
          rw [hamong, noting_among]
          · rfl
          · exact h.network.address
        refine ⟨draws, Nat.le_refl _, ?_, rfl⟩
        exact h.files (fun g => Files.noting g d.session d.notice) hbooks
    · exact ⟨draws, Nat.le_refl _, h, rfl⟩
  · have hnot : g.takesNotice d = false := by
      simp [takesNotice, supervises, hwho]
    have hnot' : g'.takesNotice d = false := by
      simp [takesNotice, supervises, h.supervised, hwho]
    rw [handOver_eq, handOver_eq, hnot, hnot']
    exact ⟨draws, Nat.le_refl _, h, rfl⟩

/-- Both groups are told the same, and agree when nothing is left to hand over. -/
theorem settle {ds : List Delivery} (h : Matching key who g₀ g₀' draws g g')
    (hg : Handles key who g) (hg' : Handles key who g') (hds : ∀ d ∈ ds, About key who g d) :
    ∃ draws', draws ≤ draws' ∧
      Matching key who g₀ g₀' draws' (g.settle ds).1 (g'.settle ds).1 ∧
      (g'.settle ds).2 = (g.settle ds).2 := by
  induction g, ds using settle.induct generalizing g' draws with
  | case1 g =>
    rw [settle_nil, settle_nil]
    exact ⟨draws, Nat.le_refl _, h, rfl⟩
  | case2 g d waiting ih =>
    have hd := hds d List.mem_cons_self
    have hd' : About key who g' d := hd.of_eq h.network.registrationCallId
    obtain ⟨draws₁, hle₁, hmatching, hsame⟩ := h.handOver hg hg' hd
    obtain ⟨hhandles, hconfined, habout⟩ := hg.handOver hd
    obtain ⟨hhandles', -, -⟩ := hg'.handOver hd'
    have hwaiting : ∀ d' ∈ (g.handOver d).deliveries ++ waiting,
        About key who (g.handOver d).group d' := by
      intro d' hd'
      rcases List.mem_append.mp hd' with hd' | hd'
      · exact habout d' hd'
      · exact (hds d' (List.mem_cons_of_mem _ hd')).of_eq hconfined.network.registrationCallId
    obtain ⟨draws₂, hle₂, hmatching', hsame'⟩ := ih hmatching hhandles hhandles' hwaiting
    rw [settle_cons, settle_cons, hsame]
    exact ⟨draws₂, Nat.le_trans hle₁ hle₂, hmatching', by rw [hsame']⟩

end Matching

end Group

end SipAgent
