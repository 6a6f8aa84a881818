import SipAgent.Proofs.Group.Replay

/-!
# What a signal does, as data

Over a recorder that refuses nothing, a signal puts one session in its place, gives its key an owner
or none, tells something about this session and records some commands: `Group.Patch`. Two groups that
agree on what the call depends on, `Group.Agrees`, get the same patch, but for the number of a session
that is created and for the names that are drawn (`Group.heed_patched`).
-/

namespace SipAgent

namespace Group

variable {g g' : Group (Journal Recorder)} {h h' : Group (Journal Recorder) × List Delivery}
  {key : CallId} {who id : SessionId} {m : Signal} {c : Cell} {more : List Recorded} {draws : Nat}

/-- What a signal does to a group. -/
structure Patch where
  /-- The session that is changed or created, and what becomes of it. -/
  touched : Option (SessionId × Cell)
  /-- Whether this session owns the key afterwards. -/
  owned : Bool
  /-- What is told about this session, and to whom. -/
  told : List (Addressee × Notice)
  recorded : List Recorded
  draws : Nat

namespace Patch

/-- The session that is changed or created. -/
def number (p : Patch) : Option SessionId :=
  p.touched.map (·.1)

/-- The cell that the patch puts in a place. -/
def cell? (p : Patch) (i : SessionId) : Option Cell :=
  p.touched.bind fun touched => if touched.1 = i then some touched.2 else none

/-- The notices of a patch. -/
def deliveries (p : Patch) : List Delivery :=
  p.number.elim [] fun i => p.told.map fun told => ⟨told.1, i, told.2⟩

/-- A group becomes what the patch makes of it. -/
structure Applies (p : Patch) (key : CallId) (g : Group (Journal Recorder))
    (h : Group (Journal Recorder) × List Delivery) : Prop where
  cells : ∀ i, h.1.cells[i]? = (p.cell? i).or g.cells[i]?
  owner : h.1.registry.get? key = if p.owned then p.number else none
  keys : ∀ other, other ≠ key → h.1.registry.get? other = g.registry.get? other
  told : h.2 = p.deliveries
  commands : h.1.network.network.commands = g.network.network.commands ++ p.recorded
  recorded : ∀ c ∈ p.recorded, c.callId? = some key
  supply : h.1.network.network.supply = g.network.network.supply.after p.draws

/-- The same patch, but for the number of the session and the names that it holds. -/
structure Renamed (pairs : IdSupply → IdSupply → Prop) (p p' : Patch) : Prop where
  touched : Option.Rel
    (fun t t' => t'.2.addressee = t.2.addressee ∧ t.2.session.Renamed pairs t'.2.session)
    p.touched p'.touched
  owned : p'.owned = p.owned
  told : p'.told = p.told
  recorded : p'.recorded = p.recorded
  draws : p'.draws = p.draws

lemma Renamed.mono {pairs pairs' : IdSupply → IdSupply → Prop} {p p' : Patch}
    (h : p.Renamed pairs p') (hpairs : ∀ u v, pairs u v → pairs' u v) : p.Renamed pairs' p' :=
  { h with touched := h.touched.weaken fun _ _ ht => ⟨ht.1, ht.2.mono hpairs⟩ }

lemma Renamed.symm {pairs pairs' : IdSupply → IdSupply → Prop} {p p' : Patch}
    (h : p.Renamed pairs p') (hpairs : ∀ u v, pairs u v → pairs' v u) : p'.Renamed pairs' p :=
  ⟨h.touched.turned fun _ _ ht => ⟨ht.1.symm, ht.2.symm hpairs⟩, h.owned.symm, h.told.symm,
    h.recorded.symm, h.draws.symm⟩

/-- The patch that a session gets. -/
def of (key : CallId) (who : SessionId) (c : Cell) (more : List Recorded) (draws : Nat)
    (h : Group (Journal Recorder) × List Delivery) : Patch where
  touched := some (who, c)
  owned := (h.1.registry.get? key).isSome
  told := h.2.map fun d => (d.addressee, d.notice)
  recorded := more
  draws := draws

/-- The patch of a signal of which nothing comes but commands. -/
def idle (more : List Recorded) (draws : Nat) : Patch :=
  ⟨none, false, [], more, draws⟩

lemma applies_of (hconfined : Confined key who g h.1) (hcell : h.1.cells[who]? = some c)
    (hown : ∀ i, g.registry.get? key = some i → i = who) (htold : ∀ d ∈ h.2, d.session = who)
    (hmore : h.1.network.network.commands = g.network.network.commands ++ more)
    (hdraws : h.1.network.network.supply = g.network.network.supply.after draws) :
    (of key who c more draws h).Applies key g h where
  cells i := by
    by_cases hi : who = i
    · simp [cell?, of, ← hi, hcell]
    · simp [cell?, of, hi, hconfined.cells i (Ne.symm hi)]
  owner := by
    cases howner : h.1.registry.get? key with
    | none => simp [of, howner]
    | some i =>
      have hi : i = who := (hconfined.owner i howner).elim id (hown i)
      simp [of, howner, number, hi]
  keys := hconfined.keys
  told := by
    simp only [deliveries, number, of, Option.map_some, Option.elim_some, List.map_map]
    refine (List.map_id _).symm.trans (List.map_congr_left fun d hd => ?_)
    simp only [Function.comp, id_eq, ← htold d hd]
  commands := hmore
  recorded := by
    obtain ⟨more', hmore', hkey⟩ := hconfined.network.commands
    obtain rfl := List.append_cancel_left (hmore.symm.trans hmore')
    exact hkey
  supply := hdraws

end Patch

/-! ### One patch for two groups -/

/-- Both groups agree on what the call under a key depends on, and refuse nothing. -/
structure Agrees (key : CallId) (g g' : Group (Journal Recorder)) : Prop
    extends SameSetup g g' where
  books : ∀ who, g.registry.get? key = some who → g.supervisor.session = some who →
    g'.books = g.books
  owner : ∀ who, g.registry.get? key = some who → g'.cells[who]? = g.cells[who]?
  key : g'.registry.get? key = g.registry.get? key
  receiver : g'.registry.receiver = g.registry.receiver
  receiving : ∀ id, g.registry.receiver = some id → g'.cells[id]? = g.cells[id]?
  network : Recorder.Abreast g.network.network g'.network.network 0 g.network.network
    g'.network.network

/-- The session that a signal concerns has the same number in both groups if it owns the key, else it
comes after all others. -/
inductive Placed (key : CallId) (g g' : Group (Journal Recorder)) (p p' : Patch) : Prop where
  | owner (who : SessionId) (h : g.registry.get? key = some who) (hp : p.number = some who)
      (hp' : p'.number = some who)
  | nobody (h : g.registry.get? key = none) (hp : p.number = none) (hp' : p'.number = none)
  | created (h : g.registry.get? key = none) (hp : p.number = some g.cells.length)
      (hp' : p'.number = some g'.cells.length)

/-- The signal leads to the same patch in both groups. -/
def SamePatch (key : CallId) (g g' : Group (Journal Recorder))
    (h h' : Group (Journal Recorder) × List Delivery) : Prop :=
  ∃ p p' : Patch, p.Applies key g h ∧ p'.Applies key g' h' ∧
    p.Renamed (IdSupply.Drawn g.network.network.supply g'.network.network.supply p.draws) p' ∧
    Placed key g g' p p'

lemma Signal.isCommand_ofSignal (m : Signal) : (SessionEvent.ofSignal m).isCommand = false := by
  cases m <;> rfl

/-- The owner of the key gets the same patch, and if it is supervised, the books are the same
afterwards. -/
lemma heed_patched_of_owner (hg : Regular g) (hg' : Regular g') (hopen : g.closed = false)
    (hm : m.Coherent) (hagrees : Agrees m.key g g') (hkey : g.registry.get? m.key = some who) :
    SamePatch m.key g g' (g.heed m) (g'.heed m) ∧
      (g.supervisor.session = some who → (g'.heed m).1.books = (g.heed m).1.books) := by
  have hkey' := hagrees.key.trans hkey
  have hopen' := hagrees.closed.trans hopen
  have hresolve : g.registry.resolve m.key = some who := by rw [Registry.resolve, hkey]
  have hresolve' : g'.registry.resolve m.key = some who := by rw [Registry.resolve, hkey']
  have hhandles := hg.handles hkey
  have hhandles' := hg'.handles hkey'
  have hstart : Matching m.key who g g' 0 g g' := by
    obtain ⟨s, a, hcell, -⟩ := hhandles.cell
    have hcell' := (hagrees.owner who hkey).trans hcell
    exact ⟨hagrees.toSameSetup, hagrees.books who hkey, ⟨s, s, a, hcell, hcell', .refl _ s⟩,
      hagrees.key, hagrees.network⟩
  obtain ⟨draws₁, -, hmatching₁, hdeliveries⟩ :=
    hstart.signal hhandles (hagrees.owner who hkey) (Signal.isCommand_ofSignal m)
  obtain ⟨hfed, hconfined, habout⟩ := hhandles.dispatch (hm.within _) (.signal hm hresolve)
  obtain ⟨hfed', hconfined', habout'⟩ := hhandles'.dispatch (hm.within _) (.signal hm hresolve')
  rw [hdeliveries] at habout'
  obtain ⟨draws, -, hmatching, htold⟩ := hmatching₁.settle hfed hfed' habout
  obtain ⟨-, hsettled, hsessions⟩ := hfed.settle habout
  obtain ⟨-, hsettled', hsessions'⟩ := hfed'.settle habout'
  rw [heed_of_resolve hopen hresolve, heed_of_resolve hopen' hresolve', hdeliveries]
  have hall := hconfined.trans hsettled
  have hall' := hconfined'.trans hsettled'
  have hown : ∀ i, g.registry.get? m.key = some i → i = who := by
    intro i hi
    exact Option.some.inj (hi.symm.trans hkey)
  have hown' : ∀ i, g'.registry.get? m.key = some i → i = who := by
    intro i hi
    exact Option.some.inj (hi.symm.trans hkey')
  obtain ⟨s, s', a, hcell, hcell', hrenamed⟩ := hmatching.cell
  obtain ⟨more, hmore, hmore'⟩ := hmatching.network.commands
  have hpatch := Patch.applies_of hall hcell hown hsessions hmore hmatching.network.supply
  have hpatch' := Patch.applies_of hall' hcell' hown' hsessions' hmore' hmatching.network.supply'
  constructor
  · refine ⟨_, _, hpatch, hpatch', ?_, .owner who hkey rfl rfl⟩
    constructor
    · exact .some ⟨rfl, hrenamed⟩
    · simp only [Patch.of, hmatching.key]
    · simp only [Patch.of, htold]
    · rfl
    · rfl
  · intro hwho
    apply hmatching.books
    rw [hall.supervised, hwho]

/-- A signal of which nothing comes but commands. -/
lemma Patch.applies_idle (hcells : ∀ i : SessionId, h.1.cells[i]? = g.cells[i]?)
    (hkeys : ∀ k, h.1.registry.get? k = g.registry.get? k) (hkey : g.registry.get? key = none)
    (htold : h.2 = [])
    (hmore : h.1.network.network.commands = g.network.network.commands ++ more)
    (hrecorded : ∀ c ∈ more, c.callId? = some key)
    (hdraws : h.1.network.network.supply = g.network.network.supply.after draws) :
    (idle more draws).Applies key g h where
  cells := hcells
  owner := (hkeys key).trans hkey
  keys other _ := hkeys other
  told := htold
  commands := hmore
  recorded := hrecorded
  supply := hdraws

/-- A receiver that only answers changes nothing. -/
lemma applies_of_declined {a : Addressee} {processed : Bool} {e : SessionEvent}
    (hcell : g.cells[id]? = some ⟨.idle id .receiver, a⟩)
    (ho : g.outcomeOf (.idle id .receiver) e = ⟨.idle id .receiver, processed, [], [], none⟩)
    (hkey : g.registry.get? key = none)
    (hconfined : Confined key who g (g.dispatch id e).group)
    (hmore : (g.dispatch id e).group.network.network.commands =
      g.network.network.commands ++ more)
    (hdraws : (g.dispatch id e).group.network.network.supply =
      g.network.network.supply.after draws) :
    (Patch.idle more draws).Applies key g ((g.dispatch id e).group, (g.dispatch id e).deliveries) := by
  refine Patch.applies_idle (fun i => ?_) (fun k => ?_) hkey ?_ hmore ?_ hdraws
  · rw [dispatch_cells? hcell, ho]
    split_ifs with hi hlength
    · rw [hi, hcell]
    · rw [hlength, List.getElem?_eq_none (Nat.le_refl _)]
      rfl
    · rfl
  · rw [dispatch_registry (session?_eq_some.mpr ⟨a, hcell⟩), ho, Registry.after_nil]
  · rw [dispatch_deliveries hcell, ho]
    rfl
  · obtain ⟨more', hmore', hrecorded⟩ := hconfined.network.commands
    obtain rfl := List.append_cancel_left (hmore.symm.trans hmore')
    exact hrecorded

/-- A receiver that takes a call in creates a session, tells that a call has come in, and lets the
session own the key. -/
lemma dispatch_created {a : Addressee} {e : SessionEvent} {s t : Session} {notice : Notice}
    (hcell : g.cells[id]? = some ⟨s, a⟩)
    (ho : g.outcomeOf s e =
      ⟨s, true, [⟨g.cells.length, notice⟩], [.bind g.cells.length key], some t⟩) :
    (g.dispatch id e).group.cells[g.cells.length]? = some ⟨t, a⟩ ∧
      (g.dispatch id e).group.registry.get? key = some g.cells.length ∧
      (g.dispatch id e).deliveries = [⟨a, g.cells.length, notice⟩] := by
  have hid : g.cells.length ≠ id := Nat.ne_of_gt (List.getElem?_eq_some_iff.mp hcell).1
  refine ⟨?_, ?_, ?_⟩
  · rw [dispatch_cells? hcell, if_neg hid, if_pos rfl, ho]
    rfl
  · rw [dispatch_registry (session?_eq_some.mpr ⟨a, hcell⟩), ho, Registry.after_bind,
      Registry.get?_insert, if_pos rfl]
  · rw [dispatch_deliveries hcell, ho]
    rfl

/-- A signal that the receiver gets leads to the same patch. -/
lemma heed_patched_of_receiver (hg : Regular g) (hg' : Regular g') (hopen : g.closed = false)
    (hm : m.Coherent) (hagrees : Agrees m.key g g') (hkey : g.registry.get? m.key = none)
    (hreceiver : g.registry.receiver = some id) :
    SamePatch m.key g g' (g.heed m) (g'.heed m) := by
  have hkey' := hagrees.key.trans hkey
  have hopen' := hagrees.closed.trans hopen
  have hreceiver' := hagrees.receiver.trans hreceiver
  have hresolve : g.registry.resolve m.key = some id := by
    rw [Registry.resolve, hkey, hreceiver]
  have hresolve' : g'.registry.resolve m.key = some id := by
    rw [Registry.resolve, hkey', hreceiver']
  have hs := hg.sound.receiver id hreceiver
  have hs' := hg'.sound.receiver id hreceiver'
  obtain ⟨a, hcell⟩ := session?_eq_some.mp hs
  have hcell' := (hagrees.receiving id hreceiver).trans hcell
  obtain ⟨hconfined, _, -, hignored⟩ := confined_receiver hs hm
  obtain ⟨hconfined', _, -, hignored'⟩ := confined_receiver hs' hm
  rw [heed_of_resolve hopen hresolve, settle_of_ignored _ fun d hd => (hignored d hd).1,
    heed_of_resolve hopen' hresolve', settle_of_ignored _ fun d hd => (hignored' d hd).1]
  obtain ⟨draws, -, hnet, houtcomes⟩ := Session.process_receiver_alike hagrees.network g.profile
    g.cells.length g'.cells.length id (.ofSignal m)
  rw [← outcomeOf_journal, ← hagrees.profile, ← outcomeOf_journal] at houtcomes
  rw [← network_dispatch hs, ← hagrees.profile, ← network_dispatch hs'] at hnet
  obtain ⟨more, hmore, hmore'⟩ := hnet.commands
  rcases houtcomes with ⟨processed, ho, ho'⟩ | ⟨r, tag, tag', he, htag, ho, ho'⟩
  · exact ⟨_, _, applies_of_declined hcell ho hkey hconfined hmore hnet.supply,
      applies_of_declined hcell' ho' hkey' hconfined' hmore' hnet.supply',
      ⟨.none, rfl, rfl, rfl, rfl⟩, .nobody hkey rfl rfl⟩
  · have hcallId : r.callId = m.key := (hm.within none).request r he
    rw [hcallId] at ho ho'
    obtain ⟨hcreated, howner, htold⟩ := dispatch_created hcell ho
    obtain ⟨hcreated', howner', htold'⟩ := dispatch_created hcell' ho'
    have hfree : ∀ i, g.registry.get? m.key = some i → i = g.cells.length := by simp [hkey]
    have hfree' : ∀ i, g'.registry.get? m.key = some i → i = g'.cells.length := by simp [hkey']
    have habout : ∀ d ∈ (g.dispatch id (.ofSignal m)).deliveries, d.session = g.cells.length := by
      simp [htold]
    have habout' : ∀ d ∈ (g'.dispatch id (.ofSignal m)).deliveries,
        d.session = g'.cells.length := by
      simp [htold']
    refine ⟨_, _, Patch.applies_of hconfined hcreated hfree habout hmore hnet.supply,
      Patch.applies_of hconfined' hcreated' hfree' habout' hmore' hnet.supply', ?_,
      .created hkey rfl rfl⟩
    constructor
    · exact .some ⟨rfl, Session.takingIn_renamed htag _ _ r _⟩
    · simp only [Patch.of, howner, howner', Option.isSome_some]
    · simp only [Patch.of, htold, htold', List.map_cons, List.map_nil]
    · rfl
    · rfl

/-- A signal does the same in both groups. -/
theorem heed_patched (hg : Regular g) (hg' : Regular g') (hopen : g.closed = false)
    (hm : m.Coherent) (hagrees : Agrees m.key g g') :
    SamePatch m.key g g' (g.heed m) (g'.heed m) := by
  cases hkey : g.registry.get? m.key with
  | some who => exact (heed_patched_of_owner hg hg' hopen hm hagrees hkey).1
  | none =>
    cases hreceiver : g.registry.receiver with
    | some id => exact heed_patched_of_receiver hg hg' hopen hm hagrees hkey hreceiver
    | none =>
      have hkey' := hagrees.key.trans hkey
      rw [heed_of_nobody hopen (by rw [Registry.resolve, hkey, hreceiver]),
        heed_of_nobody (hagrees.closed.trans hopen)
          (by rw [Registry.resolve, hkey', hagrees.receiver, hreceiver])]
      have hidle : ∀ g : Group (Journal Recorder), g.registry.get? m.key = none →
          (Patch.idle [] 0).Applies m.key g (g, []) := fun g hg =>
        Patch.applies_idle (fun _ => rfl) (fun _ => rfl) hg rfl (List.append_nil _).symm (by simp) rfl
      exact ⟨_, _, hidle g hkey, hidle g' hkey', ⟨.none, rfl, rfl, rfl, rfl⟩, .nobody hkey rfl rfl⟩

end Group

end SipAgent
