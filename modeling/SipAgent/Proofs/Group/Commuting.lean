import SipAgent.Proofs.Group.Crossing

/-!
# Signals of different calls commute

Two signals under different Call-IDs stay out of each other's way: neither changes what the other one
depends on (`Group.agrees_heed`), so each leads to the same patch whether it comes first or last. So
the order of the signals does not matter, `Group.signals_isolated`, except for the numbers of sessions
that are created and for the identifiers that are drawn.
-/

namespace SipAgent

/-- The draws of two signals that come in the other order: those of the one come after those of the
other. -/
def IdSupply.Redrawn (w : IdSupply) (first later : Nat) (u v : IdSupply) : Prop :=
  (∃ turn < first, u = w.after (turn + 1) ∧ v = w.after (later + (turn + 1))) ∨
    ∃ turn < later, u = w.after (first + (turn + 1)) ∧ v = w.after (turn + 1)

namespace Group

/-- Both groups are the same but for numbers of sessions and for names, the same has been told about
each session, and the same has been recorded under each Call-ID. -/
structure Alike (ids : Equiv.Perm SessionId) (pairs : IdSupply → IdSupply → Prop)
    (h h' : Group (Journal Recorder) × List Delivery) : Prop extends SameSetup h.1 h'.1 where
  books : h'.1.books = h.1.books
  cells : ∀ i : SessionId, Option.Rel (Cell.Renamed ids pairs) h.1.cells[i]? h'.1.cells[ids i]?
  owners : ∀ key, h'.1.registry.get? key = (h.1.registry.get? key).map ids
  receiver : h'.1.registry.receiver = h.1.registry.receiver.map ids
  told : ∀ i, toldAbout h'.2 (ids i) = toldAbout h.2 i
  commands : ∀ key, recordedUnder h'.1.network.network key = recordedUnder h.1.network.network key

variable {g : Group (Journal Recorder)} {m m' : Signal} {key : CallId} {i : SessionId}

/-! ### Out of each other's way -/

lemma Regular.settle (hg : Regular g) (ds : List Delivery) : Regular (g.settle ds).1 := by
  induction g, ds using settle.induct with
  | case1 g => rwa [settle_nil]
  | case2 g d waiting ih =>
    rw [settle_cons]
    exact ih (hg.handOver d)

lemma Regular.heed (hg : Regular g) (hm : m.Coherent) : Regular (g.heed m).1 :=
  Regular.settle (hg.act (a := .signal m) hm) _

/-- Whoever exists and does not own the key of a signal is not concerned by it. -/
lemma ne_concerns {s : Session} (hs : g.session? i = some s)
    (hi : g.registry.get? key ≠ some i) : i ≠ g.concerns key := by
  rintro rfl
  unfold concerns at hs hi
  cases hkey : g.registry.get? key with
  | some owner =>
    rw [hkey] at hi
    exact hi rfl
  | none =>
    rw [hkey, Option.getD_none, session?_length] at hs
    cases hs

/-- The books stay as they are unless the signal is for the session that is supervised. -/
lemma books_heed (hg : Regular g) (hopen : g.closed = false) (hm : m.Coherent)
    (h : ∀ who, g.registry.get? m.key = some who → g.supervisor.session ≠ some who) :
    (g.heed m).1.books = g.books := by
  obtain ⟨hconfined, hfree, -⟩ := confined_heed hg hopen hm
  cases hkey : g.registry.get? m.key with
  | none => exact hfree hkey
  | some who =>
    refine hconfined.books ?_
    rw [concerns, hkey]
    exact h who hkey

/-- A signal leaves everything alone that another call depends on. -/
theorem agrees_heed (hg : Regular g) (hopen : g.closed = false) (hm : m.Coherent)
    (hworks : g.network.network.Works) (hne : key ≠ m.key) : Agrees key g (g.heed m).1 := by
  obtain ⟨hconfined, -, -⟩ := confined_heed hg hopen hm
  have hsame : ∀ who s, g.session? who = some s → g.registry.get? m.key ≠ some who →
      (g.heed m).1.cells[who]? = g.cells[who]? := fun who s hs hnot =>
    hconfined.cells who (ne_concerns hs hnot)
  have hother : ∀ who, g.registry.get? key = some who → g.registry.get? m.key ≠ some who :=
    fun who howner hother => hne (hg.sound.key_unique howner hother)
  have hworks' : (g.heed m).1.network.network.Works :=
    ⟨hconfined.network.failing.trans hworks.1, hconfined.network.unreachable.trans hworks.2⟩
  refine ⟨hconfined.toSameSetup, ?_, ?_, hconfined.keys key hne, hconfined.receiver, ?_,
    .refl hworks hworks' hconfined.network.address hconfined.network.registrationCallId⟩
  · intro who howner hwho
    apply books_heed hg hopen hm
    intro who' howner' hwho'
    apply hother who howner
    rw [howner', Option.some.inj (hwho'.symm.trans hwho)]
  · intro who howner
    obtain ⟨s, hs, -⟩ := hg.sound.owners key who howner
    exact hsame who s hs (hother who howner)
  · intro id hid
    have hs := hg.sound.receiver id hid
    exact hsame id _ hs (hg.sound.not_owner_of_receiver hs m.key)

/-! ### In either order -/

/-- Deal with two signals, one after the other: the group afterwards, and all notices. -/
def heedBoth (g : Group (Journal Recorder)) (m m' : Signal) :
    Group (Journal Recorder) × List Delivery :=
  (((g.heed m).1.heed m').1, (g.heed m).2 ++ ((g.heed m).1.heed m').2)

/-- Two signals lead to the same in either order, but for the numbers of sessions that they create and
for the identifiers that they draw. -/
def Commutes (g : Group (Journal Recorder)) (m m' : Signal) : Prop :=
  ∃ (ids : Equiv.Perm SessionId) (first later : Nat),
    (∀ i < g.cells.length, ids i = i) ∧
    (g.heed m).1.network.network.supply = g.network.network.supply.after first ∧
    (g.heed m').1.network.network.supply = g.network.network.supply.after later ∧
    Alike ids (g.network.network.supply.Redrawn first later) (g.heedBoth m m') (g.heedBoth m' m)

/-- A signal that comes second leaves the books alone if it would have done so by itself. -/
lemma books_heed_after (hg : Regular g) (hopen : g.closed = false) (hm : m.Coherent)
    (hm' : m'.Coherent) (hne : m.key ≠ m'.key)
    (h : ∀ who, g.registry.get? m'.key = some who → g.supervisor.session ≠ some who) :
    (g.heedBoth m m').1.books = (g.heed m).1.books := by
  obtain ⟨hconfined, -, -⟩ := confined_heed hg hopen hm
  refine books_heed (hg.heed hm) (hconfined.closed.trans hopen) hm' fun who howner => ?_
  rw [hconfined.supervised]
  exact h who ((hconfined.keys m'.key hne.symm).symm.trans howner)

/-- If a signal is for the session that is supervised, the books depend on this signal alone. -/
lemma books_of_supervised (hg : Regular g) (hopen : g.closed = false)
    (hworks : g.network.network.Works) (hm : m.Coherent) (hm' : m'.Coherent) (hne : m.key ≠ m'.key)
    {who : SessionId} (howner : g.registry.get? m.key = some who)
    (hwho : g.supervisor.session = some who) :
    (g.heedBoth m' m).1.books = (g.heedBoth m m').1.books := by
  have hlast := books_heed_after hg hopen hm hm' hne fun who' howner' hwho' => by
    obtain rfl := Option.some.inj (hwho.symm.trans hwho')
    exact hne (hg.sound.key_unique howner howner')
  rw [hlast]
  exact (heed_patched_of_owner hg (hg.heed hm') hopen hm (agrees_heed hg hopen hm' hworks hne)
    howner).2 hwho

/-- The books afterwards do not depend on the order. -/
lemma books_commute (hg : Regular g) (hopen : g.closed = false) (hworks : g.network.network.Works)
    (hm : m.Coherent) (hm' : m'.Coherent) (hne : m.key ≠ m'.key) :
    (g.heedBoth m' m).1.books = (g.heedBoth m m').1.books := by
  by_cases hfirst : ∃ who, g.registry.get? m.key = some who ∧ g.supervisor.session = some who
  · obtain ⟨who, howner, hwho⟩ := hfirst
    exact books_of_supervised hg hopen hworks hm hm' hne howner hwho
  by_cases hsecond : ∃ who, g.registry.get? m'.key = some who ∧ g.supervisor.session = some who
  · obtain ⟨who, howner, hwho⟩ := hsecond
    exact (books_of_supervised hg hopen hworks hm' hm hne.symm howner hwho).symm
  · have hfree : ∀ who, g.registry.get? m.key = some who → g.supervisor.session ≠ some who :=
      fun who howner hwho => hfirst ⟨who, howner, hwho⟩
    have hfree' : ∀ who, g.registry.get? m'.key = some who → g.supervisor.session ≠ some who :=
      fun who howner hwho => hsecond ⟨who, howner, hwho⟩
    rw [books_heed_after hg hopen hm' hm hne.symm hfree, books_heed hg hopen hm' hfree',
      books_heed_after hg hopen hm hm' hne hfree', books_heed hg hopen hm hfree]

/-- Sessions that replace each other have the numbers of their places. -/
lemma renamed_of_replaces {h h' : Group (Journal Recorder)} (hh : Sound h) (hh' : Sound h')
    {ids : Equiv.Perm SessionId} {pairs : IdSupply → IdSupply → Prop}
    (hcells : Option.Rel (Cell.Replaces pairs) h.cells[i]? h'.cells[ids i]?) :
    Option.Rel (Cell.Renamed ids pairs) h.cells[i]? h'.cells[ids i]? := by
  cases hcell : h.cells[i]? with
  | none =>
    rw [hcell] at hcells
    generalize h'.cells[ids i]? = c' at hcells ⊢
    cases hcells
    exact .none
  | some c =>
    cases hcell' : h'.cells[ids i]? with
    | none =>
      rw [hcell, hcell'] at hcells
      cases hcells
    | some c' =>
      have hid := hh.numbered i c.session (session?_eq_some.mpr ⟨c.addressee, hcell⟩)
      have hid' := hh'.numbered (ids i) c'.session (session?_eq_some.mpr ⟨c'.addressee, hcell'⟩)
      rw [hcell, hcell'] at hcells
      cases hcells with
      | some hreplaces => exact .some ⟨hreplaces, by rw [hid', hid]⟩

/-- Two signals under different Call-IDs commute, if nothing is refused. -/
theorem commutes (hg : Regular g) (hopen : g.closed = false) (hworks : g.network.network.Works)
    (hm : m.Coherent) (hm' : m'.Coherent) (hne : m.key ≠ m'.key) : Commutes g m m' := by
  obtain ⟨hconfined, -, -⟩ := confined_heed hg hopen hm
  obtain ⟨hconfined', -, -⟩ := confined_heed hg hopen hm'
  have hafter := hg.heed hm
  have hafter' := hg.heed hm'
  obtain ⟨hlast, -, -⟩ := confined_heed hafter (hconfined.closed.trans hopen) hm'
  obtain ⟨hlast', -, -⟩ := confined_heed hafter' (hconfined'.closed.trans hopen) hm
  obtain ⟨p, p', hp, hp', hrenamed, hplaced⟩ :=
    heed_patched hg hafter' hopen hm (agrees_heed hg hopen hm' hworks hne)
  obtain ⟨q, q', hq, hq', hrenamed', hplaced'⟩ :=
    heed_patched hg hafter hopen hm' (agrees_heed hg hopen hm hworks hne.symm)
  obtain ⟨ids, hfixes, hnumber, hnumber', hdistinct⟩ :=
    exists_numbers hg.sound hne hp hq hplaced hplaced'
  have hcrossing : Crossing ids (g.network.network.supply.Redrawn p.draws q.draws) g m.key m'.key
      p p' q q' (g.heed m) (g.heed m') ((g.heed m).1.heed m') ((g.heed m').1.heed m) := by
    refine ⟨hp, hq', hq, hp', hne, hfixes, hrenamed.mono fun u v huv => ?_,
      hrenamed'.symm fun u v huv => ?_, hnumber, hnumber', hdistinct⟩
    · rw [hq.supply] at huv
      obtain ⟨turn, hturn, hu, hv⟩ := huv
      exact .inl ⟨turn, hturn, hu, by rw [hv, IdSupply.after_after]⟩
    · rw [hp.supply] at huv
      obtain ⟨turn, hturn, hu, hv⟩ := huv
      exact .inr ⟨turn, hturn, by rw [hv, IdSupply.after_after], hu⟩
  have hbefore := (hconfined.toSameSetup.trans hlast.toSameSetup).symm
  have hreceiver : g.registry.receiver.map ids = g.registry.receiver := by
    cases hreceiver : g.registry.receiver with
    | none => rfl
    | some id =>
      obtain ⟨_, hcell⟩ := session?_eq_some.mp (hg.sound.receiver id hreceiver)
      rw [Option.map_some, hfixes id (List.getElem?_eq_some_iff.mp hcell).1]
  refine ⟨ids, p.draws, q.draws, hfixes, hp.supply, hq.supply, ?_⟩
  constructor
  · exact hbefore.trans (hconfined'.toSameSetup.trans hlast'.toSameSetup)
  · exact books_commute hg hopen hworks hm hm' hne
  · intro i
    exact renamed_of_replaces (hafter.heed hm').sound (hafter'.heed hm).sound (hcrossing.cells i)
  · exact hcrossing.owners fun k who => hg.sound.owner_lt
  · change ((g.heed m').1.heed m).1.registry.receiver =
      ((g.heed m).1.heed m').1.registry.receiver.map ids
    rw [hlast'.receiver, hconfined'.receiver, hlast.receiver, hconfined.receiver, hreceiver]
  · exact hcrossing.told
  · exact hcrossing.commands

/-! ### Isolation -/

/-- Dealing with a signal stays within the call. Whatever happened to a group before, the signal
changes only the session that it concerns and the owner of its own key, and the books of the supervisor
only if this session is supervised; every command goes out under its Call-ID, and every notice is about
the session, or about a receiver that could not send its answer. So another signal under another
Call-ID may come before it or after it: over a recorder that refuses nothing, both orders lead to the
same, but for the numbers of sessions that are created and for the identifiers that are drawn. -/
theorem signals_isolated (h : RecordedReachable g) (hopen : g.closed = false) (hm : m.Coherent) :
    Confined m.key (g.concerns m.key) g (g.heed m).1 ∧
      (g.registry.get? m.key = none → (g.heed m).1.books = g.books) ∧
      (∃ calls, (g.heed m).1.network.calls = g.network.calls ++ calls ∧
        ∀ d ∈ (g.heed m).2, d.session = g.concerns m.key ∨
          g.registry.get? m.key = none ∧ g.registry.receiver = some d.session ∧
            ∃ call ∈ calls, call.refused ≠ none) ∧
      ∀ m', m'.Coherent → m.key ≠ m'.key → g.network.network.Works → Commutes g m m' := by
  obtain ⟨hconfined, hfree, htold⟩ := confined_heed h.regular hopen hm
  exact ⟨hconfined, hfree, htold, fun m' hm' hne hworks =>
    commutes h.regular hopen hworks hm hm' hne⟩

/-- Two calls come in at a group that takes calls in. In either order each of them gets a session of
its own, and nothing but numbers and tags tells the orders apart. -/
theorem signals_isolated_of_invitations :
    let profile := Profile.ofUri ⟨some "alice", "localhost", none⟩ ""
    let g := ((start profile .default (Journal.opened (Recorder.ofHost "localhost"))).act
      (.openToCalls .nobody)).group
    let bob := Peer.ofUri ⟨some "bob", "localhost", none⟩
    let m := Signal.request ⟨.invite, ⟨"first"⟩, ⟨"branch"⟩, bob, [], none⟩
    let m' := Signal.request ⟨.invite, ⟨"second"⟩, ⟨"twig"⟩, bob, [], none⟩
    RecordedReachable g ∧ g.closed = false ∧ m.Coherent ∧ m'.Coherent ∧ m.key ≠ m'.key ∧
      g.network.network.Works ∧ (g.heed m).1.registry.get? m.key = some 1 ∧
      Confined m.key 1 g (g.heed m).1 ∧ Commutes g m m' := by
  intro profile g bob m m'
  have hopens : Step Signal.Coherent
      (start profile .default (Journal.opened (Recorder.ofHost "localhost"))) g :=
    .act (a := .openToCalls .nobody) trivial
  have hg : RecordedReachable g :=
    ⟨profile, .default, _, .single ⟨hopens, Recorder.Retains.refl _⟩⟩
  have hm : m.Coherent := by rintro d ⟨⟩
  have hm' : m'.Coherent := by rintro d ⟨⟩
  have hne : m.key ≠ m'.key := by decide
  have hrings : (g.heed m).1.registry.get? m.key = some 1 := by
    rw [heed_of_resolve rfl (rfl : g.registry.resolve m.key = some 0), settle_of_ignored]
    · rfl
    · decide
  obtain ⟨hconfined, -, -, hcommutes⟩ := signals_isolated hg rfl hm
  exact ⟨hg, rfl, hm, hm', hne, ⟨rfl, rfl⟩, hrings, hconfined, hcommutes m' hm' hne ⟨rfl, rfl⟩⟩

end Group

end SipAgent
