import Mathlib.Data.List.Basic
import SipAgent.Group.Action
import SipAgent.Proofs.Session.Keys

/-!
# Feeding one event to a group

What `Group.dispatch` does to the sessions of a group and to its registry, told without the list of
cells: the session that is fed becomes what the machine makes of it, a session that it spawns comes
after all others, and nobody else changes. No change and no report gets lost on the way.
-/

namespace SipAgent

/-! ### The registry after the changes of a session -/

section Changes

variable {r : Registry SessionId} {s : Session} {key other : CallId}

/-- The registry after some changes. -/
def Registry.after (r : Registry SessionId) (changes : List KeyChange) : Registry SessionId :=
  changes.foldl Group.applyKeyChange r

@[simp] lemma Registry.after_nil (r : Registry SessionId) : r.after [] = r := rfl

@[simp] lemma Registry.after_bind (r : Registry SessionId) (id : SessionId) (key : CallId) :
    r.after [.bind id key] = r.insert key id := rfl

@[simp] lemma Registry.after_unbind (r : Registry SessionId) (id : SessionId) (key : CallId) :
    r.after [.unbind id key] = r.remove key id := rfl

lemma Registry.after_append (r : Registry SessionId) (first later : List KeyChange) :
    r.after (first ++ later) = (r.after first).after later :=
  List.foldl_append

lemma Group.applyKeyChange_receiver (r : Registry SessionId) (change : KeyChange) :
    (Group.applyKeyChange r change).receiver = r.receiver := by
  cases change with
  | bind => rfl
  | unbind id key =>
    simp only [Group.applyKeyChange, Registry.remove]
    split <;> rfl

/-- Sessions have no say in who the receiver is. -/
@[simp] lemma Registry.after_receiver (r : Registry SessionId) (changes : List KeyChange) :
    (r.after changes).receiver = r.receiver := by
  induction changes generalizing r with
  | nil => rfl
  | cons change later ih => exact (ih _).trans (Group.applyKeyChange_receiver r change)

/-- Nobody gets a key but the sessions that the changes are for. -/
lemma Registry.get?_of_after {changes : List KeyChange} {i : SessionId}
    (h : (r.after changes).get? key = some i) :
    r.get? key = some i ∨ ∃ change ∈ changes, change.session = i := by
  induction changes generalizing r with
  | nil => exact .inl h
  | cons change later ih =>
    rcases ih h with h | ⟨c, hc, hi⟩
    · cases change with
      | bind id k =>
        simp only [Group.applyKeyChange, Registry.get?_insert] at h
        split at h
        · exact .inr ⟨_, List.mem_cons_self, Option.some.inj h⟩
        · exact .inl h
      | unbind id k =>
        simp only [Group.applyKeyChange, Registry.get?_remove] at h
        split at h
        · cases h
        · exact .inl h
    · exact .inr ⟨c, List.mem_cons_of_mem _ hc, hi⟩

/-- A session that lets go of its key loses nothing else, and takes nothing from anybody. -/
lemma Registry.get?_after_unbound :
    (r.after s.unbound).get? other =
      if s.key = some other ∧ r.get? other = some s.id then none else r.get? other := by
  unfold Session.unbound
  split
  · next key hkey =>
    rw [Registry.after_unbind, Registry.get?_remove]
    by_cases h : other = key
    · subst h; simp [hkey]
    · simp [hkey, h, Ne.symm h]
  · next hkey => simp [hkey]

lemma Registry.get?_after_unbound_of_ne {i : SessionId} (h : i ≠ s.id) :
    (r.after s.unbound).get? other = some i ↔ r.get? other = some i := by
  rw [Registry.get?_after_unbound]
  split
  · next hold =>
    rw [hold.2, Option.some.injEq]
    exact ⟨nofun, fun heq => absurd heq.symm h⟩
  · exact Iff.rfl

/-- A session that moves to another key. -/
lemma Registry.get?_after_rebound (h : s.key ≠ some key) :
    (r.after (s.rebound key)).get? other =
      if other = key then some s.id else (r.after s.unbound).get? other := by
  unfold Session.rebound
  rw [if_neg h, Registry.after_append, Registry.after_bind, Registry.get?_insert]

end Changes

namespace Group

variable {σ : Type} {g : Group σ} {id i : SessionId} {s : Session}

/-! ### Nothing gets lost -/

/-- The cells that an event concerned: the one that was fed, and the one that was spawned. -/
def concernedCells (addressee : Addressee) (o : Outcome) : List Cell :=
  ⟨o.session, addressee⟩ :: o.spawned.toList.map fun s => ⟨s, addressee⟩

lemma concerned?_addressee {addressee : Addressee} {o : Outcome} {cell : Cell}
    (h : concerned? (concernedCells addressee o) i = some cell) : cell.addressee = addressee := by
  have hmem := List.mem_of_find?_eq_some h
  unfold concernedCells at hmem
  rcases List.mem_cons.mp hmem with rfl | hmem
  · rfl
  · obtain ⟨s, -, rfl⟩ := List.mem_map.mp hmem
    rfl

/-- Whoever an outcome speaks of is found among the cells concerned. -/
lemma concerned?_isSome (addressee : Addressee) {o : Outcome}
    (h : i = o.session.id ∨ ∃ t, o.spawned = some t ∧ i = t.id) :
    ∃ cell, concerned? (concernedCells addressee o) i = some cell := by
  rw [← Option.isSome_iff_exists]
  unfold concerned? concernedCells
  rw [List.find?_isSome]
  rcases h with rfl | ⟨t, ht, rfl⟩
  · exact ⟨_, List.mem_cons_self, by simp⟩
  · exact ⟨⟨t, addressee⟩, by simp [ht], by simp⟩

lemma session?_eq_some : g.session? id = some s ↔ ∃ a, g.cells[id]? = some ⟨s, a⟩ := by
  unfold session?
  constructor
  · intro h
    obtain ⟨⟨_, a⟩, hcell, rfl⟩ := Option.map_eq_some_iff.mp h
    exact ⟨a, hcell⟩
  · rintro ⟨a, hcell⟩
    rw [hcell]
    rfl

lemma stateOf_of_session? (h : g.session? i = some s) : g.stateOf i = s.state := by
  unfold stateOf
  rw [h]

lemma stateOf_of_cell {a : Addressee} (h : g.cells[id]? = some ⟨s, a⟩) :
    g.stateOf id = s.state := by
  simp only [stateOf, session?, h, Option.map_some]

lemma session?_length (g : Group σ) : g.session? g.cells.length = none := by
  simp [session?]

variable [Transport σ]

/-- What a session that is fed an event makes of it. -/
def outcomeOf (g : Group σ) (s : Session) (e : SessionEvent) : Outcome :=
  (s.process g.profile g.cells.length e g.network).1

lemma dispatch_eq {addressee : Addressee} (h : g.cells[id]? = some ⟨s, addressee⟩)
    (e : SessionEvent) :
    let o := g.outcomeOf s e
    let concerned := concernedCells addressee o
    g.dispatch id e =
      ⟨{ g with
          network := (s.process g.profile g.cells.length e g.network).2
          cells := g.cells.set id ⟨o.session, addressee⟩ ++ concerned.tail
          registry := o.keyChanges.foldl (applyConcerned concerned) g.registry },
        o.reports.filterMap (delivery? concerned), o.processed⟩ := by
  simp only [dispatch, h]
  rfl

lemma dispatch_of_none (h : g.session? id = none) (e : SessionEvent) :
    g.dispatch id e = ⟨g, [], false⟩ := by
  unfold session? at h
  simp only [dispatch, Option.map_eq_none_iff.mp h]

/-- Every change that an event asks for takes effect. -/
theorem dispatch_registry (h : g.session? id = some s) (e : SessionEvent) :
    (g.dispatch id e).group.registry = g.registry.after (g.outcomeOf s e).keyChanges := by
  obtain ⟨addressee, hcell⟩ := session?_eq_some.mp h
  rw [dispatch_eq hcell]
  refine List.foldl_ext _ _ _ fun r change hchange => ?_
  have hself := Session.selfContained_process g.profile g.cells.length s e g.network
  obtain ⟨cell, hfound⟩ := concerned?_isSome addressee (hself.changes change hchange)
  simp only [applyConcerned]
  rw [outcomeOf, hfound]

/-- Every report is handed over, to whom the session reports. -/
theorem dispatch_deliveries {cell : Cell} (h : g.cells[id]? = some cell) (e : SessionEvent) :
    (g.dispatch id e).deliveries =
      (g.outcomeOf cell.session e).reports.map fun report =>
        ⟨cell.addressee, report.session, report.notice⟩ := by
  rw [dispatch_eq h, ← List.filterMap_eq_map]
  refine List.filterMap_congr fun report hreport => ?_
  have hself := Session.selfContained_process g.profile g.cells.length cell.session e g.network
  obtain ⟨found, hfound⟩ :=
    concerned?_isSome cell.addressee (hself.reports report hreport)
  have haddressee := concerned?_addressee hfound
  simp only [delivery?, outcomeOf, hfound, Option.map_some, haddressee, Function.comp]

/-! ### The sessions afterwards -/

/-- Nobody changes, nor whom they report to, but the session that is fed and the one that it
spawns. -/
theorem dispatch_cells? {addressee : Addressee} (h : g.cells[id]? = some ⟨s, addressee⟩)
    (e : SessionEvent) (i : SessionId) :
    (g.dispatch id e).group.cells[i]? =
      if i = id then some ⟨(g.outcomeOf s e).session, addressee⟩
      else if i = g.cells.length then (g.outcomeOf s e).spawned.map (⟨·, addressee⟩)
      else g.cells[i]? := by
  have hid : id < g.cells.length := (List.getElem?_eq_some_iff.mp h).1
  rw [dispatch_eq h]
  simp only [List.getElem?_append, List.length_set, concernedCells, List.tail_cons]
  rcases Nat.lt_trichotomy i g.cells.length with hlt | rfl | hgt
  · rw [if_pos hlt, if_neg (Nat.ne_of_lt hlt), List.getElem?_set]
    by_cases heq : id = i
    · simp [← heq, hid]
    · simp [heq, Ne.symm heq]
  · rw [if_neg (Nat.lt_irrefl _), if_neg (Nat.ne_of_gt hid), if_pos rfl, Nat.sub_self]
    cases (g.outcomeOf s e).spawned <;> rfl
  · have hlen : ((g.outcomeOf s e).spawned.toList.map fun s => (⟨s, addressee⟩ : Cell)).length ≤
        i - g.cells.length := by
      rw [List.length_map, Option.length_toList]
      split <;> omega
    rw [if_neg (Nat.lt_asymm hgt), if_neg (Nat.ne_of_gt (Nat.lt_trans hid hgt)),
      if_neg (Nat.ne_of_gt hgt), List.getElem?_eq_none hlen,
      List.getElem?_eq_none (Nat.le_of_lt hgt)]

/-- Nobody changes but the session that is fed and the one that it spawns. -/
theorem dispatch_session? (h : g.session? id = some s) (e : SessionEvent) (i : SessionId) :
    (g.dispatch id e).group.session? i =
      if i = id then some (g.outcomeOf s e).session
      else if i = g.cells.length then (g.outcomeOf s e).spawned
      else g.session? i := by
  obtain ⟨addressee, hcell⟩ := session?_eq_some.mp h
  rw [session?, dispatch_cells? hcell]
  split_ifs
  · rfl
  · cases (g.outcomeOf s e).spawned <;> rfl
  · rfl

lemma dispatch_session?_self (h : g.session? id = some s) (e : SessionEvent) :
    (g.dispatch id e).group.session? id = some (g.outcomeOf s e).session := by
  rw [dispatch_session? h, if_pos rfl]

/-- A session that owns a dialog spawns nobody. -/
lemma dispatch_session?_of_dialog (h : g.session? id = some s) (hs : s.role = .dialog)
    (e : SessionEvent) (i : SessionId) :
    (g.dispatch id e).group.session? i =
      if i = id then some (g.outcomeOf s e).session else g.session? i := by
  rw [dispatch_session? h]
  split_ifs with hi hlength
  · rfl
  · rw [hlength, session?_length]
    exact (Session.keyEffect_process (Promise.nothing_keptBy σ) _ _ hs e _).2
  · rfl

/-! ### The cells afterwards -/

lemma dispatch_cells_self {addressee : Addressee} (h : g.cells[id]? = some ⟨s, addressee⟩)
    (e : SessionEvent) :
    (g.dispatch id e).group.cells[id]? = some ⟨(g.outcomeOf s e).session, addressee⟩ := by
  rw [dispatch_cells? h, if_pos rfl]

/-- Nobody else changes, nor whom they report to. -/
lemma dispatch_cells_of_ne {cell : Cell} (h : g.cells[i]? = some cell) (hne : i ≠ id)
    (e : SessionEvent) : (g.dispatch id e).group.cells[i]? = some cell := by
  cases hid : g.cells[id]? with
  | none =>
    rw [dispatch_of_none (by rw [session?, hid]; rfl)]
    exact h
  | some fed =>
    have hlt : i < g.cells.length := (List.getElem?_eq_some_iff.mp h).1
    rw [dispatch_cells? hid, if_neg hne, if_neg (Nat.ne_of_lt hlt), h]

lemma dispatch_profile (g : Group σ) (id : SessionId) (e : SessionEvent) :
    (g.dispatch id e).group.profile = g.profile := by
  unfold dispatch
  split <;> rfl

lemma dispatch_settings (g : Group σ) (id : SessionId) (e : SessionEvent) :
    (g.dispatch id e).group.settings = g.settings := by
  unfold dispatch
  split <;> rfl

lemma dispatch_now (g : Group σ) (id : SessionId) (e : SessionEvent) :
    (g.dispatch id e).group.now = g.now := by
  unfold dispatch
  split <;> rfl

lemma dispatch_closed (g : Group σ) (id : SessionId) (e : SessionEvent) :
    (g.dispatch id e).group.closed = g.closed := by
  unfold dispatch
  split <;> rfl

lemma dispatch_registry_receiver (g : Group σ) (id : SessionId) (e : SessionEvent) :
    (g.dispatch id e).group.registry.receiver = g.registry.receiver := by
  cases hs : g.session? id with
  | none => rw [dispatch_of_none hs]
  | some s => rw [dispatch_registry hs, Registry.after_receiver]

end Group

end SipAgent
