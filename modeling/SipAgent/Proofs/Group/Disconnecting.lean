import Mathlib.Data.List.Nodup
import SipAgent.Proofs.Group.Ownership
import SipAgent.Proofs.Group.Scene
import SipAgent.Proofs.Session.Registration

/-!
# The sessions lose the data connection

When the data connection goes, every session that owns a key is told, one after the other, and each
takes its key out of the registry from which the list of them was made. No key is listed twice
(`Registry.Unambiguous`), so everybody on the list owns its key when its turn comes, and what the
whole list comes to can be said without the order: `Group.disconnect_eq`.
-/

namespace SipAgent

/-! ### Registries that list no key twice -/

namespace Registry

section

variable {α : Type} {r : Registry α} {key : CallId} {owner : α}

/-- No key is listed twice. -/
def Unambiguous (r : Registry α) : Prop :=
  (r.bindings.map (·.1)).Nodup

lemma Unambiguous.erase (h : r.Unambiguous) (key : CallId) : (r.erase key).Unambiguous :=
  List.Nodup.sublist (List.filter_sublist.map _) h

lemma Unambiguous.insert (h : r.Unambiguous) (key : CallId) (owner : α) :
    (r.insert key owner).Unambiguous := by
  unfold Unambiguous Registry.insert
  rw [List.map_append, List.nodup_append]
  refine ⟨h.erase key, List.nodup_singleton _, fun other hother k hk => ?_⟩
  obtain ⟨binding, hbinding, rfl⟩ := List.mem_map.mp hother
  obtain rfl := List.mem_singleton.mp hk
  simpa using (List.mem_filter.mp hbinding).2

/-- Whatever is listed is found. -/
lemma Unambiguous.get?_of_mem (h : r.Unambiguous) (hmem : (key, owner) ∈ r.bindings) :
    r.get? key = some owner := by
  obtain ⟨bindings, receiver⟩ := r
  unfold Unambiguous at h
  unfold get?
  dsimp only at *
  induction bindings with
  | nil => cases hmem
  | cons binding rest ih =>
    rw [List.map_cons, List.nodup_cons] at h
    rcases List.mem_cons.mp hmem with rfl | hmem
    · simp
    · have hne : binding.1 ≠ key := by
        rintro rfl
        exact h.1 (List.mem_map_of_mem (f := (·.1)) hmem)
      simpa [hne] using ih h.2 hmem

/-- A registry in which nothing is found is empty. -/
lemma bindings_eq_nil (h : ∀ key, r.get? key = none) : r.bindings = [] := by
  obtain ⟨_ | ⟨⟨key, owner⟩, rest⟩, receiver⟩ := r
  · rfl
  · have hfirst := h key
    simp [get?] at hfirst

variable [DecidableEq α]

lemma Unambiguous.remove (h : r.Unambiguous) (key : CallId) (owner : α) :
    (r.remove key owner).Unambiguous := by
  unfold Registry.remove
  split
  · exact h.erase key
  · exact h

/-- Whoever has a key is among the owners. -/
lemma mem_owners (h : r.get? key = some owner) : owner ∈ r.owners := by
  obtain ⟨binding, hfound, rfl⟩ := Option.map_eq_some_iff.mp h
  rw [owners, List.mem_eraseDups]
  exact List.mem_map_of_mem (List.mem_of_find?_eq_some hfound)

/-- The owners are those who are found under some key. -/
lemma Unambiguous.mem_owners_iff (h : r.Unambiguous) :
    owner ∈ r.owners ↔ ∃ key, r.get? key = some owner := by
  refine ⟨fun hmem => ?_, fun ⟨key, hkey⟩ => mem_owners hkey⟩
  rw [owners, List.mem_eraseDups] at hmem
  obtain ⟨⟨key, owner⟩, hbinding, rfl⟩ := List.mem_map.mp hmem
  exact ⟨key, h.get?_of_mem hbinding⟩

lemma nodup_eraseDups (l : List α) : l.eraseDups.Nodup := by
  match l with
  | [] => exact List.nodup_nil
  | a :: rest =>
    rw [List.eraseDups_cons, List.nodup_cons]
    exact ⟨by simp [List.mem_eraseDups], nodup_eraseDups _⟩
termination_by l.length
decreasing_by exact Nat.lt_succ_of_le (List.length_filter_le _ _)

/-- Each owner is listed once. -/
lemma nodup_owners (r : Registry α) : r.owners.Nodup :=
  nodup_eraseDups _

end

lemma Unambiguous.after {r : Registry SessionId} (h : r.Unambiguous) (changes : List KeyChange) :
    (r.after changes).Unambiguous := by
  induction changes generalizing r with
  | nil => exact h
  | cons change later ih =>
    cases change with
    | bind id key => exact ih (h.insert key id)
    | unbind id key => exact ih (h.remove key id)

end Registry

namespace Session

/-- What a session that is under way tells when the data connection is lost. -/
def lossNotice (s : Session) : Notice :=
  failureNotice s.state.isRegistration .dataConnectionLost "data connection lost"

variable {s : Session}

/-- A session that is under way ends without asking the network for anything. -/
lemma process_connectionLost {σ : Type} [Transport σ] (profile : Profile) (fresh : SessionId)
    (hrole : s.role = .dialog) (hs : s.state ≠ .ready) (net : σ) :
    s.process profile fresh .connectionLost net = (s.finished s.lossNotice, net) := by
  rw [process, script_of_connectionLost profile fresh hrole, if_neg hs]
  rfl

end Session

namespace Group

variable {σ : Type} [Transport σ] {g g' : Group σ} {id i : SessionId} {s : Session}
  {a : Addressee} {permits : Signal → Prop}

/-- No effect makes the registry list a key twice. -/
lemma Effect.unambiguous (h : Effect permits g g') (hg : g.registry.Unambiguous) :
    g'.registry.Unambiguous := by
  have hdispatch : ∀ (g : Group σ) id e, g.registry.Unambiguous →
      (g.dispatch id e).group.registry.Unambiguous := by
    intro g id e hg
    cases hs : g.session? id with
    | none => rwa [dispatch_of_none hs]
    | some s => exact dispatch_registry hs e ▸ hg.after _
  refine h.preserves (P := fun g => g.registry.Unambiguous) hg (fun g g' hkeeps hg => ?_)
    (fun g id e _ => hdispatch g id e) (fun g id => hdispatch g id _) fun _ _ => List.nodup_nil
  unfold Registry.Unambiguous at *
  rwa [hkeeps.bindings]

/-! ### One session -/

omit [Transport σ] in
/-- An owner that gives its key up owns none afterwards, and nobody else loses one. -/
lemma Sound.get?_remove_owner (hg : Sound g) {key k : CallId}
    (hkey : g.registry.get? key = some id) :
    (g.registry.remove key id).get? k = some i ↔ g.registry.get? k = some i ∧ i ≠ id := by
  rw [Registry.get?_remove]
  constructor
  · intro howner
    split at howner
    · cases howner
    · next hnot =>
      refine ⟨howner, ?_⟩
      rintro rfl
      exact hnot ⟨hg.key_unique howner hkey, hkey⟩
  · rintro ⟨howner, hne⟩
    rw [if_neg, howner]
    rintro ⟨rfl, -⟩
    exact hne (Option.some.inj (howner.symm.trans hkey))

/-- An owner that is told of the loss goes back to its idle state, gives its key up and tells of the
failure. -/
lemma dispatch_connectionLost (hg : Sound g) {key : CallId}
    (hkey : g.registry.get? key = some id) (hcell : g.cells[id]? = some ⟨s, a⟩) :
    let lost := g.dispatch id .connectionLost
    lost.group.network = g.network ∧
      (∀ k i, lost.group.registry.get? k = some i ↔ g.registry.get? k = some i ∧ i ≠ id) ∧
      (∀ i, lost.group.cells[i]? =
        if i = id then some ⟨.idle id .dialog, a⟩ else g.cells[i]?) ∧
      lost.deliveries = [⟨a, id, s.lossNotice⟩] := by
  have hs : g.session? id = some s := session?_eq_some.mpr ⟨a, hcell⟩
  have hid : s.id = id := hg.numbered id s hs
  obtain ⟨t, ht, hrole, hbusy, hheld⟩ := hg.owners key id hkey
  obtain rfl : s = t := Option.some.inj (hs.symm.trans ht)
  have hprocess := Session.process_connectionLost g.profile g.cells.length hrole hbusy g.network
  have houtcome : g.outcomeOf s .connectionLost = s.finished s.lossNotice := by
    rw [outcomeOf, hprocess]
  refine ⟨?_, fun k i => ?_, fun i => ?_, ?_⟩
  · rw [dispatch_eq hcell]
    exact congrArg Prod.snd hprocess
  · rw [dispatch_registry hs, houtcome, ← hg.get?_remove_owner hkey]
    simp only [Session.finished, Session.unbound, hheld, hid, Registry.after_unbind]
  · rw [dispatch_cells? hcell, houtcome]
    simp only [Session.finished, Session.cleared, hid, hrole, Option.map_none]
    split_ifs with hi hlength
    · rfl
    · rw [hlength, List.getElem?_eq_none (Nat.le_refl _)]
    · rfl
  · rw [dispatch_deliveries hcell]
    simp only [houtcome, Session.finished, List.map_cons, List.map_nil, hid]

/-! ### All of them -/

/-- What a session has to tell when it loses the data connection. -/
def farewell? (g : Group σ) (id : SessionId) : Option Delivery :=
  g.cells[id]?.map fun cell => ⟨cell.addressee, id, cell.session.lossNotice⟩

omit [Transport σ] in
lemma farewell?_session {d : Delivery} (h : g.farewell? id = some d) : d.session = id := by
  obtain ⟨cell, -, rfl⟩ := Option.map_eq_some_iff.mp h
  rfl

/-- Owners that are told of the loss are idle afterwards and have no key, each has told it once, and
nobody else has noticed anything, the network included. -/
theorem disconnect_eq (hg : Sound g) {ids : List SessionId} (hnodup : ids.Nodup)
    (hkeyed : ∀ id ∈ ids, ∃ key, g.registry.get? key = some id) :
    let lost := g.disconnect ids
    lost.group.network = g.network ∧
      (∀ key i, lost.group.registry.get? key = some i ↔
        g.registry.get? key = some i ∧ i ∉ ids) ∧
      (∀ i, lost.group.cells[i]? =
        if i ∈ ids then g.cells[i]?.map fun cell => ⟨.idle i .dialog, cell.addressee⟩
        else g.cells[i]?) ∧
      lost.deliveries = ids.filterMap g.farewell? := by
  induction ids generalizing g with
  | nil => exact ⟨rfl, fun key i => by simp [disconnect], fun i => rfl, rfl⟩
  | cons id more ih =>
    obtain ⟨hnot, hmore⟩ := List.nodup_cons.mp hnodup
    obtain ⟨key, hkey⟩ := hkeyed id List.mem_cons_self
    obtain ⟨s, hs, -⟩ := hg.owners key id hkey
    obtain ⟨a, hcell⟩ := session?_eq_some.mp hs
    obtain ⟨hnetwork, hget, hcells, hdeliveries⟩ := dispatch_connectionLost hg hkey hcell
    -- whoever else is on the list still owns its key
    have hstill : ∀ i ∈ more, ∃ k,
        (g.dispatch id .connectionLost).group.registry.get? k = some i := by
      intro i hi
      obtain ⟨k, hk⟩ := hkeyed i (List.mem_cons_of_mem id hi)
      have hne : i ≠ id := fun h => hnot (h ▸ hi)
      exact ⟨k, (hget k i).mpr ⟨hk, hne⟩⟩
    obtain ⟨hnetwork', hget', hcells', hdeliveries'⟩ := ih (hg.dispatch id _) hmore hstill
    refine ⟨hnetwork'.trans hnetwork, fun k i => ?_, fun i => ?_, ?_⟩
    · refine (hget' k i).trans ?_
      rw [hget, List.mem_cons, not_or, and_assoc]
    · refine (hcells' i).trans ?_
      rw [hcells]
      by_cases hi : i = id
      · subst hi
        simp [hnot, hcell]
      · simp [hi]
    · have hfarewell : ∀ i ∈ more, (g.dispatch id .connectionLost).group.farewell? i =
          g.farewell? i := by
        intro i hi
        have hne : i ≠ id := fun h => hnot (h ▸ hi)
        rw [farewell?, hcells, if_neg hne, farewell?]
      change (g.dispatch id .connectionLost).deliveries ++ _ = _
      rw [hdeliveries, hdeliveries', List.filterMap_congr hfarewell]
      simp [farewell?, hcell]

end Group

namespace Scene

variable {σ : Type} [Transport σ] {c : Scene σ}

/-- Whatever happens, the registry is right, and lists no key twice. -/
lemma Reachable.sound (h : c.Reachable (Interleaves fun _ => Occurrence.Possible)) :
    c.group.Sound ∧ c.group.registry.Unambiguous := by
  refine h.invariant (P := fun c => c.group.Sound ∧ c.group.registry.Unambiguous)
    (fun _ _ _ => ⟨Group.sound_start _ _ _, List.nodup_nil⟩) ?_
  rintro c c' - ⟨o, ho, hstep⟩ ⟨hsound, hlisted⟩
  have heffect := hstep.effect ho
  exact ⟨hsound.effect heffect, heffect.unambiguous hlisted⟩

end Scene

end SipAgent
