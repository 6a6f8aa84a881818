import Mathlib.Logic.Equiv.Basic
import SipAgent.Proofs.Group.Patch

/-!
# Patches in either order

Patches under different keys can be applied in either order, `Group.Crossing`: they touch different
sessions and different keys, they tell of different sessions, and what they record goes out under
different Call-IDs. Only a session that is created gets another number when another one is created
before it (`Group.exists_numbers`).
-/

namespace SipAgent

/-- The session has other names in it, and reports to the same addressee. -/
structure Cell.Replaces (pairs : IdSupply → IdSupply → Prop) (c c' : Cell) : Prop where
  addressee : c'.addressee = c.addressee
  session : c.session.Renamed pairs c'.session

/-- The session has another number and other names in it, and reports to the same addressee. -/
structure Cell.Renamed (ids : Equiv.Perm SessionId) (pairs : IdSupply → IdSupply → Prop)
    (c c' : Cell) : Prop extends Cell.Replaces pairs c c' where
  number : c'.session.id = ids c.session.id

namespace Group

/-- What is told about a session, and to whom. -/
def toldAbout (ds : List Delivery) (i : SessionId) : List (Addressee × Notice) :=
  (ds.filter (·.session = i)).map fun d => (d.addressee, d.notice)

/-- The commands under a Call-ID. -/
def recordedUnder (r : Recorder) (key : Option CallId) : List Recorded :=
  r.commands.filter (·.callId? = key)

variable {g g' : Group (Journal Recorder)} {key : CallId} {i : SessionId}
  {ids : Equiv.Perm SessionId} {pairs : IdSupply → IdSupply → Prop}

/-! ### Patches in either order -/

namespace Patch

variable {p p' q q' : Patch}

lemma cell?_eq_none (h : p.number ≠ some i) : p.cell? i = none := by
  unfold cell?
  unfold number at h
  cases htouched : p.touched with
  | none => rfl
  | some touched =>
    rw [htouched, Option.map_some, ne_eq, Option.some.injEq] at h
    simp [h]

/-- What one patch puts in a place, the other one puts in the place that stands for it. -/
lemma Renamed.cell? (h : p.Renamed pairs p') (hids : p'.number = p.number.map ids) (i : SessionId) :
    Option.Rel (Cell.Replaces pairs) (p.cell? i) (p'.cell? (ids i)) := by
  have htouched := h.touched
  unfold number at hids
  unfold Patch.cell?
  cases hp : p.touched with
  | none =>
    rw [hp] at htouched
    generalize p'.touched = touched' at htouched ⊢
    cases htouched
    exact .none
  | some touched =>
    rw [hp] at htouched hids
    generalize p'.touched = touched' at htouched hids ⊢
    cases htouched with
    | @some _ touched' hcell =>
      simp only [Option.map_some, Option.some.injEq] at hids
      by_cases hi : touched.1 = i
      · simp only [Option.bind_some, hids, hi, if_true]
        exact .some ⟨hcell.1, hcell.2⟩
      · simp only [Option.bind_some, hids, hi, ids.injective.eq_iff, if_false]
        exact .none

lemma toldAbout_deliveries (p : Patch) (i : SessionId) :
    toldAbout p.deliveries i = if p.number = some i then p.told else [] := by
  unfold deliveries
  cases p.number with
  | none => rfl
  | some who =>
    by_cases hi : who = i
    · simp [toldAbout, hi, List.filter_map, Function.comp_def]
    · simp [toldAbout, hi, List.filter_map, Function.comp_def]

end Patch

lemma toldAbout_append (ds ds' : List Delivery) (i : SessionId) :
    toldAbout (ds ++ ds') i = toldAbout ds i ++ toldAbout ds' i := by
  simp [toldAbout]

lemma recordedUnder_append {r r' : Recorder} {more : List Recorded}
    (h : r'.commands = r.commands ++ more) (hkey : ∀ c ∈ more, c.callId? = some key)
    (k : Option CallId) :
    recordedUnder r' k = recordedUnder r k ++ if k = some key then more else [] := by
  unfold recordedUnder
  rw [h, List.filter_append]
  congr 1
  split
  · next hk => exact List.filter_eq_self.mpr fun c hc => by simp [hkey c hc, hk]
  · next hk => exact List.filter_eq_nil_iff.mpr fun c hc => by simp [hkey c hc, Ne.symm hk]

/-- Two patches that are applied in either order: `p` and then `q'`, or `q` and then `p'`. What is
named in the one order stands for what is named in the other. -/
structure Crossing (ids : Equiv.Perm SessionId) (pairs : IdSupply → IdSupply → Prop)
    (g : Group (Journal Recorder)) (key key' : CallId) (p p' q q' : Patch)
    (a b ab ba : Group (Journal Recorder) × List Delivery) : Prop where
  first : p.Applies key g a
  then_second : q'.Applies key' a.1 ab
  second : q.Applies key' g b
  then_first : p'.Applies key b.1 ba
  keys : key ≠ key'
  fixes : ∀ i < g.cells.length, ids i = i
  renamed : p.Renamed pairs p'
  renamed' : q'.Renamed pairs q
  number : p'.number = p.number.map ids
  number' : q.number = q'.number.map ids
  distinct : ∀ i, p.number = some i → q'.number ≠ some i

namespace Crossing

variable {key' : CallId} {p p' q q' : Patch} {a b ab ba : Group (Journal Recorder) × List Delivery}

/-- The cells that were there before stand for themselves. -/
lemma cells_before (h : Crossing ids pairs g key key' p p' q q' a b ab ba) (i : SessionId) :
    Option.Rel (Cell.Replaces pairs) g.cells[i]? g.cells[ids i]? := by
  by_cases hi : i < g.cells.length
  · rw [h.fixes i hi, List.getElem?_eq_getElem hi]
    exact .some ⟨rfl, .refl pairs _⟩
  · have hi' : ¬ ids i < g.cells.length := fun hlt => by
      have hfixed : ids i = i := ids.injective (h.fixes (ids i) hlt)
      exact hi (hfixed ▸ hlt)
    rw [List.getElem?_eq_none (Nat.le_of_not_lt hi), List.getElem?_eq_none (Nat.le_of_not_lt hi')]
    exact .none

lemma cells (h : Crossing ids pairs g key key' p p' q q' a b ab ba) (i : SessionId) :
    Option.Rel (Cell.Replaces pairs) ab.1.cells[i]? ba.1.cells[ids i]? := by
  rw [h.then_second.cells, h.first.cells, h.then_first.cells, h.second.cells]
  -- No place gets a cell from both patches, so their order does not matter.
  have hswap : (q'.cell? i).or ((p.cell? i).or g.cells[i]?) =
      (p.cell? i).or ((q'.cell? i).or g.cells[i]?) := by
    by_cases hi : p.number = some i
    · rw [Patch.cell?_eq_none (h.distinct i hi), Option.none_or, Option.none_or]
    · rw [Patch.cell?_eq_none hi, Option.none_or, Option.none_or]
  rw [hswap]
  exact (h.renamed.cell? h.number i).or ((h.renamed'.cell? h.number' i).or (h.cells_before i))

lemma owners (h : Crossing ids pairs g key key' p p' q q' a b ab ba)
    (hg : ∀ k who, g.registry.get? k = some who → who < g.cells.length) (k : CallId) :
    ba.1.registry.get? k = (ab.1.registry.get? k).map ids := by
  have hp : (if p'.owned then p'.number else none) =
      (if p.owned then p.number else none).map ids := by
    rw [h.renamed.owned, h.number]
    split <;> rfl
  have hq : (if q.owned then q.number else none) =
      (if q'.owned then q'.number else none).map ids := by
    rw [h.renamed'.owned, h.number']
    split <;> rfl
  by_cases hk : k = key
  · subst hk
    rw [h.then_first.owner, h.then_second.keys k h.keys, h.first.owner, hp]
  by_cases hk' : k = key'
  · subst hk'
    rw [h.then_first.keys k hk, h.second.owner, h.then_second.owner, hq]
  · rw [h.then_first.keys k hk, h.second.keys k hk', h.then_second.keys k hk', h.first.keys k hk]
    cases howner : g.registry.get? k with
    | none => rfl
    | some who => rw [Option.map_some, h.fixes who (hg k who howner)]

lemma told (h : Crossing ids pairs g key key' p p' q q' a b ab ba) (i : SessionId) :
    toldAbout (b.2 ++ ba.2) (ids i) = toldAbout (a.2 ++ ab.2) i := by
  rw [toldAbout_append, toldAbout_append, h.first.told, h.then_second.told, h.second.told,
    h.then_first.told]
  simp only [Patch.toldAbout_deliveries, h.renamed.told, h.renamed'.told, h.number, h.number',
    Option.map_eq_some_iff, ids.injective.eq_iff, exists_eq_right]
  by_cases hi : p.number = some i
  · simp [hi, h.distinct i hi]
  · simp [hi]

lemma commands (h : Crossing ids pairs g key key' p p' q q' a b ab ba) (k : Option CallId) :
    recordedUnder ba.1.network.network k = recordedUnder ab.1.network.network k := by
  rw [recordedUnder_append h.then_first.commands h.then_first.recorded,
    recordedUnder_append h.second.commands h.second.recorded,
    recordedUnder_append h.then_second.commands h.then_second.recorded,
    recordedUnder_append h.first.commands h.first.recorded, h.renamed.recorded, h.renamed'.recorded]
  by_cases hk : k = some key
  · simp [hk, h.keys]
  · simp [hk]

end Crossing

/-! ### The numbers of sessions that are created -/

section Numbers

variable {key' : CallId} {p p' q q' : Patch} {a b : Group (Journal Recorder) × List Delivery}

lemma Patch.Applies.lt_length (h : p.Applies key g a) (i : SessionId) :
    i < a.1.cells.length ↔ p.number = some i ∨ i < g.cells.length := by
  have hnumber : (p.cell? i).isSome ↔ p.number = some i := by
    unfold Patch.cell? Patch.number
    cases p.touched with
    | none => simp
    | some touched => by_cases hi : touched.1 = i <;> simp [hi]
  have hget : ∀ cells : List Cell, i < cells.length ↔ cells[i]?.isSome := by simp
  rw [← hnumber, hget, hget, h.cells, Option.isSome_or, Bool.or_eq_true]

/-- A patch creates one session or none. -/
lemma Patch.Applies.length (h : p.Applies key g a)
    (hp : ∀ i, p.number = some i → i ≤ g.cells.length) :
    a.1.cells.length = if p.number = some g.cells.length then g.cells.length + 1
      else g.cells.length := by
  have hlt := h.lt_length
  split
  · next hnew =>
    refine Nat.le_antisymm (Nat.le_of_not_lt fun hmore => ?_) ((hlt _).mpr (.inl hnew))
    rcases (hlt (g.cells.length + 1)).mp hmore with hi | hi
    · exact Nat.not_succ_le_self _ (hp _ hi)
    · exact Nat.not_succ_lt_self hi
  · next hold =>
    refine Nat.le_antisymm (Nat.le_of_not_lt fun hmore => ?_) (Nat.le_of_not_lt fun hless => ?_)
    · exact ((hlt g.cells.length).mp hmore).elim hold (Nat.lt_irrefl _)
    · exact Nat.lt_irrefl _ ((hlt a.1.cells.length).mpr (.inr hless))

lemma Sound.owner_lt (hg : Sound g) {who : SessionId} (h : g.registry.get? key = some who) :
    who < g.cells.length := by
  obtain ⟨s, hs, -⟩ := hg.owners key who h
  obtain ⟨_, hcell⟩ := session?_eq_some.mp hs
  exact (List.getElem?_eq_some_iff.mp hcell).1

lemma Placed.le_length (h : Placed key g g' p p') (hg : Sound g) :
    ∀ i, p.number = some i → i ≤ g.cells.length := by
  intro i hi
  cases h with
  | owner who howner hp =>
    obtain rfl := Option.some.inj (hi.symm.trans hp)
    exact Nat.le_of_lt (hg.owner_lt howner)
  | nobody _ hp =>
    rw [hp] at hi
    cases hi
  | created _ hp => exact Nat.le_of_eq (Option.some.inj (hi.symm.trans hp))

lemma Placed.owns (h : Placed key g g' p p') {who : SessionId} (hwho : p.number = some who)
    (hold : who ≠ g.cells.length) : g.registry.get? key = some who := by
  cases h with
  | owner _ howner hp => rw [howner, ← hp, hwho]
  | nobody _ hp =>
    rw [hp] at hwho
    cases hwho
  | created _ hp => exact absurd (Option.some.inj (hwho.symm.trans hp)) hold

lemma Placed.number_of_created (h : Placed key g g' p p') (hg : Sound g)
    (hnew : p.number = some g.cells.length) : p'.number = some g'.cells.length := by
  cases h with
  | owner who howner hp =>
    obtain rfl := Option.some.inj (hp.symm.trans hnew)
    exact absurd (hg.owner_lt howner) (Nat.lt_irrefl _)
  | nobody _ hp =>
    rw [hp] at hnew
    cases hnew
  | created _ _ hp' => exact hp'

/-- A session that is created after the same sessions has the same number in both groups, and so has
one that was there before. -/
lemma Placed.number_eq (h : Placed key g g' p p')
    (hlength : p.number = some g.cells.length → g'.cells.length = g.cells.length) :
    p'.number = p.number := by
  cases h with
  | owner who _ hp hp' => rw [hp, hp']
  | nobody _ hp hp' => rw [hp, hp']
  | created _ hp hp' => rw [hp', hp, hlength hp]

/-- When two patches come in the other order, at most two sessions change their numbers: those that
are created. -/
lemma exists_numbers (hg : Sound g) (hne : key ≠ key') (ha : p.Applies key g a)
    (hb : q.Applies key' g b) (hp : Placed key g b.1 p p') (hq : Placed key' g a.1 q q') :
    ∃ ids : Equiv.Perm SessionId, (∀ i < g.cells.length, ids i = i) ∧
      p'.number = p.number.map ids ∧ q.number = q'.number.map ids ∧
      ∀ i, p.number = some i → q'.number ≠ some i := by
  have hlength := ha.length (hp.le_length hg)
  have hlength' := hb.length (hq.le_length hg)
  by_cases hboth : p.number = some g.cells.length ∧ q.number = some g.cells.length
  · obtain ⟨hnew, hnew'⟩ := hboth
    rw [if_pos hnew] at hlength
    rw [if_pos hnew'] at hlength'
    refine ⟨Equiv.swap g.cells.length (g.cells.length + 1), fun i hi => ?_, ?_, ?_, fun i hi => ?_⟩
    · exact Equiv.swap_apply_of_ne_of_ne (Nat.ne_of_lt hi) (Nat.ne_of_lt (Nat.lt_succ_of_lt hi))
    · rw [hp.number_of_created hg hnew, hnew, hlength', Option.map_some, Equiv.swap_apply_left]
    · rw [hq.number_of_created hg hnew', hnew', hlength, Option.map_some, Equiv.swap_apply_right]
    · rw [hq.number_of_created hg hnew', hlength, ← Option.some.inj (hnew.symm.trans hi)]
      simp
  · have hsame : p'.number = p.number := hp.number_eq fun hnew => by
      rw [hlength', if_neg fun hnew' => hboth ⟨hnew, hnew'⟩]
    have hsame' : q'.number = q.number := hq.number_eq fun hnew' => by
      rw [hlength, if_neg fun hnew => hboth ⟨hnew, hnew'⟩]
    refine ⟨Equiv.refl SessionId, fun i _ => rfl, ?_, ?_, fun i hi hi' => ?_⟩
    · rw [hsame]
      exact Option.map_id'.symm
    · rw [hsame']
      exact Option.map_id'.symm
    · rw [hsame'] at hi'
      have hold : i ≠ g.cells.length := by
        rintro rfl
        exact hboth ⟨hi, hi'⟩
      exact hne (hg.key_unique (hp.owns hi hold) (hq.owns hi' hold))

end Numbers

end Group

end SipAgent
