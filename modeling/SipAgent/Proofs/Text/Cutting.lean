import Mathlib.Data.List.TakeWhile
import SipAgent.Text.Cut

/-!
# Where texts are cut

A text that was put together is cut where it was put together, provided that its pieces hold nothing
of what a reader looks for. Each reader of `Text` has its lemma here, with just this proviso.
-/

namespace SipAgent.Text

variable {p : Char → Bool} {c : Char} {w cs before after rest : List Char}

/-! ### Classes of characters -/

/-- The text is made of characters of the class. -/
def AllIn (p : Char → Bool) (cs : List Char) : Prop :=
  ∀ c ∈ cs, p c = true

instance : Decidable (AllIn p cs) :=
  List.decidableBAll (fun c => p c = true) cs

/-- The text is empty, or goes on with a character of the class. -/
def StartsIn (p : Char → Bool) (cs : List Char) : Prop :=
  ∀ c ∈ cs.head?, p c = true

@[simp] lemma startsIn_nil : StartsIn p [] :=
  nofun

@[simp] lemma startsIn_cons : StartsIn p (c :: rest) ↔ p c = true := by
  simp [StartsIn]

instance : Decidable (StartsIn p cs) :=
  match cs with
  | [] => isTrue startsIn_nil
  | _ :: _ => decidable_of_iff _ startsIn_cons.symm

/-- A text of one class lacks all characters outside it. -/
lemma not_mem_of_class (h : AllIn p cs) (hc : p c = false) : c ∉ cs := by
  intro hmem
  cases (h c hmem).symm.trans hc

/-- A text that lacks a character is outside the class of this one. -/
lemma beq_eq_false_of_not_mem {a : Char} (ha : a ∉ cs) : ∀ c ∈ cs, (c == a) = false :=
  fun _ hc => beq_eq_false_iff_ne.mpr (ne_of_mem_of_not_mem hc ha)

/-- A text that lacks two characters is outside the class of the two. -/
lemma either_eq_false {a b : Char} (ha : a ∉ cs) (hb : b ∉ cs) :
    ∀ c ∈ cs, (c == a || c == b) = false := by
  intro c hc
  rw [beq_eq_false_of_not_mem ha c hc, beq_eq_false_of_not_mem hb c hc, Bool.or_false]

lemma takeWhile_append (hw : AllIn p w) (hrest : StartsIn (fun c => !p c) rest) :
    (w ++ rest).takeWhile p = w := by
  rw [List.takeWhile_append_of_pos hw]
  cases rest with
  | nil => exact List.append_nil w
  | cons c rest =>
    have hc : p c = false := by simpa using hrest
    rw [List.takeWhile_cons_of_neg (by simp [hc]), List.append_nil]

lemma dropWhile_append (hw : AllIn p w) (hrest : StartsIn (fun c => !p c) rest) :
    (w ++ rest).dropWhile p = rest := by
  rw [List.dropWhile_append_of_pos hw]
  cases rest with
  | nil => rfl
  | cons c rest =>
    have hc : p c = false := by simpa using hrest
    rw [List.dropWhile_cons_of_neg (by simp [hc])]

/-- What is left behind the characters of a class starts outside it. -/
lemma startsIn_dropWhile (p : Char → Bool) (cs : List Char) :
    StartsIn (fun c => !p c) (cs.dropWhile p) := by
  intro c hc
  have hstop := List.head?_dropWhile_not p cs
  rw [Option.mem_def.mp hc] at hstop
  simpa using hstop

/-- A text breaks before the first character of the class. -/
lemma breakAt_append_of (hbefore : ∀ c ∈ before, p c = false) (hafter : StartsIn p after) :
    breakAt p (before ++ after) = (before, after) := by
  have hw : AllIn (fun c => !p c) before := fun c hc => by simp [hbefore c hc]
  have hrest : StartsIn (fun c => !!p c) after := by simpa using hafter
  rw [breakAt, takeWhile_append hw hrest, dropWhile_append hw hrest]

/-- A text that breaks goes on with a character of the class. -/
lemma startsIn_breakAt (p : Char → Bool) (cs : List Char) : StartsIn p (breakAt p cs).2 := by
  simpa only [breakAt, Bool.not_not] using startsIn_dropWhile (fun c => !p c) cs

/-! ### Characters -/

lemma cutOptional_of_not_mem (h : c ∉ cs) : cutOptional c cs = (cs, none) := by
  rw [cutOptional, cut_eq_none_iff.mpr h]

lemma cutOptional_append (after : List Char) (h : c ∉ before) :
    cutOptional c (before ++ c :: after) = (before, some after) := by
  rw [cutOptional, cut_append after h]

/-- There is one way only to cut a text at its first mark. -/
lemma eq_of_append_cons {before' after' : List Char}
    (h : before ++ c :: after = before' ++ c :: after') (hbefore : c ∉ before)
    (hbefore' : c ∉ before') : before = before' ∧ after = after' := by
  have hcut := cut_append after hbefore
  rw [h, cut_append after' hbefore'] at hcut
  cases hcut
  exact ⟨rfl, rfl⟩

lemma initial_cutOptional (c : Char) (cs : List Char) : (cutOptional c cs).1 <+: cs := by
  unfold cutOptional
  split
  · next before after h => exact (eq_append_of_cut h).1 ▸ List.prefix_append before _
  · exact List.prefix_refl cs

/-- There is no mark left in front of the first one. -/
lemma not_mem_cutOptional (c : Char) (cs : List Char) : c ∉ (cutOptional c cs).1 := by
  unfold cutOptional
  split
  · next before after h => exact (eq_append_of_cut h).2
  · next h => exact cut_eq_none_iff.mp h

/-- A text is what stands in front of its first mark, and what the mark brings along. -/
lemma eq_append_cutOptional (c : Char) (cs : List Char) :
    cs = (cutOptional c cs).1 ++
      match (cutOptional c cs).2 with
      | some after => c :: after
      | none => [] := by
  unfold cutOptional
  split
  · next before after h => exact (eq_append_of_cut h).1
  · exact (List.append_nil cs).symm

/-! ### Pieces -/

lemma pieces_of_not_mem (h : c ∉ before) : pieces c before = [before] := by
  induction before with
  | nil => rfl
  | cons x before ih =>
    rw [List.mem_cons, not_or] at h
    rw [pieces, if_neg (Ne.symm h.1), ih h.2]

lemma pieces_append (rest : List Char) (h : c ∉ before) :
    pieces c (before ++ c :: rest) = before :: pieces c rest := by
  induction before with
  | nil => rw [List.nil_append, pieces, if_pos rfl]
  | cons x before ih =>
    rw [List.mem_cons, not_or] at h
    rw [List.cons_append, pieces, if_neg (Ne.symm h.1), ih h.2]

/-! ### Words -/

lemma eq_append_of_dropWord (h : dropWord w cs = some rest) : cs = w ++ rest := by
  induction w generalizing cs with
  | nil =>
    rw [dropWord] at h
    exact Option.some.inj h
  | cons a w ih =>
    cases cs with
    | nil => cases h
    | cons x cs =>
      rw [dropWord] at h
      split at h
      · next hx =>
        rw [hx, ih h]
        rfl
      · cases h

/-- A word at the start of a text is its first occurrence. -/
lemma cutWord_of_dropWord (h : dropWord w cs = some rest) : cutWord w cs = some ([], rest) := by
  cases cs with
  | nil => rw [cutWord, h, Option.map_some]
  | cons x cs => simp only [cutWord, h]

/-- What stands after an occurrence of a word is the end of the text. -/
lemma suffix_of_cutWord (h : cutWord w cs = some (before, rest)) : rest <:+ cs := by
  induction cs generalizing before with
  | nil =>
    rw [cutWord] at h
    obtain ⟨after, hdrop, heq⟩ := Option.map_eq_some_iff.mp h
    cases heq
    exact eq_append_of_dropWord hdrop ▸ List.suffix_append w rest
  | cons x cs ih =>
    rw [cutWord] at h
    split at h
    · next after hdrop =>
      cases h
      exact eq_append_of_dropWord hdrop ▸ List.suffix_append w rest
    · obtain ⟨split, hcut, heq⟩ := Option.map_eq_some_iff.mp h
      cases heq
      exact (ih hcut).trans (List.suffix_cons x cs)

/-- A word with a character that a text lacks does not occur in it. -/
lemma cutWord_eq_none (hc : c ∈ w) (hcs : c ∉ cs) : cutWord w cs = none := by
  have hnot : ∀ cs : List Char, c ∉ cs → dropWord w cs = none := by
    intro cs hcs
    rw [Option.eq_none_iff_forall_ne_some]
    intro rest hdrop
    rw [eq_append_of_dropWord hdrop] at hcs
    exact hcs (List.mem_append_left rest hc)
  induction cs with
  | nil => rw [cutWord, hnot [] hcs, Option.map_none]
  | cons x cs ih =>
    rw [cutWord, hnot (x :: cs) hcs]
    simp only [ih fun h => hcs (List.mem_cons_of_mem x h), Option.map_none]

/-- A text without the first character of a word is passed over by a search for the word. -/
lemma cutWord_append (h : c ∉ before) :
    cutWord (c :: w) (before ++ rest) =
      (cutWord (c :: w) rest).map fun split => (before ++ split.1, split.2) := by
  induction before with
  | nil => simp
  | cons x before ih =>
    rw [List.mem_cons, not_or] at h
    rw [List.cons_append, cutWord, dropWord, if_neg h.1, ih h.2, Option.map_map]
    rfl

/-! ### Letter case -/

lemma sameAnyCase_iff {a b : List Char} :
    sameAnyCase a b = true ↔ a.map Char.toLower = b.map Char.toLower := by
  simp [sameAnyCase]

@[simp] lemma dropWordAnyCase_append (w rest : List Char) :
    dropWordAnyCase w (w ++ rest) = some rest := by
  induction w with
  | nil => simp [dropWordAnyCase]
  | cons a w ih => simp [dropWordAnyCase, ih]

/-- What has been dropped is the word, in some letter case. -/
lemma eq_append_of_dropWordAnyCase (h : dropWordAnyCase w cs = some rest) :
    ∃ first, sameAnyCase first w = true ∧ cs = first ++ rest := by
  induction w generalizing cs with
  | nil =>
    rw [dropWordAnyCase] at h
    exact ⟨[], rfl, Option.some.inj h⟩
  | cons a w ih =>
    cases cs with
    | nil => cases h
    | cons x cs =>
      rw [dropWordAnyCase] at h
      split at h
      · next hx =>
        obtain ⟨first, hsame, rfl⟩ := ih h
        rw [sameAnyCase_iff] at hsame
        exact ⟨x :: first, by simp [sameAnyCase_iff, hsame, hx], rfl⟩
      · cases h

/-- A word is dropped in any letter case. -/
lemma dropWordAnyCase_of_sameAnyCase {first : List Char} (h : sameAnyCase first w = true)
    (rest : List Char) : dropWordAnyCase w (first ++ rest) = some rest := by
  rw [sameAnyCase_iff] at h
  induction w generalizing first with
  | nil =>
    obtain rfl : first = [] := by simpa using h
    simp [dropWordAnyCase]
  | cons a w ih =>
    obtain ⟨x, first, rfl, hx, hfirst⟩ := List.map_eq_cons_iff.mp h
    rw [List.cons_append, dropWordAnyCase, if_pos hx.symm, ih hfirst]

/-- A colon has no other letter case. -/
lemma colon_toLower_iff (x : Char) : (':' : Char).toLower = x.toLower ↔ ':' = x := by
  refine ⟨fun h => ?_, fun h => congrArg Char.toLower h⟩
  have hcolon : (':' : Char).toLower = ':' := rfl
  rw [hcolon] at h
  delta Char.toLower at h
  split at h
  · next hupper =>
    have hval : 58 = (x.val + 32).toNat := congrArg (fun c => c.val.toNat) h
    have hlow : 65 ≤ x.val.toNat := hupper.1
    have hhigh : x.val.toNat ≤ 90 := hupper.2
    rw [UInt32.toNat_add] at hval
    change 58 = (x.val.toNat + 32) % 2 ^ 32 at hval
    omega
  · exact h

/-- What follows a word that ends with a mark, in any letter case, follows the first such mark: the
word has it only at its end, and the mark is no letter. -/
lemma cut_of_dropWordAnyCase (hcase : ∀ x : Char, c.toLower = x.toLower ↔ c = x) (hw : c ∉ w)
    (h : dropWordAnyCase (w ++ [c]) cs = some rest) : ∃ before, cut c cs = some (before, rest) := by
  induction w generalizing cs with
  | nil =>
    cases cs with
    | nil => cases h
    | cons x cs =>
      rw [List.nil_append, dropWordAnyCase] at h
      split at h
      · next hx =>
        obtain rfl := (hcase x).mp hx
        obtain rfl : cs = rest := by simpa [dropWordAnyCase] using h
        exact ⟨[], by rw [cut, if_pos rfl]⟩
      · cases h
  | cons a w ih =>
    cases cs with
    | nil => cases h
    | cons x cs =>
      rw [List.cons_append, dropWordAnyCase] at h
      split at h
      · next hx =>
        obtain ⟨before, hcut⟩ := ih (fun hc => hw (List.mem_cons_of_mem a hc)) h
        have hne : x ≠ c := by
          rintro rfl
          exact hw ((hcase a).mp hx.symm ▸ List.mem_cons_self)
        exact ⟨x :: before, by rw [cut, if_neg hne, hcut, Option.map_some]⟩
      · cases h

/-! ### Trimming -/

/-- Nothing of the class is at the ends of the text. -/
structure Trimmed (p : Char → Bool) (cs : List Char) : Prop where
  first : StartsIn (fun c => !p c) cs
  last : StartsIn (fun c => !p c) cs.reverse

instance : Decidable (Trimmed p cs) :=
  decidable_of_iff (StartsIn (fun c => !p c) cs ∧ StartsIn (fun c => !p c) cs.reverse)
    ⟨fun h => ⟨h.1, h.2⟩, fun h => ⟨h.first, h.last⟩⟩

/-- What is trimmed loses the characters of the class around it. -/
lemma trim_append (before : List Char) (hbefore : AllIn p before) (hafter : AllIn p after)
    (h : Trimmed p cs) (hne : cs ≠ []) :
    trim p (before ++ (cs ++ after)) = cs := by
  have hfirst : StartsIn (fun c => !p c) (cs ++ after) := by
    obtain ⟨c, rest, rfl⟩ := List.exists_cons_of_ne_nil hne
    exact h.first
  have hback : AllIn p after.reverse := fun c hc => hafter c (List.mem_reverse.mp hc)
  rw [trim, dropWhile_append hbefore hfirst, dropTail, List.reverse_append,
    dropWhile_append hback h.last, List.reverse_reverse]

/-- Nothing is dropped from the front exactly when nothing of the class is there. -/
lemma dropWhile_eq_self_iff : cs.dropWhile p = cs ↔ StartsIn (fun c => !p c) cs := by
  cases cs with
  | nil => simp
  | cons c rest =>
    rw [List.dropWhile_eq_self_iff]
    simp

lemma dropTail_eq_self_iff : dropTail p cs = cs ↔ StartsIn (fun c => !p c) cs.reverse := by
  rw [dropTail, List.reverse_eq_iff, dropWhile_eq_self_iff]

lemma dropTail_sublist (p : Char → Bool) (cs : List Char) : (dropTail p cs).Sublist cs := by
  have h := List.dropWhile_sublist p (l := cs.reverse)
  rwa [← List.reverse_sublist, List.reverse_reverse] at h

lemma trim_sublist (p : Char → Bool) (cs : List Char) : (trim p cs).Sublist cs :=
  (dropTail_sublist p _).trans (List.dropWhile_sublist p)

/-- Nothing is trimmed exactly when nothing of the class is at the ends. -/
lemma trim_eq_self_iff : trim p cs = cs ↔ Trimmed p cs := by
  constructor
  · -- The first stage already drops nothing, or the text would have become shorter.
    intro h
    have hlast := dropTail_sublist p (cs.dropWhile p)
    rw [← trim, h] at hlast
    have hfirst := (List.dropWhile_sublist p).eq_of_length_le hlast.length_le
    rw [trim, hfirst] at h
    exact ⟨dropWhile_eq_self_iff.mp hfirst, dropTail_eq_self_iff.mp h⟩
  · intro h
    rw [trim, dropWhile_eq_self_iff.mpr h.first, dropTail_eq_self_iff.mpr h.last]

lemma trim_of_trimmed (h : Trimmed p cs) : trim p cs = cs :=
  trim_eq_self_iff.mpr h

end SipAgent.Text
