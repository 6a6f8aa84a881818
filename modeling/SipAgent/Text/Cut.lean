import SipAgent.Text.Blank

/-!
# Cutting texts

A text is cut at the first place where something stands: a character, a class of characters or a
word. Every cut returns what stands before the place and what stands after it, so nothing is lost.
-/

namespace SipAgent.Text

/-- Split before the first character in the class `p`; without one, the second part is empty. -/
def breakAt (p : Char → Bool) (cs : List Char) : List Char × List Char :=
  (cs.takeWhile (fun c => !p c), cs.dropWhile (fun c => !p c))

/-- The text before the first `c` and the text after it, if `c` occurs. -/
def cut (c : Char) : List Char → Option (List Char × List Char)
  | [] => none
  | x :: rest =>
    if x = c then some ([], rest)
    else (cut c rest).map fun (before, after) => (x :: before, after)

/-- The text before the first `c`, and the text after it when `c` occurs. -/
def cutOptional (c : Char) (cs : List Char) : List Char × Option (List Char) :=
  match cut c cs with
  | some (before, after) => (before, some after)
  | none => (cs, none)

/-- What follows the word `w` at the start of a text. -/
def dropWord (w cs : List Char) : Option (List Char) :=
  match w, cs with
  | [], rest => some rest
  | _ :: _, [] => none
  | a :: w, x :: rest => if a = x then dropWord w rest else none

/-- What follows the word `w`, in any ASCII letter case, at the start of a text. -/
def dropWordAnyCase (w cs : List Char) : Option (List Char) :=
  match w, cs with
  | [], rest => some rest
  | _ :: _, [] => none
  | a :: w, x :: rest => if a.toLower = x.toLower then dropWordAnyCase w rest else none

/-- The text before the first occurrence of the word `w` and the text after it. -/
def cutWord (w : List Char) : List Char → Option (List Char × List Char)
  | [] => (dropWord w []).map fun after => ([], after)
  | x :: rest =>
    match dropWord w (x :: rest) with
    | some after => some ([], after)
    | none => (cutWord w rest).map fun (before, after) => (x :: before, after)

/-- The pieces of a text between occurrences of the character `c`; always at least one. -/
def pieces (c : Char) : List Char → List (List Char)
  | [] => [[]]
  | x :: rest =>
    if x = c then [] :: pieces c rest
    else
      match pieces c rest with
      | [] => [[x]]
      | piece :: more => (x :: piece) :: more

/-- The end of a line. -/
def lineEnd : List Char :=
  ['\r', '\n']

/-- The lines of a text; always at least one. -/
def lines : List Char → List (List Char)
  | [] => [[]]
  | '\r' :: '\n' :: rest => [] :: lines rest
  | c :: rest =>
    match lines rest with
    | [] => [[c]]
    | line :: more => (c :: line) :: more

/-- Equality of texts up to the case of ASCII letters. -/
def sameAnyCase (a b : List Char) : Bool :=
  a.map Char.toLower == b.map Char.toLower

/-! ### Small facts -/

/-- Dropping characters leaves no more text than there was. -/
theorem length_dropWhile_le (p : Char → Bool) (cs : List Char) :
    (cs.dropWhile p).length ≤ cs.length :=
  (List.dropWhile_sublist p).length_le

/-- What stands after a cut is shorter than the text. -/
theorem length_of_cut {c : Char} {cs before after : List Char}
    (h : cut c cs = some (before, after)) : after.length < cs.length := by
  induction cs generalizing before after with
  | nil => simp [cut] at h
  | cons x cs ih =>
    by_cases hx : x = c
    · simp only [cut, if_pos hx, Option.some.injEq, Prod.mk.injEq] at h
      simp [← h.2]
    · simp only [cut, if_neg hx, Option.map_eq_some_iff] at h
      obtain ⟨⟨b, a⟩, hcut, heq⟩ := h
      simp only [Prod.mk.injEq] at heq
      have := ih hcut
      rw [← heq.2, List.length_cons]
      omega

/-- A text that does not contain `c` ends right before the `c` that follows it. -/
theorem cut_append {c : Char} {before : List Char} (after : List Char) (h : c ∉ before) :
    cut c (before ++ c :: after) = some (before, after) := by
  induction before with
  | nil => simp [cut]
  | cons x before ih =>
    simp only [List.mem_cons, not_or] at h
    have hx : x ≠ c := fun hxc => h.1 hxc.symm
    simp [cut, hx, ih h.2]

/-- A text is not cut exactly when the character does not occur. -/
theorem cut_eq_none_iff {c : Char} {cs : List Char} : cut c cs = none ↔ c ∉ cs := by
  induction cs with
  | nil => simp [cut]
  | cons x cs ih =>
    by_cases h : x = c
    · simp [cut, h]
    · simp [cut, h, ih, Ne.symm h]

/-- The two parts of a cut and the character between them make up the text. -/
theorem eq_append_of_cut {c : Char} {cs before after : List Char}
    (h : cut c cs = some (before, after)) : cs = before ++ c :: after ∧ c ∉ before := by
  induction cs generalizing before after with
  | nil => simp [cut] at h
  | cons x cs ih =>
    by_cases hx : x = c
    · simp only [cut, if_pos hx, Option.some.injEq, Prod.mk.injEq] at h
      obtain ⟨rfl, rfl⟩ := h
      simp [hx]
    · simp only [cut, if_neg hx, Option.map_eq_some_iff] at h
      obtain ⟨⟨b, a⟩, hcut, heq⟩ := h
      simp only [Prod.mk.injEq] at heq
      obtain ⟨hcs, hnot⟩ := ih hcut
      refine ⟨by simp [← heq.1, ← heq.2, hcs], ?_⟩
      rw [← heq.1]
      simp [hnot, Ne.symm hx]

/-- The two parts of a break make up the text. -/
theorem breakAt_append (p : Char → Bool) (cs : List Char) :
    (breakAt p cs).1 ++ (breakAt p cs).2 = cs := by
  simp [breakAt]

/-- A word is recognised at the start of the text that begins with it. -/
@[simp] theorem dropWord_append (w rest : List Char) : dropWord w (w ++ rest) = some rest := by
  induction w with
  | nil => simp [dropWord]
  | cons a w ih => simp [dropWord, ih]

end SipAgent.Text
