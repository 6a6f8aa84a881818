import Mathlib.Data.List.Basic
import SipAgent.Text.Octets

/-!
# Text in octets

A grammar of octets sees a text as it is spelled in UTF-8, with one character for each octet. The
characters of ASCII spell themselves, and no other character spells them, so a reader that looks
for separators finds those of the text and no others; what it cuts out can be decoded again.
-/

namespace SipAgent.Octets

/-- The characters that spell a text, one for each octet. -/
def spell (cs : List Char) : List Char :=
  chars (ofText (String.ofList cs))

/-- The characters are all of ASCII. -/
def IsAscii (cs : List Char) : Prop :=
  ∀ c ∈ cs, c.toNat < 128

instance : DecidablePred IsAscii :=
  List.decidableBAll fun c : Char => c.toNat < 128

variable {c x : Char} {cs first later : List Char}

lemma isAscii_append : IsAscii (first ++ later) ↔ IsAscii first ∧ IsAscii later :=
  List.forall_mem_append

lemma isAscii_cons : IsAscii (c :: cs) ↔ c.toNat < 128 ∧ IsAscii cs :=
  List.forall_mem_cons

/-! ### One character -/

lemma toNat_ofNat_of_lt {n : Nat} (h : n < 256) : (Char.ofNat n).toNat = n := by
  have hvalid : n.isValidChar := .inl (by omega)
  rw [Char.ofNat, dif_pos hvalid]
  rfl

lemma ofNat_toNat_ofNat {n : Nat} (h : n < 256) :
    Char.ofNat (UInt8.ofNat n).toNat = Char.ofNat n := by
  rw [UInt8.toNat_ofNat', Nat.mod_eq_of_lt h]

lemma chars_utf8EncodeChar_of_ascii (h : c.toNat < 128) :
    chars (String.utf8EncodeChar c) = [c] := by
  have hle : c.val.toNat ≤ 127 := Nat.le_of_lt_succ h
  rw [String.utf8EncodeChar]
  simp only [if_pos hle, chars, List.map_cons, List.map_nil]
  rw [ofNat_toNat_ofNat (Nat.lt_of_le_of_lt hle (by decide))]
  congr 1
  exact Char.ofNat_toNat c

/-- All octets of a character outside ASCII are outside ASCII, and there are some. -/
lemma chars_utf8EncodeChar_of_not_ascii (h : 128 ≤ c.toNat) :
    chars (String.utf8EncodeChar c) ≠ [] ∧
      ∀ x ∈ chars (String.utf8EncodeChar c), 128 ≤ x.toNat := by
  have hgt : ¬ c.val.toNat ≤ 127 := Nat.not_le.mpr h
  have hhigh : ∀ n, 128 ≤ n → n < 256 → 128 ≤ (Char.ofNat (UInt8.ofNat n).toNat).toNat := by
    intro n hn hlt
    rw [ofNat_toNat_ofNat hlt, toNat_ofNat_of_lt hlt]
    exact hn
  rw [String.utf8EncodeChar]
  simp only [if_neg hgt]
  split
  · refine ⟨List.cons_ne_nil _ _, ?_⟩
    simp only [chars, List.map_cons, List.map_nil, List.forall_mem_cons]
    exact ⟨hhigh _ (by omega) (by omega), hhigh _ (by omega) (by omega), List.forall_mem_nil _⟩
  · split
    · refine ⟨List.cons_ne_nil _ _, ?_⟩
      simp only [chars, List.map_cons, List.map_nil, List.forall_mem_cons]
      exact ⟨hhigh _ (by omega) (by omega), hhigh _ (by omega) (by omega),
        hhigh _ (by omega) (by omega), List.forall_mem_nil _⟩
    · refine ⟨List.cons_ne_nil _ _, ?_⟩
      simp only [chars, List.map_cons, List.map_nil, List.forall_mem_cons]
      exact ⟨hhigh _ (by omega) (by omega), hhigh _ (by omega) (by omega),
        hhigh _ (by omega) (by omega), hhigh _ (by omega) (by omega), List.forall_mem_nil _⟩

/-! ### Texts -/

lemma ofText_ofList (cs : List Char) :
    ofText (String.ofList cs) = cs.flatMap String.utf8EncodeChar := by
  simp [ofText, List.utf8Encode]

lemma chars_append (first later : Octets) : chars (first ++ later) = chars first ++ chars later :=
  List.map_append

lemma spell_cons (c : Char) (cs : List Char) :
    spell (c :: cs) = chars (String.utf8EncodeChar c) ++ spell cs := by
  simp only [spell, ofText_ofList, List.flatMap_cons, chars_append]

@[simp] lemma spell_append (first later : List Char) :
    spell (first ++ later) = spell first ++ spell later := by
  simp only [spell, ofText_ofList, List.flatMap_append, chars_append]

/-- What is of ASCII spells itself. -/
lemma spell_of_isAscii (h : IsAscii cs) : spell cs = cs := by
  induction cs with
  | nil => rfl
  | cons c cs ih =>
    rw [spell_cons, chars_utf8EncodeChar_of_ascii (h c List.mem_cons_self),
      ih fun x hx => h x (List.mem_cons_of_mem c hx)]
    rfl

/-- A character of ASCII is only found where it stands in the text. -/
lemma mem_of_mem_spell (hx : x ∈ spell cs) (hascii : x.toNat < 128) : x ∈ cs := by
  induction cs with
  | nil => cases hx
  | cons c cs ih =>
    rw [spell_cons, List.mem_append] at hx
    rcases hx with hx | hx
    · by_cases hc : c.toNat < 128
      · rw [chars_utf8EncodeChar_of_ascii hc, List.mem_singleton] at hx
        exact hx ▸ List.mem_cons_self
      · have hhigh := (chars_utf8EncodeChar_of_not_ascii (Nat.le_of_not_lt hc)).2 x hx
        exact absurd hascii (Nat.not_lt.mpr hhigh)
    · exact List.mem_cons_of_mem c (ih hx)

/-- A text begins with a character of ASCII if its spelling does. -/
lemma head?_of_head?_spell (hx : (spell cs).head? = some x) (hascii : x.toNat < 128) :
    cs.head? = some x := by
  cases cs with
  | nil => cases hx
  | cons c cs =>
    rw [spell_cons] at hx
    by_cases hc : c.toNat < 128
    · rw [chars_utf8EncodeChar_of_ascii hc] at hx
      exact hx
    · obtain ⟨hne, hhigh⟩ := chars_utf8EncodeChar_of_not_ascii (Nat.le_of_not_lt hc)
      rw [List.head?_append_of_ne_nil _ hne] at hx
      exact absurd hascii (Nat.not_lt.mpr (hhigh x (List.mem_of_mem_head? hx)))

/-- A text can be read off its spelling. -/
@[simp] lemma decode?_spell (cs : List Char) : decode? (spell cs) = some (String.ofList cs) := by
  have hbytes :
      ByteArray.mk (ofText (String.ofList cs)).toArray = (String.ofList cs).toByteArray := by
    simp [ofText]
  rw [decode?, spell, ofChars_chars, text?, hbytes, String.fromUTF8?,
    dif_pos (String.ofList cs).isValidUTF8]
  rfl

lemma isSome_decode? (h : IsAscii cs) : (decode? cs).isSome = true := by
  rw [← spell_of_isAscii h, decode?_spell]
  rfl

end SipAgent.Octets
