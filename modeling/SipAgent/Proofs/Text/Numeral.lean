import Mathlib.Data.List.Basic
import SipAgent.Text.Numeral

/-!
# Numerals that are read back

A number within the bound of a reader is read back from its decimal numeral, and any number from its
digits in a base.
-/

namespace SipAgent.Text

variable {max base v n : Nat} {digit? : Char → Option Nat} {c : Char} {cs first later : List Char}

/-! ### Decimal numerals -/

lemma decimalDigit?_digitChar {d : Nat} (h : d < 10) : decimalDigit? d.digitChar = some d := by
  decide +revert

lemma isDigit_of_mem_decimal (h : c ∈ decimal n) : c.isDigit = true :=
  Nat.isDigit_of_mem_toDigits (by decide) (by decide) h

lemma not_mem_decimal (n : Nat) (hc : c.isDigit = false) : c ∉ decimal n := fun hmem => by
  cases hc.symm.trans (isDigit_of_mem_decimal hmem)

lemma decimal_ne_nil (n : Nat) : decimal n ≠ [] :=
  Nat.toDigits_ne_nil

lemma readDigits_append_singleton (h : readDigits max v first = .ok n) :
    readDigits max v (first ++ [c]) = readDigits max n [c] := by
  induction first generalizing v with
  | nil =>
    obtain rfl : v = n := Except.ok.inj h
    rfl
  | cons a first ih =>
    rw [readDigits] at h
    rw [List.cons_append, readDigits]
    split at h
    · cases h
    · next d hd =>
      dsimp only at h ⊢
      split at h
      · cases h
      · next hle =>
        rw [if_neg hle]
        exact ih h

lemma readDigits_digitChar {d : Nat} (hd : d < 10) (hle : v * 10 + d ≤ max) :
    readDigits max v [d.digitChar] = .ok (v * 10 + d) := by
  simp only [readDigits, decimalDigit?_digitChar hd, if_neg (Nat.not_lt.mpr hle)]

lemma readDigits_decimal (h : n ≤ max) : readDigits max 0 (decimal n) = .ok n := by
  induction n using Nat.strongRecOn with
  | ind n ih =>
    rw [decimal]
    by_cases hn : n < 10
    · rw [Nat.toDigits_of_lt_base hn, readDigits_digitChar hn (by omega), Nat.zero_mul,
        Nat.zero_add]
    · have hfront : readDigits max 0 (decimal (n / 10)) = .ok (n / 10) :=
        ih (n / 10) (by omega) (by omega)
      rw [decimal] at hfront
      rw [Nat.toDigits_of_base_le (by decide) (by omega), readDigits_append_singleton hfront,
        readDigits_digitChar (by omega) (by omega), Nat.div_add_mod' n 10]

lemma readUnsigned_decimal (h : n ≤ max) : readUnsigned max (decimal n) = .ok n := by
  have hdigit : ∀ c ∈ decimal n, c ≠ '+' := fun c hc =>
    ne_of_mem_of_not_mem hc (not_mem_decimal n rfl)
  have hread := readDigits_decimal h
  obtain ⟨c, digits, heq⟩ := List.exists_cons_of_ne_nil (decimal_ne_nil n)
  rw [heq] at hdigit hread ⊢
  have hc : c ≠ '+' := hdigit c List.mem_cons_self
  unfold readUnsigned
  split
  · next h => cases h
  · next h => exact absurd (List.cons.inj h).1 hc
  · next h => exact absurd (List.cons.inj h).1 hc
  · exact hread

/-- A port is read back from its numeral. -/
lemma readUInt16_decimal (port : UInt16) : readUInt16 (decimal port.toNat) = .ok port := by
  have hle : port.toNat ≤ 0xffff := Nat.le_of_lt_succ port.toNat_lt
  rw [readUInt16, readUnsigned_decimal hle, Except.map, UInt16.ofNat_toNat]

/-- A number of seconds is read back from its numeral. -/
lemma readUInt32_decimal (n : UInt32) : readUInt32 (decimal n.toNat) = .ok n := by
  have hle : n.toNat ≤ 0xffffffff := Nat.le_of_lt_succ n.toNat_lt
  rw [readUInt32, readUnsigned_decimal hle, Except.map, UInt32.ofNat_toNat]

lemma isSome_of_readDigits (h : readDigits max v cs = .ok n) (hc : c ∈ cs) :
    (decimalDigit? c).isSome = true := by
  induction cs generalizing v with
  | nil => cases hc
  | cons a cs ih =>
    rw [readDigits] at h
    split at h
    · cases h
    · next d hd =>
      dsimp only at h
      split at h
      · cases h
      · rcases List.mem_cons.mp hc with rfl | hc
        · rw [hd]
          rfl
        · exact ih h hc

/-- A numeral holds digits, and perhaps a plus sign. -/
lemma mem_of_readUnsigned (h : readUnsigned max cs = .ok n) (hc : c ∈ cs) :
    c = '+' ∨ (decimalDigit? c).isSome = true := by
  unfold readUnsigned at h
  split at h
  · cases h
  · cases h
  · rcases List.mem_cons.mp hc with rfl | hc
    · exact .inl rfl
    · exact .inr (isSome_of_readDigits h hc)
  · exact .inr (isSome_of_readDigits h hc)

/-- The numeral of a status has three digits. -/
lemma length_decimal_of_status (hlow : 100 ≤ n) (hhigh : n ≤ 999) : (decimal n).length = 3 := by
  have hone : (Nat.toDigits 10 (n / 10 / 10)).length = 1 := by
    rw [Nat.toDigits_of_lt_base (by omega)]
    rfl
  rw [decimal, Nat.toDigits_of_base_le (by decide) (by omega), List.length_append,
    Nat.toDigits_of_base_le (by decide) (by omega), List.length_append, hone]
  rfl

/-! ### Digits in a base -/

lemma readInBase_append (first later : List Char) :
    readInBase base digit? v (first ++ later) =
      (readInBase base digit? v first).bind fun w => readInBase base digit? w later := by
  induction first generalizing v with
  | nil => rfl
  | cons a first ih =>
    rw [List.cons_append, readInBase, readInBase]
    cases digit? a with
    | none => rfl
    | some d => exact ih

/-- A number is read back from its digits. -/
lemma readInBase_toDigits (hbase : 1 < base) (hdigit : ∀ d < base, digit? d.digitChar = some d)
    (n : Nat) : readInBase base digit? 0 (Nat.toDigits base n) = some n := by
  induction n using Nat.strongRecOn with
  | ind n ih =>
    by_cases hn : n < base
    · rw [Nat.toDigits_of_lt_base hn, readInBase, hdigit n hn]
      simp [readInBase]
    · have hfront := ih (n / base) (Nat.div_lt_self (by omega) hbase)
      have hlast := hdigit (n % base) (Nat.mod_lt n (by omega))
      rw [Nat.toDigits_of_base_le hbase (by omega), readInBase_append, hfront, Option.bind_some,
        readInBase, hlast]
      simp [readInBase, Nat.div_add_mod']

/-- Only digits are read. -/
lemma isSome_of_readInBase (h : readInBase base digit? v cs = some n) (hc : c ∈ cs) :
    (digit? c).isSome = true := by
  induction cs generalizing v with
  | nil => cases hc
  | cons a cs ih =>
    rw [readInBase] at h
    split at h
    · cases h
    · next d hd =>
      rcases List.mem_cons.mp hc with rfl | hc
      · rw [hd]
        rfl
      · exact ih h hc

lemma hexDigit?_digitChar : ∀ d < 16, hexDigit? d.digitChar = some d := by
  decide

lemma readInBase_hex (n : Nat) : readInBase 16 hexDigit? 0 (hex n) = some n :=
  readInBase_toDigits (by decide) hexDigit?_digitChar n

lemma isSome_of_mem_hex (h : c ∈ hex n) : (hexDigit? c).isSome = true :=
  isSome_of_readInBase (readInBase_hex n) h

lemma hex_ne_nil (n : Nat) : hex n ≠ [] :=
  Nat.toDigits_ne_nil

end SipAgent.Text
