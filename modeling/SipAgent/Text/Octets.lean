/-!
# Octets

Octet strings, and their reading as text. A message is octets first: a grammar reads it with one
character per octet, and a part that has to be text is decoded afterwards.
-/

namespace SipAgent

/-- A string of octets, such as the body of a message. -/
abbrev Octets := List UInt8

namespace Octets

/-- One character per octet. -/
def chars (bytes : Octets) : List Char :=
  bytes.map fun b => Char.ofNat b.toNat

/-- The octets behind a text that has one character per octet. -/
def ofChars (cs : List Char) : Octets :=
  cs.map fun c => UInt8.ofNat c.toNat

/-- The text that octets spell in UTF-8, if they do. -/
def text? (bytes : Octets) : Option String :=
  String.fromUTF8? (ByteArray.mk bytes.toArray)

/-- The octets of a text in UTF-8. -/
def ofText (s : String) : Octets :=
  s.toUTF8.data.toList

/-- The text that a part of an octet string spells, given with one character per octet. -/
def decode? (cs : List Char) : Option String :=
  text? (ofChars cs)

/-! ### Small facts -/

@[simp] theorem ofChars_chars (bytes : Octets) : ofChars (chars bytes) = bytes := by
  induction bytes with
  | nil => rfl
  | cons b bytes ih =>
    simp only [chars, ofChars, List.map_cons, List.map_map] at ih ⊢
    rw [ih]
    congr 1
    have h : b.toNat < 256 := b.toNat_lt
    have hv : b.toNat.isValidChar := Or.inl (by omega)
    have hchar : (Char.ofNat b.toNat).toNat = b.toNat := by
      rw [Char.ofNat, dif_pos hv]
      rfl
    exact (congrArg UInt8.ofNat hchar).trans UInt8.ofNat_toNat

end Octets

end SipAgent
