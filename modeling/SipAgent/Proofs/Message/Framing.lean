import SipAgent.Message.Signal
import SipAgent.Proofs.Grammar.Message

/-!
# Headers and body as they are written

A message is written as a start line, fields on a line of their own each, an empty line and a body.
By the rules each field is a header under the name that its spelling stands for, and the body is the
one that was written, whatever its octets are. Of the fields with the same name, the first one is
found.
-/

namespace SipAgent

open Text

/-! ### Octets and text -/

lemma toNat_lt_of_isTokenChar {c : Char} (h : isTokenChar c = true) : c.toNat < 128 := by
  rw [isTokenChar, Bool.or_eq_true] at h
  rcases h with halnum | hmark
  · delta Char.isAlphanum Char.isAlpha Char.isUpper Char.isLower Char.isDigit at halnum
    simp only [Bool.or_eq_true, Bool.and_eq_true, decide_eq_true_eq] at halnum
    rcases halnum with (⟨-, hle⟩ | ⟨-, hle⟩) | ⟨-, hle⟩
    · exact Nat.lt_of_le_of_lt hle (by decide)
    · exact Nat.lt_of_le_of_lt hle (by decide)
    · exact Nat.lt_of_le_of_lt hle (by decide)
  · have hmarks : Octets.IsAscii "-.!%*_+\x60\x27~".toList := by decide
    exact hmarks c (List.contains_iff_mem.mp hmark)

lemma toNat_lt_of_isLineBlank {c : Char} (h : isLineBlank c = true) : c.toNat < 128 := by
  simp only [isLineBlank, Bool.or_eq_true, beq_iff_eq] at h
  rcases h with rfl | rfl <;> decide

/-- If only characters of ASCII are outside a class, a text and its spelling both start in it. -/
lemma startsIn_spell {p : Char → Bool} {cs : List Char} (hp : ∀ c, p c = false → c.toNat < 128)
    (h : StartsIn p cs) : StartsIn p (Octets.spell cs) := by
  intro x hx
  cases hpx : p x with
  | true => rfl
  | false => exact hpx.symm.trans (h x (Octets.head?_of_head?_spell hx (hp x hpx)))

/-! ### Names -/

namespace HeaderName

/-- Each name that the agent reads has one spelling but for the case of letters. -/
lemma eq_of_mem_known {entry other : HeaderName × String} (hentry : entry ∈ known)
    (hother : other ∈ known)
    (h : sameAnyCase entry.2.toList other.2.toList = true ∨ entry.1 = other.1) : entry = other := by
  have hall : ∀ e ∈ known, ∀ e' ∈ known,
      sameAnyCase e.2.toList e'.2.toList = true ∨ e.1 = e'.1 → e = e' := by
    decide +kernel
  exact hall entry hentry other hother h

lemma ofSpelling_eq_iff {name : HeaderName} {spelling : String} {word : List Char}
    (hknown : (name, spelling) ∈ known) :
    ofSpelling word = name ↔ sameAnyCase spelling.toList word = true := by
  have hother : ∀ s, HeaderName.other s ≠ name := by
    have hall : ∀ e ∈ known, ∀ s, HeaderName.other s ≠ e.1 := by simp [known]
    exact hall _ hknown
  unfold ofSpelling
  cases hfind : known.find? fun entry => sameAnyCase entry.2.toList word with
  | none =>
    have hnot := List.find?_eq_none.mp hfind _ hknown
    exact ⟨fun h => absurd h (hother _), fun h => absurd h hnot⟩
  | some entry =>
    have hmem := List.mem_of_find?_eq_some hfind
    have hsame := List.find?_some hfind
    refine ⟨fun h => ?_, fun h => ?_⟩
    · rw [eq_of_mem_known hmem hknown (.inr h)] at hsame
      exact hsame
    · rw [sameAnyCase_iff] at h hsame
      rw [eq_of_mem_known hmem hknown (.inl (sameAnyCase_iff.mpr (hsame.trans h.symm)))]

end HeaderName

/-! ### Fields -/

/-- A field as it is written: its name in some spelling, and its value after a colon and blanks. -/
structure WrittenField where
  name : List Char
  gap : List Char
  value : List Char
  name_ne : name ≠ []
  name_token : AllIn isTokenChar name
  gap_blank : AllIn isLineBlank gap
  value_whole : '\r' ∉ value
  value_start : StartsIn (fun c => !isLineBlank c) value

namespace WrittenField

/-- A field with one blank behind its colon. -/
def spaced (name value : String) (hname : name.toList ≠ [] ∧ AllIn isTokenChar name.toList)
    (hvalue : '\r' ∉ value.toList ∧ StartsIn (fun c => !isLineBlank c) value.toList) :
    WrittenField where
  name := name.toList
  gap := [' ']
  value := value.toList
  name_ne := hname.1
  name_token := hname.2
  gap_blank := List.forall_mem_singleton.mpr rfl
  value_whole := hvalue.1
  value_start := hvalue.2

/-- The line of the field. -/
def line (f : WrittenField) : List Char :=
  f.name ++ ':' :: (f.gap ++ f.value)

/-- The line of the field as a grammar of octets sees it. -/
def spelledLine (f : WrittenField) : List Char :=
  f.name ++ ':' :: (f.gap ++ Octets.spell f.value)

/-- The header that the field is. -/
def header (f : WrittenField) : Header :=
  ⟨.ofSpelling f.name, String.ofList f.value⟩

/-- The value of the first field with a name, in any letter case. -/
def first? (name : String) (fields : List WrittenField) : Option (List Char) :=
  (fields.find? fun f => sameAnyCase name.toList f.name).map (·.value)

variable {fields : List WrittenField}

lemma ne_nil_of_first? {name : String} {value : List Char} (h : first? name fields = some value) :
    fields ≠ [] := by
  rintro rfl
  cases h

/-- The header that is found under a name is the first field with this name. -/
lemma first?_map_header {name : HeaderName} {spelling : String}
    (hknown : (name, spelling) ∈ HeaderName.known) :
    Header.first? name (fields.map header) = (first? spelling fields).map String.ofList := by
  have hnamed : ((fun h : Header => decide (h.name = name)) ∘ header) =
      fun f => sameAnyCase spelling.toList f.name := by
    funext f
    have hiff : HeaderName.ofSpelling f.name = name ↔ sameAnyCase spelling.toList f.name = true :=
      HeaderName.ofSpelling_eq_iff hknown
    simp [header, hiff]
  rw [Header.first?, List.find?_map, hnamed, first?, Option.map_map, Option.map_map]
  rfl

variable (f : WrittenField)

lemma spell_line : Octets.spell f.line = f.spelledLine := by
  have hname := Octets.spell_of_isAscii fun c hc =>
    toNat_lt_of_isTokenChar (f.name_token c hc)
  have hgap := Octets.spell_of_isAscii fun c hc =>
    toNat_lt_of_isLineBlank (f.gap_blank c hc)
  have hcolon : Octets.spell [':'] = [':'] := Octets.spell_of_isAscii (by decide)
  have htext : f.line = f.name ++ ([':'] ++ (f.gap ++ f.value)) := rfl
  rw [htext, Octets.spell_append, Octets.spell_append, Octets.spell_append, hname, hcolon, hgap]
  rfl

/-- By the rules the line of a field is its header. -/
lemma headerAt_spelledLine : HeaderAt f.spelledLine f.header := by
  have hstart : StartsIn (fun c => !isLineBlank c) (Octets.spell f.value) :=
    startsIn_spell (fun c hc => toNat_lt_of_isLineBlank (by simpa using hc)) f.value_start
  have hwhole : '\r' ∉ Octets.spell f.value := fun h =>
    f.value_whole (Octets.mem_of_mem_spell h (by decide))
  exact .intro f.name_ne f.name_token f.gap_blank hstart hwhole (Octets.decode?_spell f.value)

lemma headersAt_spelledLine (fields : List WrittenField) (body : List Char) :
    HeadersAt ((f :: fields).flatMap (fun f => f.spelledLine ++ lineEnd) ++ (lineEnd ++ body))
      ((f :: fields).map header) body := by
  induction fields generalizing f with
  | nil =>
    rw [List.flatMap_cons, List.flatMap_nil, List.append_nil, List.append_assoc]
    exact .last body f.headerAt_spelledLine
  | cons next fields ih =>
    rw [List.flatMap_cons, List.append_assoc, List.append_assoc]
    exact .next f.headerAt_spelledLine (ih next)

end WrittenField

/-! ### Messages -/

namespace Message

/-- The octets of a message: a start line, fields and a body. -/
def written (start : List Char) (fields : List WrittenField) (body : Octets) : Octets :=
  Octets.ofText (String.ofList (start ++ (lineEnd ++
    (fields.flatMap (fun f => f.line ++ lineEnd) ++ lineEnd)))) ++ body

variable {fields : List WrittenField}

lemma spell_flatMap_line (fields : List WrittenField) :
    Octets.spell (fields.flatMap fun f => f.line ++ lineEnd) =
      fields.flatMap fun f => f.spelledLine ++ lineEnd := by
  have hend : Octets.spell lineEnd = lineEnd := Octets.spell_of_isAscii (by decide)
  induction fields with
  | nil => rfl
  | cons f fields ih =>
    rw [List.flatMap_cons, List.flatMap_cons, Octets.spell_append, Octets.spell_append,
      f.spell_line, hend, ih]

/-- Behind the start line of a message stand its headers and its body. -/
lemma exists_headersAt (start : List Char) (hfields : fields ≠ []) (body : Octets) : ∃ rest,
    (written start fields body).chars = Octets.spell start ++ (lineEnd ++ rest) ∧
      HeadersAt rest (fields.map WrittenField.header) body.chars := by
  have hend : Octets.spell lineEnd = lineEnd := Octets.spell_of_isAscii (by decide)
  have hwritten : (written start fields body).chars = Octets.spell (start ++ (lineEnd ++
      (fields.flatMap (fun f => f.line ++ lineEnd) ++ lineEnd))) ++ body.chars :=
    Octets.chars_append _ _
  obtain ⟨f, fields, rfl⟩ := List.exists_cons_of_ne_nil hfields
  refine ⟨_, ?_, f.headersAt_spelledLine fields body.chars⟩
  rw [hwritten, Octets.spell_append, Octets.spell_append, Octets.spell_append, spell_flatMap_line,
    hend, List.append_assoc, List.append_assoc, List.append_assoc]

end Message

end SipAgent
