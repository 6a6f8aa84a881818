import SipAgent.Grammar.Param
import SipAgent.Method
import SipAgent.Proofs.Text.Cutting

/-!
# The rules for parameters

A parameter stands behind a semicolon: its name, and perhaps an equals sign and its value. Names and
values are tokens, and each goes on for as long as there are characters for it. So a text falls into
parameters in one way only.
-/

namespace SipAgent

open Text

variable {isToken q : Char → Bool} {p p' : Param} {ps ps' : List Param}
  {cs cs' rest rest' : List Char}

namespace Param

/-! ### Parameters as they are written -/

/-- A value as it is written behind a name. -/
def valueText : Option (List Char) → List Char
  | some value => '=' :: value
  | none => []

/-- A parameter as it is written. -/
def text (p : Param) : List Char :=
  ';' :: (p.name ++ valueText p.value)

/-- The name and the value of a parameter are tokens. -/
structure Tokens (isToken : Char → Bool) (p : Param) : Prop where
  name : AllIn isToken p.name
  value : ∀ v ∈ p.value, AllIn isToken v

/-- The name and the value of a parameter are tokens, and they name neither a transport nor a
method. -/
structure Plain (isToken : Char → Bool) (p : Param) : Prop where
  name : AllIn isToken p.name
  value : ∀ v ∈ p.value, AllIn isToken v
  transport : p.isNamed "transport" = false
  method : p.isNamed "method" = false

/-- A parameter that is there for a transport or a method names one. -/
structure Known (p : Param) : Prop where
  transport : p.isNamed "transport" = true →
    ∀ v ∈ p.value, ∃ t ∈ transports, sameAnyCase t.toList v = true
  method : p.isNamed "method" = true → ∀ v ∈ p.value, (WireMethod.read v).isSome = true

instance : Decidable (p.Tokens isToken) :=
  decidable_of_iff (AllIn isToken p.name ∧ ∀ v ∈ p.value, AllIn isToken v)
    ⟨fun h => ⟨h.1, h.2⟩, fun h => ⟨h.name, h.value⟩⟩

instance : Decidable (p.Plain isToken) :=
  decidable_of_iff (AllIn isToken p.name ∧ (∀ v ∈ p.value, AllIn isToken v) ∧
      p.isNamed "transport" = false ∧ p.isNamed "method" = false)
    ⟨fun h => ⟨h.1, h.2.1, h.2.2.1, h.2.2.2⟩, fun h => ⟨h.name, h.value, h.transport, h.method⟩⟩

instance : Decidable p.Known :=
  decidable_of_iff ((p.isNamed "transport" = true →
      ∀ v ∈ p.value, ∃ t ∈ transports, sameAnyCase t.toList v = true) ∧
      (p.isNamed "method" = true → ∀ v ∈ p.value, (WireMethod.read v).isSome = true))
    ⟨fun h => ⟨h.1, h.2⟩, fun h => ⟨h.transport, h.method⟩⟩

lemma Plain.tokens (h : p.Plain isToken) : p.Tokens isToken :=
  ⟨h.name, h.value⟩

lemma Plain.known (h : p.Plain isToken) : p.Known where
  transport htransport := by cases h.transport.symm.trans htransport
  method hmethod := by cases h.method.symm.trans hmethod

/-- Neither separator of parameters belongs to a token. -/
structure Separates (isToken : Char → Bool) : Prop where
  semicolon : isToken ';' = false
  equals : isToken '=' = false

lemma separates_isTokenChar : Separates isTokenChar :=
  ⟨by decide, by decide⟩

lemma separates_isTextTokenChar : Separates isTextTokenChar :=
  ⟨by decide +kernel, by decide +kernel⟩

/-- Over ASCII, the two kinds of tokens are the same. -/
lemma isTextTokenChar_of_ascii {c : Char} (h : c.toNat < 128) :
    isTextTokenChar c = isTokenChar c := by
  have hlow : isAlphanumeric c = c.isAlphanum := by
    simp only [isAlphanumeric]
    rw [decide_eq_false (by omega), Bool.false_and, Bool.or_false]
  rw [isTextTokenChar, hlow, isTokenChar]
  cases c.isAlphanum <;> simp

lemma startsIn_text (h : q ';' = true) (ps : List Param) : StartsIn q (ps.flatMap text) := by
  cases ps with
  | nil => exact startsIn_nil
  | cons p ps => simpa [text] using h

/-- A character that is neither part of a token nor a separator does not occur in parameters. -/
lemma not_mem_text {c : Char} (hc : isToken c = false) (hsemicolon : c ≠ ';') (hequals : c ≠ '=')
    (hps : ∀ p ∈ ps, p.Tokens isToken) : c ∉ ps.flatMap text := by
  rw [List.mem_flatMap]
  rintro ⟨p, hp, hmem⟩
  have hname := not_mem_of_class (hps p hp).name hc
  have hvalue : c ∉ valueText p.value := by
    unfold valueText
    split
    · next v hv => simp [hequals, not_mem_of_class ((hps p hp).value v hv) hc]
    · exact List.not_mem_nil
  simp [text, hsemicolon, hname, hvalue] at hmem

end Param

/-! ### Parameters in a text -/

/-- The parameters at the start of a text, and the rest of the text. A name or a value ends where no
character of a token follows, and there is no value only if no equals sign follows. -/
inductive ParamsAt (isToken : Char → Bool) : List Char → List Param → List Char → Prop
  | none {rest : List Char} (stop : rest.head? ≠ some ';') : ParamsAt isToken rest [] rest
  | next {p : Param} {ps : List Param} {cs rest : List Char} (tokens : p.Tokens isToken)
      (ends : StartsIn (fun c => !isToken c) cs) (bare : p.value = none → cs.head? ≠ some '=')
      (more : ParamsAt isToken cs ps rest) : ParamsAt isToken (p.text ++ cs) (p :: ps) rest

namespace Param

/-- Parameters are found in a text as they are written. -/
lemma paramsAt_text (hsep : Separates isToken) (hps : ∀ p ∈ ps, p.Tokens isToken) :
    ParamsAt isToken (ps.flatMap text) ps [] := by
  induction ps with
  | nil => exact .none nofun
  | cons p ps ih =>
    have hbare : (ps.flatMap text).head? ≠ some '=' := by
      cases ps with
      | nil => nofun
      | cons p ps => simp [text]
    have hmore := ih fun q hq => hps q (List.mem_cons_of_mem p hq)
    exact .next (hps p List.mem_cons_self) (startsIn_text (by simp [hsep.semicolon]) ps)
      (fun _ => hbare) hmore

/-- A name ends in front of its value, or where the parameter does. -/
lemma startsIn_valueText (hsep : Separates isToken) (value : Option (List Char))
    (hcs : StartsIn (fun c => !isToken c) cs) :
    StartsIn (fun c => !isToken c) (valueText value ++ cs) := by
  cases value with
  | none => exact hcs
  | some value => exact startsIn_cons.mpr (by simp [hsep.equals])

/-- A text starts with one parameter only. -/
lemma text_unique (hsep : Separates isToken) (hp : p.Tokens isToken) (hp' : p'.Tokens isToken)
    (hends : StartsIn (fun c => !isToken c) cs) (hends' : StartsIn (fun c => !isToken c) cs')
    (hbare : p.value = none → cs.head? ≠ some '=') (hbare' : p'.value = none → cs'.head? ≠ some '=')
    (h : p.text ++ cs = p'.text ++ cs') : p = p' ∧ cs = cs' := by
  obtain ⟨name, value⟩ := p
  obtain ⟨name', value'⟩ := p'
  simp only [text, List.cons_append, List.append_assoc, List.cons.injEq, true_and] at h
  obtain rfl : name = name' := by
    have htake := congrArg (List.takeWhile isToken) h
    rwa [takeWhile_append hp.name (startsIn_valueText hsep value hends),
      takeWhile_append hp'.name (startsIn_valueText hsep value' hends')] at htake
  have hrest := List.append_cancel_left h
  cases value with
  | none =>
    cases value' with
    | none => exact ⟨rfl, hrest⟩
    | some value' => exact absurd (congrArg List.head? hrest) (hbare rfl)
  | some value =>
    cases value' with
    | none => exact absurd (congrArg List.head? hrest.symm) (hbare' rfl)
    | some value' =>
      have hvalues : value ++ cs = value' ++ cs' := (List.cons.inj hrest).2
      obtain rfl : value = value' := by
        have htake := congrArg (List.takeWhile isToken) hvalues
        rwa [takeWhile_append (hp.value value rfl) hends,
          takeWhile_append (hp'.value value' rfl) hends'] at htake
      exact ⟨rfl, List.append_cancel_left hvalues⟩

end Param

namespace ParamsAt

lemma tokens (h : ParamsAt isToken cs ps rest) : ∀ p ∈ ps, p.Tokens isToken := by
  induction h with
  | none _ => exact List.forall_mem_nil _
  | next htokens _ _ _ ih => exact List.forall_mem_cons.mpr ⟨htokens, ih⟩

/-- Nothing gets lost between the parameters. -/
lemma eq_append (h : ParamsAt isToken cs ps rest) : cs = ps.flatMap Param.text ++ rest := by
  induction h with
  | none _ => rfl
  | next _ _ _ _ ih => rw [List.flatMap_cons, List.append_assoc, ← ih]

/-- Only the characters of the text are asked about. -/
lemma congr {isToken' : Char → Bool} (hsame : ∀ c ∈ cs, isToken c = isToken' c)
    (h : ParamsAt isToken cs ps rest) : ParamsAt isToken' cs ps rest := by
  induction h with
  | none hstop => exact .none hstop
  | @next p ps cs rest htokens hends hbare _ ih =>
    have hname : AllIn isToken' p.name := fun c hc =>
      hsame c (by simp [Param.text, hc]) ▸ htokens.name c hc
    have hvalue : ∀ v ∈ p.value, AllIn isToken' v := by
      intro v hv c hc
      rw [← hsame c (by simp [Param.text, Param.valueText, Option.mem_def.mp hv, hc])]
      exact htokens.value v hv c hc
    have hmore : ∀ c ∈ cs, isToken c = isToken' c := fun c hc =>
      hsame c (List.mem_append_right _ hc)
    have hstop : StartsIn (fun c => !isToken' c) cs := fun c hc => by
      simpa only [hmore c (List.mem_of_mem_head? hc)] using hends c hc
    exact .next ⟨hname, hvalue⟩ hstop hbare (ih hmore)

/-- A text falls into parameters in one way only. -/
lemma unique (hsep : Param.Separates isToken) (h : ParamsAt isToken cs ps rest)
    (h' : ParamsAt isToken cs ps' rest') : ps = ps' ∧ rest = rest' := by
  induction h generalizing ps' with
  | none hstop =>
    cases h' with
    | none _ => exact ⟨rfl, rfl⟩
    | next _ _ _ _ => exact absurd rfl hstop
  | @next p ps cs rest htokens hends hbare _ ih =>
    generalize htext : p.text ++ cs = text at h'
    cases h' with
    | none hstop => exact absurd (htext ▸ rfl) hstop
    | next htokens' hends' hbare' hmore' =>
      obtain ⟨rfl, rfl⟩ :=
        Param.text_unique hsep htokens htokens' hends hends' hbare hbare' htext
      obtain ⟨rfl, rfl⟩ := ih hmore'
      exact ⟨rfl, rfl⟩

end ParamsAt

end SipAgent
