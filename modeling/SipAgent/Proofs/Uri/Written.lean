import SipAgent.Proofs.Grammar.Address
import SipAgent.Proofs.Text.Numeral

/-!
# Addresses as they are written

A user at a host is written `sip:user@host`, and parameters follow, each behind a semicolon. By the
rules it falls into the pieces that it was put together from. A user that holds a point makes a
detour: the rules find no user information and leave all of it in the host, and it is cut out of the
host afterwards.
-/

namespace SipAgent

open Text

namespace Uri

variable {u : Uri} {user : String} {isToken : Char → Bool} {ps : List Param}
  {tail rest : List Char} {c : Char}

/-! ### Addresses that are taken apart -/

/-- A reference names the user and the host that it has. -/
lemma Reference.party_of_userAndHost {r : Reference} {user : Option (List Char)} {host : List Char}
    (hscheme : r.scheme = some .sip) (h : r.userAndHost = (user, host)) (huser : user ≠ some [])
    (hhost : host ≠ []) :
    r.party = .ok ⟨user.map String.ofList, String.ofList host, r.port⟩ := by
  simp only [party, hscheme, h, if_neg huser, if_neg hhost]

/-- What stands in front of the host of an address. -/
def front (u : Uri) : List Char :=
  infoText (u.user.map String.toList)

/-- The digits of the port. -/
def digits (u : Uri) : Option (List Char) :=
  u.port.map fun port => decimal port.toNat

/-- What stands behind the host of an address. -/
def back (u : Uri) : List Char :=
  portText u.digits

/-- The rules take the address apart where it was put together. A user that holds a point is left in
the host at first, so it must not hold what ends a host. -/
structure Legible (u : Uri) : Prop where
  user_ne : u.user ≠ some ""
  user_apart : ∀ user, u.user = some user → '@' ∉ user.toList ∧ ':' ∉ user.toList
  user_stops : ∀ user, u.user = some user → '.' ∈ user.toList →
    ∀ c ∈ user.toList, (c == ';' || c == ' ') = false
  host_ne : u.host ≠ ""
  host_colon : ':' ∉ u.host.toList
  host_stops : ∀ c ∈ u.host.toList, (c == ';' || c == ' ') = false
  host_at : u.user = none → '@' ∉ u.host.toList

/-- The pieces of the address and parameters: a user that holds a point is left in the host. -/
def pieces (u : Uri) (ps : List Param) : Pieces :=
  match u.user with
  | none => ⟨some .sip, none, u.host.toList, u.digits, ps⟩
  | some user =>
    if '.' ∈ user.toList then
      ⟨some .sip, none, user.toList ++ '@' :: u.host.toList, u.digits, ps⟩
    else ⟨some .sip, some user.toList, u.host.toList, u.digits, ps⟩

lemma back_not_mem (u : Uri) (hcolon : c ≠ ':') (hdigit : c.isDigit = false) : c ∉ u.back := by
  unfold back digits
  cases u.port with
  | none => exact List.not_mem_nil
  | some port =>
    simp [portText, hcolon, not_mem_decimal port.toNat hdigit]

lemma back_of_none (hport : u.port = none) : u.back = [] := by
  rw [back, digits, hport]
  rfl

lemma back_of_some {port : UInt16} (hport : u.port = some port) :
    u.back = ':' :: decimal port.toNat := by
  rw [back, digits, hport]
  rfl

lemma readUInt16_digits (u : Uri) : u.digits.map readUInt16 = u.port.map .ok := by
  unfold digits
  cases u.port with
  | none => rfl
  | some port => simp only [Option.map_some, readUInt16_decimal]

/-- What is printed is the host between what the address has in front of it and behind it. -/
lemma chars_eq (u : Uri) :
    u.chars = "sip:".toList ++ (u.front ++ (hostChars u.host.toList ++ u.back)) := by
  have hchars : u.chars = "sip:".toList ++ u.front ++ hostChars u.host.toList ++ u.back := by
    unfold chars front back digits
    cases u.user <;> cases u.port <;> rfl
  rw [hchars, List.append_assoc, List.append_assoc]

namespace Legible

lemma chars_eq (h : u.Legible) :
    u.chars = "sip:".toList ++ (u.front ++ (u.host.toList ++ u.back)) := by
  rw [Uri.chars_eq, hostChars, if_neg h.host_colon]

lemma host_ne_nil (h : u.Legible) : u.host.toList ≠ [] := fun hnil =>
  h.host_ne (String.toList_eq_nil_iff.mp hnil)

lemma stops_back (u : Uri) : ∀ c ∈ u.back, (c == ';' || c == ' ') = false :=
  either_eq_false (u.back_not_mem (by decide) rfl) (u.back_not_mem (by decide) rfl)

/-- The host stands by itself, or behind a user that holds a point. -/
lemma stands {scheme : Option Scheme} {info : Option (List Char)} {before : List Char}
    (h : u.Legible) (hcolon : ':' ∉ before) (hstops : ∀ c ∈ before, (c == ';' || c == ' ') = false)
    (hnext : StartsIn (fun c => c == ';' || c == ' ') tail) :
    Pieces.Stands ⟨scheme, info, before ++ u.host.toList, u.digits, ps⟩ tail where
  ne := by simp [Pieces.location, h.host_ne_nil]
  colon := by simp [hcolon, h.host_colon]
  stops := by
    rw [Pieces.location, List.forall_mem_append, List.forall_mem_append]
    exact ⟨⟨hstops, h.host_stops⟩, stops_back u⟩
  next := hnext

/-- The address falls into its pieces, up to where parameters or the next word begin. -/
lemma piecesAt_chars (h : u.Legible) (hnext : StartsIn (fun c => c == ';' || c == ' ') tail)
    (hat : u.user = none → '@' ∉ tail) (hps : ParamsAt isToken tail ps rest) :
    PiecesAt isToken (u.chars ++ tail) (u.pieces ps) rest := by
  have htext : u.chars ++ tail =
      "sip:".toList ++ (u.front ++ (u.host.toList ++ u.back ++ tail)) := by
    rw [h.chars_eq, List.append_assoc, List.append_assoc]
  cases huser : u.user with
  | none =>
    have hmark : '@' ∉ u.host.toList ++ u.back ++ tail := by
      rw [List.mem_append, List.mem_append, not_or, not_or]
      exact ⟨⟨h.host_at huser, u.back_not_mem (by decide) rfl⟩, hat huser⟩
    have hfront : u.front = [] := by rw [front, huser]; rfl
    have hpieces : u.pieces ps = ⟨some .sip, none, u.host.toList, u.digits, ps⟩ := by
      simp only [pieces, huser]
    rw [hfront, List.nil_append] at htext
    rw [hpieces]
    exact .intro (.sip htext rfl) (.of_not_mem hmark)
      (h.stands List.not_mem_nil (List.forall_mem_nil _) hnext) hps
  | some user =>
    obtain ⟨hmark, hcolon⟩ := h.user_apart user huser
    have hfront : u.front = user.toList ++ ['@'] := by rw [front, huser]; rfl
    rw [hfront, List.append_assoc, List.singleton_append] at htext
    by_cases hpoint : '.' ∈ user.toList
    · have hpieces : u.pieces ps =
          ⟨some .sip, none, (user.toList ++ ['@']) ++ u.host.toList, u.digits, ps⟩ := by
        simp [pieces, huser, hpoint]
      have hstops : ∀ c ∈ user.toList ++ ['@'], (c == ';' || c == ' ') = false := by
        rw [List.forall_mem_append, List.forall_mem_singleton]
        exact ⟨h.user_stops user huser hpoint, rfl⟩
      have hinfo := InfoAt.of_point hpoint hmark (u.host.toList ++ u.back ++ tail)
      rw [hpieces]
      refine .intro (.sip htext rfl) ?_ (h.stands (by simp [hcolon]) hstops hnext) hps
      simpa [Pieces.location, back] using hinfo
    · have hpieces : u.pieces ps = ⟨some .sip, some user.toList, u.host.toList, u.digits, ps⟩ := by
        simp only [pieces, huser, if_neg hpoint]
      rw [hpieces]
      exact .intro (.sip htext rfl) (.some rfl hpoint hmark)
        (h.stands List.not_mem_nil (List.forall_mem_nil _) hnext) hps

/-- The pieces have a meaning, and it is the address. -/
lemma means_pieces (h : u.Legible) (hknown : ∀ p ∈ ps, p.Known) :
    ∃ r, (u.pieces ps).Means r ∧ r.party = .ok u := by
  have huser : u.user.map String.toList ≠ some [] := by
    intro hnil
    obtain ⟨user, huser, hempty⟩ := Option.map_eq_some_iff.mp hnil
    exact h.user_ne (huser.trans (congrArg some (String.toList_eq_nil_iff.mp hempty)))
  have huri : (⟨(u.user.map String.toList).map String.ofList, String.ofList u.host.toList,
      u.port⟩ : Uri) = u := by
    obtain ⟨user, host, port⟩ := u
    cases user <;> simp
  have hparty : ∀ {r : Reference}, r.scheme = some .sip → r.port = u.port →
      r.userAndHost = (u.user.map String.toList, u.host.toList) → r.party = .ok u :=
    fun hscheme hport huserAndHost => by
      rw [Reference.party_of_userAndHost hscheme huserAndHost huser h.host_ne_nil, hport, huri]
  unfold pieces
  split
  · next hnone =>
    have hcut : cut '@' u.host.toList = none := cut_eq_none_iff.mpr (h.host_at hnone)
    refine ⟨⟨some .sip, none, u.host.toList, u.port⟩,
      ⟨rfl, rfl, rfl, u.readUInt16_digits, hknown⟩, hparty rfl rfl ?_⟩
    simp only [Reference.userAndHost, hcut, hnone, Option.map_none]
  · next user hsome =>
    obtain ⟨hmark, hcolon⟩ := h.user_apart user hsome
    split
    · have hcut := cut_append u.host.toList hmark
      refine ⟨⟨some .sip, none, user.toList ++ '@' :: u.host.toList, u.port⟩,
        ⟨rfl, rfl, rfl, u.readUInt16_digits, hknown⟩, hparty rfl rfl ?_⟩
      simp only [Reference.userAndHost, hcut, hsome, Option.map_some]
    · refine ⟨⟨some .sip, some user.toList, u.host.toList, u.port⟩,
        ⟨rfl, ?_, rfl, u.readUInt16_digits, hknown⟩, hparty rfl rfl ?_⟩
      · rw [Option.map_some, cutOptional_of_not_mem hcolon]
      · rw [hsome]
        rfl

/-- The address follows the rules up to its end. -/
lemma follows_chars (isToken : Char → Bool) (h : u.Legible) :
    ∃ r, Follows isToken u.chars r ∧ r.party = .ok u := by
  obtain ⟨r, hmeans, hparty⟩ := h.means_pieces (List.forall_mem_nil Param.Known)
  have hpieces : PiecesAt isToken (u.chars ++ []) (u.pieces []) [] :=
    h.piecesAt_chars startsIn_nil (fun _ => List.not_mem_nil) (.none nofun)
  rw [List.append_nil] at hpieces
  exact ⟨r, ⟨u.pieces [], [], hpieces, hmeans⟩, hparty⟩

end Legible

/-! ### Addresses that are spelled out -/

/-- A character that a user may be made of: a letter, a digit or one of the marks that addresses
leave to users, the semicolon apart. -/
def isUserChar (c : Char) : Bool :=
  c.isAlphanum || "-_.!~*\x27()&=+$,?/%".toList.contains c

lemma isUserChar_of_isPlainChar {c : Char} (h : isPlainChar c = true) : isUserChar c = true := by
  simp only [isPlainChar, Bool.or_eq_true, beq_iff_eq] at h
  rcases h with (h | rfl) | rfl
  · rw [isUserChar, h, Bool.true_or]
  · rfl
  · rfl

/-- An address as it is spelled: perhaps a user, a host that is a name, and perhaps a port. -/
structure Spelled where
  user : Option (List Char)
  host : List Char
  port : Option UInt16
  user_ne : user ≠ some []
  user_chars : ∀ cs ∈ user, AllIn isUserChar cs
  host_ne : host ≠ []
  host_plain : AllIn isPlainChar host

namespace Spelled

variable {s : Spelled} {user : List Char}

/-- What stands in front of the host. -/
def front (s : Spelled) : List Char :=
  infoText s.user

/-- What stands behind the host. -/
def back (s : Spelled) : List Char :=
  portText (s.port.map fun port => decimal port.toNat)

/-- The address as it is written. -/
def text (s : Spelled) : List Char :=
  "sip:".toList ++ (s.front ++ (s.host ++ s.back))

/-- The address. -/
def uri (s : Spelled) : Uri :=
  ⟨s.user.map String.ofList, String.ofList s.host, s.port⟩

lemma user_not_mem (huser : s.user = some user) (hc : isUserChar c = false) : c ∉ user :=
  not_mem_of_class (s.user_chars user huser) hc

lemma host_not_mem (s : Spelled) (hc : isPlainChar c = false) : c ∉ s.host :=
  not_mem_of_class s.host_plain hc

lemma back_not_mem (s : Spelled) (hcolon : c ≠ ':') (hdigit : c.isDigit = false) : c ∉ s.back :=
  s.uri.back_not_mem hcolon hdigit

lemma front_not_mem (s : Spelled) (hc : isUserChar c = false) (hat : c ≠ '@') : c ∉ s.front := by
  unfold front infoText
  split
  · next user huser => simp [s.user_not_mem huser hc, hat]
  · exact List.not_mem_nil

/-- Apart from its delimiters, an address holds nothing but characters for users. -/
lemma not_mem_text (s : Spelled) (hc : isUserChar c = false) (hat : c ≠ '@') (hcolon : c ≠ ':') :
    c ∉ s.text := by
  have hplain : isPlainChar c = false :=
    Bool.eq_false_iff.mpr fun h => by cases hc.symm.trans (isUserChar_of_isPlainChar h)
  have hdigit : c.isDigit = false := by
    simp only [isPlainChar, Char.isAlphanum, Bool.or_eq_false_iff] at hplain
    exact hplain.1.1.2
  have hscheme : c ∉ "sip:".toList := fun h => by
    have hknown : AllIn (fun c => isUserChar c || c == ':') "sip:".toList := by decide
    have hcase := hknown c h
    simp only [Bool.or_eq_true, beq_iff_eq] at hcase
    rcases hcase with huser | rfl
    · cases hc.symm.trans huser
    · exact hcolon rfl
  rw [text, List.mem_append, List.mem_append, List.mem_append, not_or, not_or, not_or]
  exact ⟨hscheme, s.front_not_mem hc hat, s.host_not_mem hplain, s.back_not_mem hcolon hdigit⟩

/-- The rules take the address apart. -/
lemma legible (s : Spelled) : s.uri.Legible where
  user_ne := by
    intro h
    obtain ⟨user, huser, hempty⟩ := Option.map_eq_some_iff.mp h
    exact s.user_ne (huser.trans (congrArg some (by simpa using hempty)))
  user_apart := by
    intro user h
    obtain ⟨cs, hcs, rfl⟩ := Option.map_eq_some_iff.mp h
    rw [String.toList_ofList]
    exact ⟨s.user_not_mem hcs rfl, s.user_not_mem hcs rfl⟩
  user_stops := by
    intro user h _
    obtain ⟨cs, hcs, rfl⟩ := Option.map_eq_some_iff.mp h
    rw [String.toList_ofList]
    exact either_eq_false (s.user_not_mem hcs rfl) (s.user_not_mem hcs rfl)
  host_ne := by simpa [uri] using s.host_ne
  host_colon := by simpa [uri] using s.host_not_mem rfl
  host_stops := by
    rw [uri, String.toList_ofList]
    exact either_eq_false (s.host_not_mem rfl) (s.host_not_mem rfl)
  host_at _ := by simpa [uri] using s.host_not_mem rfl

/-- The address is written as it is printed. -/
lemma chars_uri (s : Spelled) : s.uri.chars = s.text := by
  rw [s.legible.chars_eq, text]
  have hfront : s.uri.front = s.front := by
    rw [Uri.front, uri, front, Option.map_map]
    cases s.user <;> simp
  have hhost : s.uri.host.toList = s.host := String.toList_ofList
  have hback : s.uri.back = s.back := rfl
  rw [hfront, hhost, hback]

/-- The address falls into its pieces, up to where parameters or the next word begin. -/
lemma piecesAt_text (s : Spelled) (hnext : StartsIn (fun c => c == ';' || c == ' ') tail)
    (hat : s.user = none → '@' ∉ tail) (hps : ParamsAt isToken tail ps rest) :
    PiecesAt isToken (s.text ++ tail) (s.uri.pieces ps) rest := by
  rw [← s.chars_uri]
  exact s.legible.piecesAt_chars hnext (fun h => hat (Option.map_eq_none_iff.mp h)) hps

/-- The address follows the rules up to its end. -/
lemma follows_text (isToken : Char → Bool) (s : Spelled) :
    ∃ r, Follows isToken s.text r ∧ r.party = .ok s.uri := by
  rw [← s.chars_uri]
  exact s.legible.follows_chars isToken

end Spelled

/-! ### A user at a host -/

/-- A user at a host, both made of plain characters. -/
structure Account where
  user : List Char
  host : List Char
  user_ne : user ≠ []
  host_ne : host ≠ []
  user_plain : AllIn isPlainChar user
  host_plain : AllIn isPlainChar host

namespace Account

/-- The account as it is written. -/
def text (a : Account) : List Char :=
  "sip:".toList ++ (a.user ++ '@' :: a.host)

/-- The address of the account. -/
def uri (a : Account) : Uri :=
  ⟨some (String.ofList a.user), String.ofList a.host, none⟩

/-- An account is spelled without a port. -/
def spelled (a : Account) : Spelled where
  user := some a.user
  host := a.host
  port := none
  user_ne h := a.user_ne (Option.some.inj h)
  user_chars := by
    rintro _ ⟨⟩ c hc
    exact isUserChar_of_isPlainChar (a.user_plain c hc)
  host_ne := a.host_ne
  host_plain := a.host_plain

lemma text_spelled (a : Account) : a.spelled.text = a.text := by
  simp [spelled, Spelled.text, Spelled.front, Spelled.back, infoText, portText, text]

/-- The account falls into its pieces, up to the next word. -/
lemma piecesAt_text (a : Account) (isToken : Char → Bool) (rest : List Char) :
    PiecesAt isToken (a.text ++ ' ' :: rest) (a.uri.pieces []) (' ' :: rest) := by
  rw [← a.text_spelled]
  exact a.spelled.piecesAt_text (by simp) nofun (.none (by simp))

end Account

end Uri

end SipAgent
