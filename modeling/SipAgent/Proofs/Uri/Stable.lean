import SipAgent.Proofs.Uri.Printed
import SipAgent.Proofs.Uri.Reading

/-!
# Addresses that are read, printed and read again

A text is read leniently: by the rules, a user and a host may hold nearly any character, and blanks
and angle brackets are only dropped at the very ends of the text. So an address can have been read
whose printed form is read as another one, or not at all. `parse_text_iff` says which addresses are
read back: those whose host, when no port follows it, does not end in what is dropped, and whose
printed form has no brackets but those around an IPv6 address.
`surviving_bracket_misread` shows an address with a bracket at the end of its host.
-/

namespace SipAgent

open Text

/-- An IPv6 address holds a colon in whichever form it is written. -/
lemma IPv6.colon_mem_of_read {cs : List Char} {ip : IPv6} (h : IPv6.read cs = some ip) :
    ':' ∈ cs := by
  by_contra hcolon
  have hcut : cutWord [':', ':'] cs = none := cutWord_eq_none List.mem_cons_self hcolon
  simp only [IPv6.read, hcut, readGroups, pieces_of_not_mem hcolon, readPieces] at h
  -- One piece makes two groups at most.
  split at h
  · cases h
  · split at h
    · cases h
    · rw [if_pos trivial, Option.bind_eq_some_iff] at h
      obtain ⟨groups, hgroups, hip⟩ := h
      obtain ⟨v4, -, rfl⟩ := Option.map_eq_some_iff.mp hgroups
      cases hip

namespace Uri

variable {g : Grammar} {cs : List Char} {u : Uri} {ip : IPv6}

/-! ### What has been found -/

/-- User information without a password stands at the start of it. -/
lemma sublist_infoText (info : Option (List Char)) :
    (infoText (info.map fun i => (cutOptional ':' i).1)).Sublist (infoText info) := by
  cases info with
  | none => exact List.Sublist.refl _
  | some info => exact (initial_cutOptional ':' info).sublist.append (List.Sublist.refl _)

namespace Shares

variable {info info' : Option (List Char)} {place host user : List Char}

lemma suffix (h : Shares info place info' host) : host <:+ place := by
  cases h with
  | apart => exact List.suffix_refl _
  | alone => exact List.suffix_refl _
  | left => exact (List.suffix_cons '@' _).trans (List.suffix_append _ _)

lemma at_not_mem (h : Shares info place none host) : '@' ∉ host := by
  cases h with
  | alone hmark => exact hmark

lemma apart_or_left (h : Shares info place (some user) host) :
    info = some user ∨ (info = none ∧ place = user ++ '@' :: host ∧ '@' ∉ user) := by
  cases h with
  | apart => exact .inl rfl
  | left host hmark => exact .inr ⟨rfl, rfl, hmark⟩

end Shares

namespace Found

variable {x : Pieces} {rest : List Char}

/-- A party that has been found in a text is legible. -/
lemma legible (h : Found cs u x rest) : u.Legible := by
  obtain ⟨-, -, hinside, hstands, -, -, hshares, huser, huser_ne, hnamed, hhost_ne, -⟩ := h
  have hhost : u.host.toList.Sublist x.place := hnamed ▸ hshares.suffix.sublist
  have hinfo : ∀ user, u.user = some user →
      ∃ i, user.toList = (cutOptional ':' i).1 ∧ '@' ∉ i ∧
        ('.' ∈ i → ∀ c ∈ i, (c == ';' || c == ' ') = false) := by
    intro user hsome
    rw [hsome] at huser
    obtain ⟨i, rfl, heq⟩ := Option.map_eq_some_iff.mp huser.symm
    rcases hshares.apart_or_left with hinfo | ⟨-, hplace, hmark⟩
    · rw [hinfo] at hinside
      cases hinside with
      | some _ hpoint hmark => exact ⟨i, heq.symm, hmark, fun h => absurd h hpoint⟩
    · refine ⟨i, heq.symm, hmark, fun _ c hc => hstands.stops c ?_⟩
      rw [Pieces.location, hplace]
      exact List.mem_append_left _ (List.mem_append_left _ hc)
  refine ⟨huser_ne, fun user hsome => ?_, fun user hsome hpoint c hc => ?_, fun hempty => ?_,
    fun hcolon => hstands.colon (hhost.mem hcolon), fun c hc => hstands.stops c ?_, fun hnone => ?_⟩
  · obtain ⟨i, heq, hmark, -⟩ := hinfo user hsome
    rw [heq]
    exact ⟨fun h => hmark ((initial_cutOptional ':' i).mem h), not_mem_cutOptional ':' i⟩
  · obtain ⟨i, heq, -, hstops⟩ := hinfo user hsome
    have hinitial := initial_cutOptional ':' i
    rw [← heq] at hinitial
    exact hstops (hinitial.mem hpoint) c (hinitial.mem hc)
  · rw [hempty] at hnamed
    exact hhost_ne hnamed.symm
  · exact List.mem_append_left _ (hhost.mem hc)
  · rw [hnone] at huser
    obtain rfl := Option.map_eq_none_iff.mp huser.symm
    exact hnamed ▸ hshares.at_not_mem

/-- Its user and its host stand in the text, behind a scheme. -/
lemma place (h : Found cs u x rest) : ∃ text : List Char, text <:+ cs ∧
    text.length + 4 ≤ cs.length ∧ (u.front ++ u.host.toList).Sublist text := by
  obtain ⟨rfl, hsip, hinside, -, -, -, hshares, huser, -, rfl, -, -⟩ := h
  refine ⟨_, List.suffix_append _ _, ?_, ?_⟩
  · have hlength := hsip.length_le
    rw [List.length_append]
    omega
  · rw [hinside.eq_append, Pieces.location, ← List.append_assoc, ← List.append_assoc,
      hshares.eq_append, List.append_assoc, List.append_assoc, front, huser]
    exact (sublist_infoText _).append (List.sublist_append_left _ _)

end Found

/-- What has been found in a text is legible, and its user and its host stand in the text, behind
a scheme. -/
structure FoundIn (u : Uri) (cs : List Char) : Prop where
  legible : u.Legible
  place : ∃ text : List Char, text <:+ cs ∧ text.length + 4 ≤ cs.length ∧
    (u.front ++ u.host.toList).Sublist text

/-- Whatever a grammar reads as a party has been found in the text. -/
lemma foundIn_of_parsePlain (hg : g.ReadsAddresses) (h : parsePlain g cs = .ok u) :
    u.FoundIn cs := by
  obtain ⟨x, rest, hfound⟩ := exists_found hg h
  exact ⟨hfound.legible, hfound.place⟩

/-! ### The end of the printed form -/

/-- What is dropped at the end of a text. -/
def isLoose (c : Char) : Bool :=
  isBlank c || c == '>'

/-- The beginning of a printed address is never dropped. -/
lemma bareText_chars_iff (u : Uri) :
    bareText u.chars = u.chars ↔ StartsIn (fun c => !isLoose c) u.chars.reverse := by
  have hfirst : ∃ later, u.chars = 's' :: later := ⟨_, u.chars_eq⟩
  obtain ⟨later, hlater⟩ := hfirst
  rw [bareText_eq_self_iff]
  constructor
  · rintro ⟨htrimmed, -, hclose⟩ c hc
    have hblank := htrimmed.last c hc
    have hbracket := hclose c hc
    simp only [Bool.not_eq_true', isLoose] at hblank hbracket ⊢
    rw [hblank, hbracket]
    rfl
  · intro h
    have hloose : ∀ c ∈ u.chars.reverse.head?, isBlank c = false ∧ (c == '>') = false :=
      fun c hc => by simpa [isLoose] using h c hc
    refine ⟨⟨?_, fun c hc => ?_⟩, ?_, fun c hc => ?_⟩
    · rw [hlater]
      exact startsIn_cons.mpr (by decide)
    · simp [(hloose c hc).1]
    · rw [hlater]
      exact startsIn_cons.mpr (by decide)
    · simp [(hloose c hc).2]

lemma isLoose_of_isFirm {c : Char} (h : isFirm c = true) : isLoose c = false := by
  simp only [isFirm, isLoose, Bool.not_eq_true', Bool.or_eq_false_iff] at h ⊢
  exact ⟨h.1.1, h.2⟩

/-- A port keeps the end of the printed form. -/
lemma bareText_chars_of_port {port : UInt16} (hport : u.port = some port) :
    bareText u.chars = u.chars := by
  have hne : u.back.reverse ≠ [] := by simp [back_of_some hport]
  rw [bareText_chars_iff, chars_eq]
  simp only [List.reverse_append, List.append_assoc]
  intro c hc
  rw [List.head?_append_of_ne_nil _ hne] at hc
  simp [isLoose_of_isFirm (u.allIn_back c (List.mem_reverse.mp (List.mem_of_mem_head? hc)))]

/-- Without a port, the host has the last word. -/
lemma Legible.bareText_chars_iff (h : u.Legible) (hport : u.port = none) :
    bareText u.chars = u.chars ↔ ∀ c ∈ u.host.toList.getLast?, isLoose c = false := by
  have hne : u.host.toList.reverse ≠ [] := by simp [h.host_ne]
  have hback := back_of_none hport
  have hlast : u.chars.reverse.head? = u.host.toList.getLast? := by
    rw [h.chars_eq, hback, List.append_nil, List.reverse_append, List.reverse_append,
      List.append_assoc, List.head?_append_of_ne_nil _ hne, List.head?_reverse]
  rw [Uri.bareText_chars_iff, StartsIn, hlast]
  simp only [Bool.not_eq_true']

/-- A bracket behind the host keeps the end as well. -/
lemma bareText_chars_of_literal (hhost : u.host = ip.text) : bareText u.chars = u.chars := by
  cases hport : u.port with
  | some port => exact bareText_chars_of_port hport
  | none =>
    have hback := back_of_none hport
    rw [bareText_chars_iff, chars_of_literal hhost, hback]
    simp [isLoose, isBlank]

/-! ### Reading the printed form -/

/-- A text with brackets is read as an address whose host is the IPv6 address between them. -/
lemma parseBare_of_brackets (hg : g.ReadsAddresses) {before inside after : List Char}
    (hcut : cutBrackets cs = some (before, inside, after)) (h : parseBare g cs = .ok u) :
    ∃ (ip : IPv6) (v : Uri), IPv6.read inside = some ip ∧
      v.FoundIn (before ++ ipv6Placeholder ++ after) ∧ u = { v with host := ip.text } := by
  simp only [parseBare, hcut] at h
  split at h
  · cases h
  · next ip hip =>
    split at h
    · cases h
    · next v hv =>
      cases h
      exact ⟨ip, v, hip, foundIn_of_parsePlain hg hv, rfl⟩

lemma Legible.standIn (h : u.Legible) : u.standIn.Legible where
  user_ne := h.user_ne
  user_apart := h.user_apart
  user_stops := h.user_stops
  host_ne := by
    change String.ofList ipv6Placeholder ≠ ""
    decide
  host_colon := by
    rw [host_standIn]
    decide
  host_stops := by
    have hstops : AllIn (fun c => !(c == ';' || c == ' ')) ipv6Placeholder := by decide
    rw [host_standIn]
    exact fun c hc => by simpa using hstops c hc
  host_at _ := by
    rw [host_standIn]
    decide

/-- The host that is read is a name, or an IPv6 address in the place of one. -/
lemma legible_of_parseBare (hg : g.ReadsAddresses) (h : parseBare g cs = .ok u) :
    u.Legible ∨ ∃ ip : IPv6, u.host = ip.text ∧ u.standIn.Legible := by
  cases hcut : cutBrackets cs with
  | none =>
    rw [parseBare_of_no_brackets hcut] at h
    exact .inl (foundIn_of_parsePlain hg h).legible
  | some split =>
    obtain ⟨ip, v, -, hfound, rfl⟩ := parseBare_of_brackets hg hcut h
    exact .inr ⟨ip, rfl, hfound.legible.standIn⟩

/-- A name is read back if nothing is dropped from the printed form, and nothing in it is taken for
an IPv6 address. -/
lemma Legible.parseBare_iff (hg : g.ReadsAddresses) (h : u.Legible) :
    parseBare g (bareText u.chars) = .ok u ↔
      bareText u.chars = u.chars ∧ cutBrackets u.chars = none := by
  constructor
  · intro hparse
    have hcut : cutBrackets (bareText u.chars) = none := by
      by_contra hne
      exact h.host_colon (colon_mem_of_parseBare hne hparse)
    rw [parseBare_of_no_brackets hcut] at hparse
    have hbare : bareText u.chars = u.chars := by
      cases hport : u.port with
      | some port => exact bareText_chars_of_port hport
      | none =>
        -- A scheme, the user and the host have been found again, and that is all there was.
        obtain ⟨text, -, hlength, hplace⟩ := (foundIn_of_parsePlain hg hparse).place
        have hback := back_of_none hport
        refine (bareText_sublist _).eq_of_length_le ?_
        have hshort := hplace.length_le
        rw [h.chars_eq, hback, List.append_nil, List.length_append]
        have hscheme : "sip:".toList.length = 4 := rfl
        rw [h.chars_eq, hback, List.append_nil] at hlength
        omega
    exact ⟨hbare, hbare ▸ hcut⟩
  · rintro ⟨hbare, hcut⟩
    rw [hbare, parseBare_of_no_brackets hcut]
    exact h.parsePlain_chars hg

lemma eq_append_of_cutBrackets {before inside after : List Char}
    (h : cutBrackets cs = some (before, inside, after)) :
    ∃ rest, cs = before ++ '[' :: rest ∧ '[' ∉ before ∧ ']' ∉ before ∧
      rest = inside ++ ']' :: after ∧ ']' ∉ inside := by
  unfold cutBrackets at h
  split at h
  · cases h
  · next before' rest hopen =>
    split at h
    · cases h
    · next hclose =>
      obtain ⟨⟨inside', after'⟩, hcut, heq⟩ := Option.map_eq_some_iff.mp h
      cases heq
      obtain ⟨hcs, hnot⟩ := eq_append_of_cut hopen
      obtain ⟨hrest, hinside⟩ := eq_append_of_cut hcut
      exact ⟨rest, hcs, hnot, hclose, hrest, hinside⟩

/-- Nothing is in brackets if none is opened before the first one is closed. -/
lemma cutBrackets_eq_none_iff :
    cutBrackets cs = none ↔
      ∀ before after, cs = before ++ ']' :: after → ']' ∉ before → '[' ∉ before := by
  constructor
  · rintro hnone before after rfl hclose hopen
    obtain ⟨first, later, rfl, hfirst⟩ := List.eq_append_cons_of_mem hopen
    rw [List.mem_append, List.mem_cons, not_or, not_or] at hclose
    rw [List.append_assoc, List.cons_append, cutBrackets, cut_append _ hfirst] at hnone
    simp only [if_neg hclose.1, cut_append after hclose.2.2, Option.map_some, reduceCtorEq]
      at hnone
  · intro h
    by_contra hsome
    obtain ⟨⟨before, inside, after⟩, hcut⟩ := Option.ne_none_iff_exists'.mp hsome
    obtain ⟨rest, rfl, -, hclose, rfl, hinside⟩ := eq_append_of_cutBrackets hcut
    refine h (before ++ '[' :: inside) after ?_ ?_ ?_
    · rw [List.append_assoc, List.cons_append]
    · simp [hclose, hinside]
    · simp

lemma Legible.colon_not_mem_front (h : u.Legible) : ':' ∉ u.front := by
  unfold front
  cases huser : u.user with
  | none => exact List.not_mem_nil
  | some user => simp [infoText, (h.user_apart user huser).2]

/-- With an opening bracket in the user, the text behind it would have to be an IPv6 address, or the
bracket would be gone from the user that is read. -/
lemma open_not_mem_front (hg : g.ReadsAddresses) (hhost : u.host = ip.text)
    (h : u.standIn.Legible) (hparse : parseBare g u.chars = .ok u) {before inside after : List Char}
    (hcut : cutBrackets u.chars = some (before, inside, after)) : '[' ∉ u.front := by
  obtain ⟨ip', v, hread, hfound, hv⟩ := parseBare_of_brackets hg hcut hparse
  obtain ⟨rest, hchars, hopen, -, hrest, hinside⟩ := eq_append_of_cutBrackets hcut
  intro hmem
  obtain ⟨first, later, hfront, hfirst⟩ := List.eq_append_cons_of_mem hmem
  have hbefore : '[' ∉ "sip:".toList ++ first := by
    rw [List.mem_append, not_or]
    exact ⟨by decide, hfirst⟩
  have htext : "sip:".toList ++ first ++
      '[' :: (later ++ '[' :: (ip.chars ++ ']' :: u.back)) = before ++ '[' :: rest := by
    rw [← hchars, chars_of_literal hhost, hfront]
    simp
  obtain ⟨rfl, rfl⟩ := eq_of_append_cons htext hbefore hopen
  by_cases hclose : ']' ∈ later
  · -- The brackets are both in the user, and a user holds no colon.
    obtain ⟨middle, last, rfl, hmiddle⟩ := List.eq_append_cons_of_mem hclose
    rw [List.append_assoc, List.cons_append] at hrest
    obtain ⟨rfl, -⟩ := eq_of_append_cons hrest hmiddle hinside
    refine h.colon_not_mem_front ?_
    change ':' ∈ u.front
    rw [hfront]
    simp [IPv6.colon_mem_of_read hread]
  · -- The closing bracket is the one behind the host, so the user is cut off at the opening one.
    have hip : ']' ∉ ip.chars := fun h => by
      rcases IPv6.mem_chars h with h | h | h <;> cases h
    have hmiddle : ']' ∉ later ++ '[' :: ip.chars := by
      simp [hclose, hip]
    rw [← List.cons_append, ← List.append_assoc] at hrest
    obtain ⟨rfl, rfl⟩ := eq_of_append_cons hrest hmiddle hinside
    obtain ⟨text, hsuffix, -, hplace⟩ := hfound.place
    have hsame : v.front = u.front := by
      rw [hv]
      rfl
    have hread : '[' ∈ "sip:".toList ++ first ++ ipv6Placeholder ++ u.back :=
      hsuffix.mem (hplace.mem (List.mem_append_left _ (hsame ▸ hmem)))
    have hplaceholder : '[' ∉ ipv6Placeholder := by decide
    rw [List.mem_append, List.mem_append] at hread
    rcases hread with (hread | hread) | hread
    · exact hbefore hread
    · exact hplaceholder hread
    · exact u.back_not_mem (by decide) rfl hread

/-- An IPv6 address is read back as the host exactly if there are no brackets in front of it. -/
lemma parseBare_iff_of_literal (hg : g.ReadsAddresses) (hhost : u.host = ip.text)
    (h : u.standIn.Legible) : parseBare g u.chars = .ok u ↔ '[' ∉ u.front ∧ ']' ∉ u.front := by
  constructor
  · intro hparse
    cases hcut : cutBrackets u.chars with
    | none =>
      rw [parseBare_of_no_brackets hcut] at hparse
      have hcolon := (foundIn_of_parsePlain hg hparse).legible.host_colon
      rw [hhost, IPv6.text, String.toList_ofList] at hcolon
      exact absurd ip.colon_mem_chars hcolon
    | some split =>
      have hfront := open_not_mem_front hg hhost h hparse hcut
      obtain ⟨rest, hchars, hopen, hclose, -⟩ := eq_append_of_cutBrackets hcut
      have hbefore : '[' ∉ "sip:".toList ++ u.front := by
        rw [List.mem_append, not_or]
        exact ⟨by decide, hfront⟩
      rw [chars_of_literal hhost] at hchars
      obtain ⟨heq, -⟩ := eq_of_append_cons hchars hbefore hopen
      rw [← heq, List.mem_append, not_or] at hclose
      exact ⟨hfront, hclose.2⟩
  · exact fun hfront => parseBare_of_literal hg hhost hfront h

/-! ### Stable addresses -/

/-- What it takes for an address to be read back from its printed form. -/
structure Stable (u : Uri) : Prop where
  /-- At the end of the host there is nothing that is dropped at the end of a text. -/
  ends : u.port = none → ∀ c ∈ u.host.toList.getLast?, isBlank c = false ∧ c ≠ '>'
  /-- Nothing is in brackets but the IPv6 address. -/
  literal : ':' ∈ u.host.toList → ∀ user, u.user = some user →
    '[' ∉ user.toList ∧ ']' ∉ user.toList
  /-- Without an IPv6 address, nothing is in brackets: none is opened before the first is closed. -/
  name : ':' ∉ u.host.toList → ∀ before after, u.text.toList = before ++ ']' :: after →
    ']' ∉ before → '[' ∉ before

lemma not_isLoose_iff {c : Char} : isLoose c = false ↔ isBlank c = false ∧ c ≠ '>' := by
  simp [isLoose]

lemma brackets_not_mem_front_iff :
    '[' ∉ u.front ∧ ']' ∉ u.front ↔
      ∀ user, u.user = some user → '[' ∉ user.toList ∧ ']' ∉ user.toList := by
  unfold front
  cases u.user <;> simp [infoText]

lemma Legible.stable_iff (h : u.Legible) :
    u.Stable ↔ bareText u.chars = u.chars ∧ cutBrackets u.chars = none := by
  have hbrackets : cutBrackets u.chars = none ↔ ∀ before after,
      u.text.toList = before ++ ']' :: after → ']' ∉ before → '[' ∉ before := by
    rw [cutBrackets_eq_none_iff, text, String.toList_ofList]
  constructor
  · rintro ⟨hends, -, hname⟩
    refine ⟨?_, hbrackets.mpr (hname h.host_colon)⟩
    cases hport : u.port with
    | some port => exact bareText_chars_of_port hport
    | none =>
      exact (h.bareText_chars_iff hport).mpr fun c hc => not_isLoose_iff.mpr (hends hport c hc)
  · rintro ⟨hbare, hcut⟩
    refine ⟨fun hport c hc => ?_, fun hcolon => absurd hcolon h.host_colon,
      fun _ => hbrackets.mp hcut⟩
    exact not_isLoose_iff.mp ((h.bareText_chars_iff hport).mp hbare c hc)

lemma stable_iff_of_literal (hhost : u.host = ip.text) :
    u.Stable ↔ '[' ∉ u.front ∧ ']' ∉ u.front := by
  have hchars : u.host.toList = ip.chars := by rw [hhost, IPv6.text, String.toList_ofList]
  rw [brackets_not_mem_front_iff]
  constructor
  · intro h
    exact h.literal (hchars ▸ ip.colon_mem_chars)
  · intro h
    refine ⟨fun _ c hc => ?_, fun _ => h, fun hcolon => ?_⟩
    · rw [hchars] at hc
      refine not_isLoose_iff.mp (isLoose_of_isFirm ?_)
      rcases IPv6.mem_chars (List.mem_of_getLast? hc) with hc | rfl | rfl
      · exact isFirm_of_isAlphanum hc
      · rfl
      · rfl
    · rw [hchars] at hcolon
      exact absurd ip.colon_mem_chars hcolon

/-- A grammar that reads addresses by the rules reads an address that has been read, from whatever
text, back from its printed form if and only if the address is stable. -/
theorem parse_text_iff (hg : g.ReadsAddresses) {t : String} (h : parse g t = .ok u) :
    parse g u.text = .ok u ↔ u.Stable := by
  rw [parse_eq_ok_iff, text, String.toList_ofList]
  rcases legible_of_parseBare hg (parse_eq_ok_iff.mp h) with hlegible | ⟨ip, hhost, hstandIn⟩
  · rw [hlegible.parseBare_iff hg, hlegible.stable_iff]
  · rw [bareText_chars_of_literal hhost, parseBare_iff_of_literal hg hhost hstandIn,
      stable_iff_of_literal hhost]

/-- A password and parameters are gone, and the host is an IPv6 address in canonical form. -/
theorem parse_text_iff_of_delimiters :
    let u : Uri := ⟨some "carol", "2001:db8::1", some 5061⟩
    Grammar.tokenizer.ReadsAddresses ∧
      parse .tokenizer "<sips:carol:secret@[2001:db8:0::1]:5061;transport=tls>" = .ok u ∧
      u.Stable ∧ u.text = "sip:carol@[2001:db8::1]:5061" ∧ parse .tokenizer u.text = .ok u := by
  intro u
  have hparse :
      parse .tokenizer "<sips:carol:secret@[2001:db8:0::1]:5061;transport=tls>" = .ok u := by
    decide +kernel
  have hstable : u.Stable := by
    refine ⟨nofun, ?_, fun hcolon => absurd (by decide : ':' ∈ u.host.toList) hcolon⟩
    rintro - _ ⟨⟩
    decide
  have hread := (parse_text_iff Grammar.readsAddresses_tokenizer hparse).mpr hstable
  exact ⟨Grammar.readsAddresses_tokenizer, hparse, hstable, by decide +kernel, hread⟩

/-- Parameters behind the closing bracket: it is not at the end of the text, so it stays in the host
that is read, and it is dropped when the printed form is read. -/
theorem surviving_bracket_misread :
    let u : Uri := ⟨some "alice", "example.com>", none⟩
    parse .tokenizer "<sip:alice@example.com>;transport=tcp" = .ok u ∧ ¬ u.Stable ∧
      parse .tokenizer u.text = .ok ⟨some "alice", "example.com", none⟩ := by
  intro u
  refine ⟨by decide +kernel, fun h => ?_, by decide +kernel⟩
  exact (h.ends rfl '>' (by decide)).2 rfl

end Uri

end SipAgent
