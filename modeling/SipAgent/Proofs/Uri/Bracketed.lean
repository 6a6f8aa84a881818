import SipAgent.Proofs.Uri.Stable

/-!
# Addresses with brackets

The name that stands in for an IPv6 address takes the place of the first brackets, wherever they are
in a text, and whatever host the grammar finds then is overwritten with the IPv6 address.
`parse_bracketed_iff` says when that is right: the address has been written as the host exactly if,
by the rules, the stand-in is the host of the party, it is found in its own place, and the text is
read to its end.
`bracketed_parameter_misread` shows a parameter with an address in brackets that replaces the host.
-/

namespace SipAgent

open Text

namespace Uri

variable {g : Grammar} {cs before inside after rest : List Char} {x : Pieces} {r : Reference}
  {u v : Uri}

/-! ### Around the host -/

/-- What is written around the host of an address: a scheme of SIP in any letter case, perhaps user
information, perhaps a port, and parameters. -/
structure Layout where
  scheme : List Char
  info : Option (List Char)
  port : Option (List Char)
  params : List Param
  scheme_sip : IsSip scheme
  info_at : ∀ cs ∈ info, '@' ∉ cs
  params_tokens : ∀ p ∈ params, p.Tokens isTokenChar

namespace Layout

/-- What stands in front of the host. -/
def front (l : Layout) : List Char :=
  l.scheme ++ infoText l.info

/-- What stands behind the host. -/
def back (l : Layout) : List Char :=
  portText l.port ++ l.params.flatMap Param.text

/-- The user is the user information without a password. -/
def user (l : Layout) : Option (List Char) :=
  l.info.map fun info => (cutOptional ':' info).1

end Layout

/-- By the rules, the name that stands in for an IPv6 address is found as the host of the party, the
port and the parameters are what stands behind it, and the text is read to its end. -/
structure StandsForHost (before after : List Char) (u : Uri) (x : Pieces) (r : Reference) :
    Prop where
  pieces : PiecesAt isTokenChar (before ++ ipv6Placeholder ++ after) x []
  means : x.Means r
  found : r.party = .ok u.standIn
  behind : after = portText x.port ++ x.params.flatMap Param.text

/-! ### From the stand-in to the layout -/

section Shares

variable {info info' info'' : Option (List Char)} {place host host' : List Char}

lemma Shares.unique (h : Shares info place info' host) (h' : Shares info place info'' host') :
    info' = info'' ∧ host = host' := by
  cases h with
  | apart info =>
    cases h' with
    | apart => exact ⟨rfl, rfl⟩
  | alone hmark =>
    generalize hplace : place = text at h'
    cases h' with
    | alone => exact ⟨rfl, rfl⟩
    | left => exact absurd (List.mem_append_right _ List.mem_cons_self) (hplace ▸ hmark)
  | @left user host hmark =>
    generalize hplace : user ++ '@' :: host = text at h'
    cases h' with
    | alone hmark' => exact absurd (List.mem_append_right _ List.mem_cons_self) (hplace ▸ hmark')
    | left host' hmark' =>
      obtain ⟨rfl, rfl⟩ := eq_of_append_cons hplace hmark hmark'
      exact ⟨rfl, rfl⟩

lemma Shares.info_at (h : Shares info place info' host) (hinfo : InfoAt cs info rest) :
    ∀ i ∈ info', '@' ∉ i := by
  rintro i rfl
  rcases h.apart_or_left with rfl | ⟨-, -, hmark⟩
  · cases hinfo with
    | some _ _ hmark => exact hmark
  · exact hmark

end Shares

/-- A stand-in that is found as the host shows how the text is laid out. -/
lemma StandsForHost.exists_layout (h : StandsForHost before after u x r) :
    ∃ l : Layout, before = l.front ∧ after = l.back ∧ l.user = u.user.map String.toList ∧
      l.port.map readUInt16 = u.port.map .ok := by
  have hfound := found_of_pieces h.pieces h.means h.found
  obtain ⟨htext, hsip, hinside, -, hparams, -, hshares, huser, -, hnamed, -, hport⟩ := hfound
  rw [host_standIn] at hnamed
  refine ⟨⟨_, _, x.port, x.params, hsip, hshares.info_at hinside, hparams.tokens⟩, ?_, h.behind,
    huser.symm, hport⟩
  have hinfo := hshares.eq_append
  rw [hinside.eq_append, Pieces.location, hparams.eq_append, List.append_nil, List.append_assoc _ _
    (List.flatMap _ _), ← h.behind, ← List.append_assoc (infoText _), hinfo, ← hnamed,
    ← List.append_assoc, ← List.append_assoc] at htext
  exact List.append_cancel_right (List.append_cancel_right htext)

/-! ### From the layout to the stand-in -/

namespace Layout

variable {l : Layout} {port : Option (List Char)} {read : Option UInt16} {c : Char}

lemma not_mem_portText (h : port.map readUInt16 = read.map .ok) (hcolon : c ≠ ':') (hplus : c ≠ '+')
    (hdigit : decimalDigit? c = none) : c ∉ portText port := by
  cases port with
  | none => exact List.not_mem_nil
  | some port =>
    rw [portText, List.mem_cons, not_or]
    refine ⟨hcolon, fun hc => ?_⟩
    cases hread : readUnsigned 0xffff port with
    | error e => cases read <;> simp [readUInt16, hread, Except.map] at h
    | ok n =>
      rcases mem_of_readUnsigned hread hc with rfl | hsome
      · exact hplus rfl
      · simp [hdigit] at hsome

lemma at_not_mem_back (h : l.port.map readUInt16 = read.map .ok) : '@' ∉ l.back := by
  rw [back, List.mem_append, not_or]
  exact ⟨not_mem_portText h (by decide) (by decide) (by decide),
    Param.not_mem_text (by decide) (by decide) (by decide) l.params_tokens⟩

lemma stops_portText (h : l.port.map readUInt16 = read.map .ok) :
    ∀ c ∈ portText l.port, (c == ';' || c == ' ') = false :=
  either_eq_false (not_mem_portText h (by decide) (by decide) (by decide))
    (not_mem_portText h (by decide) (by decide) (by decide))

/-- The stand-in stands by itself, or behind user information that holds nothing that ends a
host. -/
lemma stands (h : l.port.map readUInt16 = read.map .ok) (scheme : Option Scheme)
    (info : Option (List Char)) {before : List Char} (hcolon : ':' ∉ before)
    (hstops : ∀ c ∈ before, (c == ';' || c == ' ') = false) :
    Pieces.Stands ⟨scheme, info, before ++ ipv6Placeholder, l.port, l.params⟩
      (l.params.flatMap Param.text) where
  ne := by
    have hname : ipv6Placeholder ≠ [] := by decide
    simp [Pieces.location, hname]
  colon := by
    have hname : ':' ∉ ipv6Placeholder := by decide
    simp [hcolon, hname]
  stops := by
    have hname : AllIn (fun c => !(c == ';' || c == ' ')) ipv6Placeholder := by decide
    rw [Pieces.location, List.forall_mem_append, List.forall_mem_append]
    exact ⟨⟨hstops, fun c hc => by simpa using hname c hc⟩, stops_portText h⟩
  next := Param.startsIn_text rfl l.params

/-- A user that holds a point and is found holds nothing that ends a host. -/
lemma of_user_left {info tail : List Char} (hpoint : '.' ∈ info) (hmark : '@' ∉ info)
    (hfound : Found (l.scheme ++ (info ++ '@' :: tail)) v x rest) (huser : v.user ≠ none) :
    ':' ∉ info ∧ ∀ c ∈ info, (c == ';' || c == ' ') = false := by
  obtain ⟨htext, hsip, hinside, hstands, -, -, hshares, hsame, -⟩ := hfound
  obtain ⟨scheme, hscheme⟩ := l.scheme_sip.exists_schemeAt (info ++ '@' :: tail)
  obtain ⟨scheme', hscheme'⟩ := hsip.exists_schemeAt _
  rw [← htext] at hscheme'
  obtain ⟨-, rfl⟩ := hscheme'.unique hscheme
  obtain ⟨hnone, hplace⟩ := hinside.unique (InfoAt.of_point hpoint hmark tail)
  obtain ⟨user, huser⟩ := Option.ne_none_iff_exists'.mp huser
  rw [huser] at hsame
  obtain ⟨i, rfl, -⟩ := Option.map_eq_some_iff.mp hsame.symm
  rcases hshares.apart_or_left with hsome | ⟨-, hleft, hmark'⟩
  · cases hnone.symm.trans hsome
  · rw [Pieces.location, hleft, List.append_assoc, List.append_assoc, List.cons_append] at hplace
    obtain ⟨rfl, -⟩ := eq_of_append_cons hplace hmark' hmark
    refine ⟨fun hc => hstands.colon (hleft ▸ List.mem_append_left _ hc), fun c hc => ?_⟩
    exact hstands.stops c (List.mem_append_left _ (hleft ▸ List.mem_append_left _ hc))

/-- The stand-in is found where the user information ends, or behind a user that is left in the
host. -/
lemma exists_pieces_of_info {text behind before : List Char} {scheme : Option Scheme}
    {info info' : Option (List Char)} (hport : l.port.map readUInt16 = read.map .ok)
    (hscheme : SchemeAt text scheme behind)
    (hinside : InfoAt behind info (before ++ (ipv6Placeholder ++ l.back)))
    (hcolon : ':' ∉ before) (hstops : ∀ c ∈ before, (c == ';' || c == ' ') = false)
    (hshares : Shares info (before ++ ipv6Placeholder) info' ipv6Placeholder)
    (hinfo : l.info = info') :
    ∃ y : Pieces, PiecesAt isTokenChar text y [] ∧ Shares y.info y.place l.info ipv6Placeholder ∧
      y.port = l.port ∧ y.params = l.params := by
  have hparams := Param.paramsAt_text Param.separates_isTokenChar l.params_tokens
  have hplace : before ++ (ipv6Placeholder ++ l.back) =
      before ++ ipv6Placeholder ++ portText l.port ++ l.params.flatMap Param.text := by
    simp [back]
  rw [hplace] at hinside
  exact ⟨_, .intro hscheme hinside (stands hport scheme info hcolon hstops) hparams,
    hinfo ▸ hshares, rfl, rfl⟩

/-- Where a text is laid out around the stand-in, the rules find it there. -/
lemma exists_pieces (hport : l.port.map readUInt16 = v.port.map .ok)
    (hfound : Found (l.front ++ ipv6Placeholder ++ l.back) v x rest)
    (huser : l.user = v.user.map String.toList) :
    ∃ y : Pieces, PiecesAt isTokenChar (l.front ++ ipv6Placeholder ++ l.back) y [] ∧
      Shares y.info y.place l.info ipv6Placeholder ∧ y.port = l.port ∧ y.params = l.params := by
  have htext : l.front ++ ipv6Placeholder ++ l.back =
      l.scheme ++ (infoText l.info ++ (ipv6Placeholder ++ l.back)) := by
    rw [front, List.append_assoc, List.append_assoc]
  obtain ⟨scheme, hscheme⟩ :=
    l.scheme_sip.exists_schemeAt (infoText l.info ++ (ipv6Placeholder ++ l.back))
  rw [← htext] at hscheme
  rcases l.info.eq_none_or_eq_some with hinfo | ⟨info, hinfo⟩
  · have hname : '@' ∉ ipv6Placeholder := by decide
    have hmark : '@' ∉ ipv6Placeholder ++ l.back := by
      rw [List.mem_append, not_or]
      exact ⟨hname, at_not_mem_back hport⟩
    have hinside : InfoAt (ipv6Placeholder ++ l.back) none ([] ++ (ipv6Placeholder ++ l.back)) :=
      .of_not_mem hmark
    rw [hinfo] at hscheme
    exact exists_pieces_of_info hport hscheme hinside List.not_mem_nil (List.forall_mem_nil _)
      (.alone hname) hinfo
  have hmark : '@' ∉ info := l.info_at info hinfo
  have hmarked : infoText (some info) ++ (ipv6Placeholder ++ l.back) =
      info ++ '@' :: (ipv6Placeholder ++ l.back) := by simp [infoText]
  rw [htext, hinfo, hmarked] at hfound
  rw [hinfo, hmarked] at hscheme
  by_cases hpoint : '.' ∈ info
  · have hsome : v.user ≠ none := by
      intro hnone
      rw [hnone, user, hinfo] at huser
      cases huser
    obtain ⟨hcolon, hends⟩ := of_user_left hpoint hmark hfound hsome
    have hinside := InfoAt.of_point hpoint hmark (ipv6Placeholder ++ l.back)
    have hstops : ∀ c ∈ info ++ ['@'], (c == ';' || c == ' ') = false := by
      rw [List.forall_mem_append, List.forall_mem_singleton]
      exact ⟨hends, rfl⟩
    have hplace : ∀ cs, info ++ '@' :: cs = info ++ ['@'] ++ cs := fun cs =>
      (List.append_cons info '@' cs)
    rw [hplace] at hinside hscheme
    exact exists_pieces_of_info hport hscheme hinside (by simp [hcolon]) hstops
      (hplace ipv6Placeholder ▸ .left _ hmark) hinfo
  · have hinside : InfoAt (info ++ '@' :: (ipv6Placeholder ++ l.back)) (some info)
        ([] ++ (ipv6Placeholder ++ l.back)) := .some rfl hpoint hmark
    exact exists_pieces_of_info hport hscheme hinside List.not_mem_nil (List.forall_mem_nil _)
      (.apart info _) hinfo

/-- The stand-in is the host of the party, so nothing but it is overwritten. -/
lemma standsForHost {host : String} (hport : l.port.map readUInt16 = v.port.map .ok)
    (hpieces : PiecesAt isTokenChar (l.front ++ ipv6Placeholder ++ l.back) x rest)
    (hmeans : x.Means r) (hparty : r.party = .ok v) (huser : l.user = v.user.map String.toList) :
    StandsForHost l.front l.back { v with host := host } x r := by
  have hfound := found_of_pieces hpieces hmeans hparty
  obtain ⟨y, hplaced, hshares, hports, hparams⟩ := exists_pieces hport hfound huser
  obtain ⟨rfl, rfl⟩ := hplaced.unique Param.separates_isTokenChar hpieces
  obtain ⟨-, -, -, -, -, -, hshares', -, -, hnamed, -, -⟩ := hfound
  have hhost : v.host.toList = ipv6Placeholder := hnamed.trans (hshares'.unique hshares).2
  have hsame : standIn { v with host := host } = v := by
    rw [standIn, ← hhost, String.ofList_toList]
  exact ⟨hplaced, hmeans, hsame ▸ hparty, by rw [back, hports, hparams]⟩

end Layout

/-- A grammar that reads addresses by the rules makes the IPv6 address in the first brackets of a
text the host. The text has been written that way, as a scheme of SIP, perhaps user information, the
brackets, perhaps a port, and parameters, if and only if the name that stands in for the brackets is
the host by the rules, where it stands, and they reach the end of the text. -/
theorem parse_bracketed_iff (hg : g.ReadsAddresses) {t : String} (h : parse g t = .ok u)
    (hcut : cutBrackets (bareText t.toList) = some (before, inside, after)) :
    (∃ x r, StandsForHost before after u x r) ↔
      ∃ (l : Layout) (ip : IPv6), bareText t.toList = l.front ++ '[' :: (inside ++ ']' :: l.back) ∧
        before = l.front ∧ IPv6.read inside = some ip ∧ u.host = ip.text ∧
        u.user.map String.toList = l.user ∧ l.port.map readUInt16 = u.port.map .ok := by
  have hbare := parse_eq_ok_iff.mp h
  obtain ⟨rest, htext, -, -, rfl, -⟩ := eq_append_of_cutBrackets hcut
  simp only [parseBare, hcut] at hbare
  split at hbare
  · cases hbare
  · next ip hip =>
    split at hbare
    · cases hbare
    · next v hv =>
      cases hbare
      obtain ⟨r, hread, hparty⟩ := parsePlain_eq_ok_iff.mp hv
      obtain ⟨x, rest, hpieces, hmeans⟩ := (hg _ r).mp hread
      constructor
      · rintro ⟨x, r, hstands⟩
        obtain ⟨l, rfl, rfl, huser, hport⟩ := hstands.exists_layout
        exact ⟨l, ip, htext, rfl, hip, rfl, huser.symm, hport⟩
      · rintro ⟨l, ip', hlayout, rfl, -, -, huser, hport⟩
        obtain rfl : after = l.back := by
          rw [htext] at hlayout
          simpa using hlayout
        exact ⟨x, r, Layout.standsForHost hport hpieces hmeans hparty huser.symm⟩

/-- A user with a point, a port and a parameter around the brackets, between angle brackets. -/
theorem parse_bracketed_iff_of_delimiters :
    let t := "<SIPS:j.doe@[2001:db8:0::1]:5062;transport=tcp>"
    let before := "SIPS:j.doe@".toList
    let inside := "2001:db8:0::1".toList
    let after := ":5062;transport=tcp".toList
    let u : Uri := ⟨some "j.doe", "2001:db8::1", some 5062⟩
    Grammar.tokenizer.ReadsAddresses ∧ parse .tokenizer t = .ok u ∧
      cutBrackets (bareText t.toList) = some (before, inside, after) ∧
      (∃ x r, StandsForHost before after u x r) ∧
      ∃ (l : Layout) (ip : IPv6),
        bareText t.toList = l.front ++ '[' :: (inside ++ ']' :: l.back) ∧
        before = l.front ∧ IPv6.read inside = some ip ∧ u.host = ip.text ∧
        u.user.map String.toList = l.user ∧ l.port.map readUInt16 = u.port.map .ok := by
  intro t before inside after u
  have hparse : parse .tokenizer t = .ok u := by decide +kernel
  have hcut : cutBrackets (bareText t.toList) = some (before, inside, after) := by decide +kernel
  have hiff := parse_bracketed_iff Grammar.readsAddresses_tokenizer hparse hcut
  let l : Layout := ⟨"SIPS:".toList, some "j.doe".toList, some "5062".toList,
    [⟨"transport".toList, some "tcp".toList⟩], .inr (by decide), by decide, by decide⟩
  let ip : IPv6 := ⟨[0x2001, 0xdb8, 0, 0, 0, 0, 0, 1], rfl⟩
  have hstands := hiff.mpr ⟨l, ip, by decide +kernel, by decide +kernel, by decide +kernel,
    by decide +kernel, by decide +kernel, by decide +kernel⟩
  exact ⟨Grammar.readsAddresses_tokenizer, hparse, hcut, hstands, hiff.mp hstands⟩

/-- User information ends with its at sign, and a scheme with its colon. -/
lemma Layout.last_front (l : Layout) : ∀ c ∈ l.front.getLast?, c = ':' ∨ c = '@' := by
  intro c hc
  cases hinfo : l.info with
  | some info =>
    rw [front, hinfo, infoText, ← List.append_assoc, List.getLast?_concat] at hc
    exact .inr (Option.some.inj hc).symm
  | none =>
    rw [front, hinfo, infoText, List.append_nil] at hc
    have hlast : ∀ word : List Char, word.getLast? = some ':' →
        sameAnyCase l.scheme word = true → c = ':' := by
      intro word hword hsame
      rw [sameAnyCase_iff] at hsame
      have hmap := congrArg List.getLast? hsame
      rw [List.getLast?_map, List.getLast?_map, Option.mem_def.mp hc, hword] at hmap
      exact ((colon_toLower_iff c).mp (Option.some.inj hmap).symm).symm
    rcases l.scheme_sip with h | h
    · exact .inl (hlast _ (by decide) h)
    · exact .inl (hlast _ (by decide) h)

/-- An address in the brackets of a parameter replaces the host that has been named. The text has
not been written with its host in brackets. -/
theorem bracketed_parameter_misread :
    let t := "sip:bob@example.com;maddr=[2001:db8::1]"
    parse .tokenizer t = .ok ⟨some "bob", "2001:db8::1", none⟩ ∧
      cutBrackets (bareText t.toList) =
        some ("sip:bob@example.com;maddr=".toList, "2001:db8::1".toList, []) ∧
      ∀ (l : Layout) (inside : List Char),
        bareText t.toList ≠ l.front ++ '[' :: (inside ++ ']' :: l.back) := by
  intro t
  refine ⟨by decide +kernel, by decide +kernel, fun l inside hlayout => ?_⟩
  have htext : bareText t.toList =
      "sip:bob@example.com;maddr=".toList ++ '[' :: "2001:db8::1]".toList := by decide +kernel
  have hopen : '[' ∉ "sip:bob@example.com;maddr=".toList := by decide
  have hfront : '[' ∉ l.front := by
    intro hmem
    obtain ⟨first, later, hsplit, hfirst⟩ := List.eq_append_cons_of_mem hmem
    rw [htext, hsplit, List.append_assoc] at hlayout
    obtain ⟨-, hrest⟩ := eq_of_append_cons hlayout hopen hfirst
    have hone : '[' ∉ "2001:db8::1]".toList := by decide
    exact hone (hrest ▸ List.mem_append_right _ List.mem_cons_self)
  rw [htext] at hlayout
  obtain ⟨hbefore, -⟩ := eq_of_append_cons hlayout hopen hfront
  have hlast := l.last_front '=' (hbefore ▸ rfl)
  revert hlast
  decide

end Uri

end SipAgent
