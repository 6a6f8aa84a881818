import SipAgent.Proofs.Grammar.Address
import SipAgent.Proofs.Net.Canonical
import SipAgent.Uri.Parse

/-!
# What can be read as an address

Facts about reading any text as an address, whether or not it was written as one. A party is put
together from the pieces that the rules find in the text: the user is the user information, or it
has been left in the host. No host that a grammar finds holds a colon, while an IPv6 address in
brackets always brings some along.
-/

namespace SipAgent

open Text

namespace Uri

variable {g : Grammar} {cs rest place host : List Char} {info info' : Option (List Char)}
  {x : Pieces} {r : Reference} {u : Uri}

/-! ### Parties -/

/-- A party has the scheme of SIP, and a user and a host that are not empty. -/
lemma Reference.of_party (h : r.party = .ok u) :
    (r.scheme = some .sip ∨ r.scheme = some .sips) ∧ r.userAndHost.1 ≠ some [] ∧
      r.userAndHost.2 ≠ [] ∧
      u = ⟨r.userAndHost.1.map String.ofList, String.ofList r.userAndHost.2, r.port⟩ := by
  have hparty : ∀ scheme, r.scheme = some scheme → scheme = .sip ∨ scheme = .sips →
      r.userAndHost.1 ≠ some [] ∧ r.userAndHost.2 ≠ [] ∧
        u = ⟨r.userAndHost.1.map String.ofList, String.ofList r.userAndHost.2, r.port⟩ := by
    rintro scheme hscheme (rfl | rfl)
    all_goals
      simp only [party, hscheme] at h
      split_ifs at h with huser hhost
      cases h
      exact ⟨huser, hhost, rfl⟩
  cases hscheme : r.scheme with
  | none => simp [party, hscheme] at h
  | some scheme =>
    cases scheme with
    | sip => exact ⟨.inl rfl, hparty _ hscheme (.inl rfl)⟩
    | sips => exact ⟨.inr rfl, hparty _ hscheme (.inr rfl)⟩
    | other name => simp [party, hscheme] at h

lemma Reference.host_of_party (h : r.party = .ok u) :
    u.host = String.ofList r.userAndHost.2 := by
  obtain ⟨-, -, -, rfl⟩ := of_party h
  rfl

/-- A host is read as it stands, or cut off behind a user. -/
lemma Reference.userAndHost_suffix (r : Reference) : r.userAndHost.2 <:+ r.host := by
  unfold userAndHost
  split
  · next user host _ hcut =>
    exact (eq_append_of_cut hcut).1 ▸ (List.suffix_cons '@' host).trans (List.suffix_append _ _)
  · exact List.suffix_refl _

/-! ### Bare addresses -/

lemma parsePlain_eq_ok_iff :
    parsePlain g cs = .ok u ↔ ∃ r, g.address cs = .ok r ∧ r.party = .ok u := by
  unfold parsePlain
  cases g.address cs with
  | error e => simp
  | ok r => cases hparty : r.party <;> simp [hparty]

/-- No host that a grammar finds holds a colon. -/
lemma colon_not_mem_of_party (hg : g.EndsHostsAtColon) (hread : g.address cs = .ok r)
    (hparty : r.party = .ok u) : ':' ∉ u.host.toList := by
  rw [Reference.host_of_party hparty, String.toList_ofList]
  exact fun hmem => hg cs r hread (r.userAndHost_suffix.mem hmem)

/-- Without brackets, a text is read as it stands. -/
lemma parseBare_of_no_brackets (h : cutBrackets cs = none) : parseBare g cs = parsePlain g cs := by
  rw [parseBare, h]

/-- Brackets bring an IPv6 address along. -/
lemma colon_mem_of_parseBare (h : cutBrackets cs ≠ none) (hparse : parseBare g cs = .ok u) :
    ':' ∈ u.host.toList := by
  unfold parseBare at hparse
  split at hparse
  · next hnone => exact absurd hnone h
  · split at hparse
    · cases hparse
    · next ip _ =>
      split at hparse
      · cases hparse
      · cases hparse
        rw [IPv6.text, String.toList_ofList]
        exact ip.colon_mem_chars

lemma parse_eq_ok_iff {s : String} :
    parse g s = .ok u ↔ parseBare g (bareText s.toList) = .ok u := by
  simp only [parse]
  split
  · next hbare => simp [hbare]
  · next hbare => simp [hbare]

/-! ### What the rules find -/

/-- A scheme of SIP, in any letter case. -/
def IsSip (word : List Char) : Prop :=
  sameAnyCase word "sip:".toList = true ∨ sameAnyCase word "sips:".toList = true

lemma IsSip.length_le {word : List Char} (h : IsSip word) : 4 ≤ word.length := by
  have hlength : ∀ w : List Char, sameAnyCase word w = true → word.length = w.length := by
    intro w hsame
    rw [sameAnyCase_iff] at hsame
    simpa using congrArg List.length hsame
  rcases h with h | h
  · exact (hlength _ h).symm.le
  · exact Nat.le_of_succ_le (hlength _ h).symm.le

lemma SchemeAt.exists_word {scheme : Option Scheme} (h : SchemeAt cs scheme rest)
    (hsip : scheme = some .sip ∨ scheme = some .sips) : ∃ word, cs = word ++ rest ∧ IsSip word := by
  cases h with
  | sip htext hspelled => exact ⟨_, htext, .inl hspelled⟩
  | sips htext hspelled => exact ⟨_, htext, .inr hspelled⟩
  | other => rcases hsip with h | h <;> cases h
  | none => rcases hsip with h | h <;> cases h

lemma IsSip.exists_schemeAt {word : List Char} (h : IsSip word) (rest : List Char) :
    ∃ scheme, SchemeAt (word ++ rest) scheme rest := by
  rcases h with h | h
  · exact ⟨_, .sip rfl h⟩
  · exact ⟨_, .sips rfl h⟩

/-- How user information and a host share what the rules find: a user that holds a point is left in
the host. -/
inductive Shares : Option (List Char) → List Char → Option (List Char) → List Char → Prop
  | apart (info place : List Char) : Shares (some info) place (some info) place
  | alone {place : List Char} (mark : '@' ∉ place) : Shares none place none place
  | left {user : List Char} (host : List Char) (mark : '@' ∉ user) :
      Shares none (user ++ '@' :: host) (some user) host

lemma exists_shares (info : Option (List Char)) (place : List Char) :
    ∃ info' host, Shares info place info' host := by
  cases info with
  | some info => exact ⟨_, _, .apart info place⟩
  | none =>
    cases hcut : cut '@' place with
    | none => exact ⟨_, _, .alone (cut_eq_none_iff.mp hcut)⟩
    | some split =>
      obtain ⟨rfl, hmark⟩ := eq_append_of_cut hcut
      exact ⟨_, _, .left split.2 hmark⟩

namespace Shares

/-- Nothing gets lost between the shares. -/
lemma eq_append (h : Shares info place info' host) :
    infoText info ++ place = infoText info' ++ host := by
  cases h with
  | apart => rfl
  | alone => rfl
  | left host => simp [infoText]

/-- The user and the host of a reference are the shares of what has been found. -/
lemma userAndHost (h : Shares x.info x.place info' host) (hcolon : ':' ∉ x.place)
    (hmeans : x.Means r) :
    r.userAndHost = (info'.map fun i => (cutOptional ':' i).1, host) := by
  have huser := hmeans.user
  have hhost := hmeans.host
  generalize x.info = info at h huser
  generalize x.place = place at h hcolon hhost
  cases h with
  | apart info =>
    rw [Reference.userAndHost, huser, hhost]
    rfl
  | alone hmark =>
    simp only [Reference.userAndHost, huser, hhost, cut_eq_none_iff.mpr hmark, Option.map_none]
  | left host hmark =>
    rw [List.mem_append, not_or] at hcolon
    simp only [Reference.userAndHost, huser, hhost, cut_append host hmark, Option.map_none,
      Option.map_some, cutOptional_of_not_mem hcolon.1]

end Shares

/-- A party is found in a text: behind a scheme of SIP stand the user information, the host, and the
rest of what the pieces are made of. -/
inductive Found (cs : List Char) (u : Uri) (x : Pieces) (rest : List Char) : Prop
  | intro {word behind tail host : List Char} {info : Option (List Char)}
      (text : cs = word ++ behind) (sip : IsSip word)
      (inside : InfoAt behind x.info (x.location ++ tail)) (stands : x.Stands tail)
      (params : ParamsAt isTokenChar tail x.params rest) (known : ∀ p ∈ x.params, p.Known)
      (shares : Shares x.info x.place info host)
      (user : u.user.map String.toList = info.map fun i => (cutOptional ':' i).1)
      (user_ne : u.user ≠ some "") (named : u.host.toList = host) (host_ne : host ≠ [])
      (port : x.port.map readUInt16 = u.port.map .ok)

/-- A party that pieces refer to is found where the pieces are. -/
lemma found_of_pieces (hpieces : PiecesAt isTokenChar cs x rest) (hmeans : x.Means r)
    (hparty : r.party = .ok u) : Found cs u x rest := by
  obtain ⟨hscheme, hinfo, hstands, hparams⟩ := hpieces
  obtain ⟨info, host, hshares⟩ := exists_shares x.info x.place
  obtain ⟨hsip, huser, hhost, rfl⟩ := Reference.of_party hparty
  have hboth := hshares.userAndHost hstands.colon hmeans
  rw [hmeans.scheme] at hsip
  obtain ⟨word, htext, hword⟩ := hscheme.exists_word hsip
  rw [hboth] at huser hhost
  rw [hboth]
  refine .intro htext hword hinfo hstands hparams hmeans.params hshares ?_ ?_
    String.toList_ofList hhost hmeans.port
  · cases info <;> simp
  · intro hempty
    obtain ⟨user, hsome, hnil⟩ := Option.map_eq_some_iff.mp hempty
    exact huser (hsome.trans (congrArg some (by simpa using hnil)))

/-- Whatever a grammar reads as a party has been found in the text. -/
lemma exists_found (hg : g.ReadsAddresses) (h : parsePlain g cs = .ok u) :
    ∃ x rest, Found cs u x rest := by
  obtain ⟨r, hread, hparty⟩ := parsePlain_eq_ok_iff.mp h
  obtain ⟨x, rest, hpieces, hmeans⟩ := (hg cs r).mp hread
  exact ⟨x, rest, found_of_pieces hpieces hmeans hparty⟩

end Uri

end SipAgent
