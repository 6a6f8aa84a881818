import SipAgent.Grammar.Basic
import SipAgent.Proofs.Grammar.Param

/-!
# The rules for addresses

An address is a scheme, user information in front of an at sign, a host with a port behind a colon,
and parameters. The rules go from left to right and are lenient: a text falls into pieces wherever
the delimiters are, and what follows the parameters is left. The pieces have a meaning if the port
is a number and the parameters are known. `Grammar.ReadsAddresses` says that a grammar reads exactly
the texts that follow these rules.
-/

namespace SipAgent

open Text

namespace Uri

/-! ### Pieces -/

/-- User information as it is written in front of a host. -/
def infoText : Option (List Char) → List Char
  | some info => info ++ ['@']
  | none => []

/-- A port as it is written behind a host. -/
def portText : Option (List Char) → List Char
  | some port => ':' :: port
  | none => []

/-- The pieces of an address, as they stand in a text. -/
@[ext]
structure Pieces where
  scheme : Option Scheme
  /-- What stands in front of the at sign. -/
  info : Option (List Char)
  /-- What stands from there to the port. A user that holds a point is part of it. -/
  place : List Char
  port : Option (List Char)
  params : List Param
  deriving DecidableEq

variable {isToken : Char → Bool} {cs rest rest' : List Char} {scheme scheme' : Option Scheme}
  {info info' : Option (List Char)} {x x' : Pieces} {r : Reference}

/-- A text that starts with neither scheme of SIP. -/
def Foreign (cs : List Char) : Prop :=
  ∀ word rest, cs = word ++ rest →
    sameAnyCase word "sip:".toList = false ∧ sameAnyCase word "sips:".toList = false

/-- The scheme at the start of a text, and the rest. The two schemes of SIP count in any letter
case. Any other scheme ends at the first `://`, wherever that is. -/
inductive SchemeAt (cs : List Char) : Option Scheme → List Char → Prop
  | sip {word rest : List Char} (text : cs = word ++ rest)
      (spelled : sameAnyCase word "sip:".toList = true) : SchemeAt cs (some .sip) rest
  | sips {word rest : List Char} (text : cs = word ++ rest)
      (spelled : sameAnyCase word "sips:".toList = true) : SchemeAt cs (some .sips) rest
  | other {name rest : List Char} (foreign : Foreign cs)
      (ends : cutWord "://".toList cs = some (name, rest)) : SchemeAt cs (some (.other name)) rest
  | none (foreign : Foreign cs) (ends : cutWord "://".toList cs = none) : SchemeAt cs none cs

/-- The user information at the start of a text, and the rest. It ends at the first at sign, and
there is none if a point stands in front of every at sign. -/
inductive InfoAt (cs : List Char) : Option (List Char) → List Char → Prop
  | some {info rest : List Char} (text : cs = info ++ '@' :: rest) (point : '.' ∉ info)
      (mark : '@' ∉ info) : InfoAt cs (some info) rest
  | none (point : ∀ info rest, cs = info ++ '@' :: rest → '.' ∈ info) : InfoAt cs none cs

namespace Pieces

/-- What locates a party in a text: a place, and perhaps a port. -/
def location (x : Pieces) : List Char :=
  x.place ++ portText x.port

/-- The location stands in front of this tail. It is not empty and ends at the first semicolon or
space, and the place ends at the first colon. -/
structure Stands (x : Pieces) (tail : List Char) : Prop where
  ne : x.location ≠ []
  colon : ':' ∉ x.place
  stops : ∀ c ∈ x.location, (c == ';' || c == ' ') = false
  next : StartsIn (fun c => c == ';' || c == ' ') tail

/-- What the pieces refer to. The user is the user information without a password. -/
structure Means (x : Pieces) (r : Reference) : Prop where
  scheme : r.scheme = x.scheme
  user : r.user = x.info.map fun info => (cutOptional ':' info).1
  host : r.host = x.place
  port : x.port.map readUInt16 = r.port.map .ok
  params : ∀ p ∈ x.params, p.Known

end Pieces

/-- A text falls into pieces, and this is left of it. -/
inductive PiecesAt (isToken : Char → Bool) (cs : List Char) (x : Pieces) (rest : List Char) : Prop
  | intro {behind tail : List Char} (scheme : SchemeAt cs x.scheme behind)
      (info : InfoAt behind x.info (x.location ++ tail)) (stands : x.Stands tail)
      (params : ParamsAt isToken tail x.params rest)

/-- A text starts with an address, by the rules, and this is what it refers to. -/
def Follows (isToken : Char → Bool) (cs : List Char) (r : Reference) : Prop :=
  ∃ x rest, PiecesAt isToken cs x rest ∧ x.Means r

/-! ### User information -/

lemma InfoAt.of_not_mem (hat : '@' ∉ cs) : InfoAt cs Option.none cs := by
  apply InfoAt.none
  rintro info rest rfl
  exact absurd (List.mem_append_right info List.mem_cons_self) hat

/-- A point in front of the first at sign is in front of all of them. -/
lemma InfoAt.of_point {user : List Char} (hpoint : '.' ∈ user) (hat : '@' ∉ user)
    (rest : List Char) : InfoAt (user ++ '@' :: rest) Option.none (user ++ '@' :: rest) := by
  apply InfoAt.none
  intro info rest' htext
  by_cases hinfo : '@' ∈ info
  · obtain ⟨first, later, rfl, hfirst⟩ := List.eq_append_cons_of_mem hinfo
    rw [List.append_assoc, List.cons_append] at htext
    obtain ⟨rfl, -⟩ := eq_of_append_cons htext hat hfirst
    exact List.mem_append_left _ hpoint
  · obtain ⟨rfl, -⟩ := eq_of_append_cons htext hat hinfo
    exact hpoint

/-- Nothing gets lost behind the user information. -/
lemma InfoAt.eq_append (h : InfoAt cs info rest) : cs = infoText info ++ rest := by
  cases h with
  | some htext => simpa [infoText] using htext
  | none => rfl

/-! ### One way only -/

lemma eq_of_sameAnyCase {word word' w : List Char} (h : sameAnyCase word w = true)
    (h' : sameAnyCase word' w = true) (htext : word ++ rest = word' ++ rest') : rest = rest' := by
  have hlength : word.length = word'.length := by
    rw [sameAnyCase_iff] at h h'
    simpa using congrArg List.length (h.trans h'.symm)
  exact (List.append_inj htext hlength).2

/-- The fourth letter tells the two schemes apart. -/
lemma sip_ne_sips {word word' : List Char} (h : sameAnyCase word "sip:".toList = true)
    (h' : sameAnyCase word' "sips:".toList = true) : word ++ rest ≠ word' ++ rest' := by
  intro htext
  rw [sameAnyCase_iff] at h h'
  have hfour := congrArg (List.take 4) (congrArg (List.map Char.toLower) htext)
  rw [List.map_append, List.map_append, h, h'] at hfour
  cases hfour

lemma Foreign.not_sip (h : Foreign cs) {word : List Char} (htext : cs = word ++ rest) :
    sameAnyCase word "sip:".toList ≠ true ∧ sameAnyCase word "sips:".toList ≠ true := by
  obtain ⟨hsip, hsips⟩ := h word rest htext
  exact ⟨Bool.eq_false_iff.mp hsip, Bool.eq_false_iff.mp hsips⟩

lemma SchemeAt.unique (h : SchemeAt cs scheme rest) (h' : SchemeAt cs scheme' rest') :
    scheme = scheme' ∧ rest = rest' := by
  cases h with
  | sip htext hspelled =>
    cases h' with
    | sip htext' hspelled' =>
      exact ⟨rfl, eq_of_sameAnyCase hspelled hspelled' (htext.symm.trans htext')⟩
    | sips htext' hspelled' =>
      exact absurd (htext.symm.trans htext') (sip_ne_sips hspelled hspelled')
    | other hforeign _ => exact absurd hspelled (hforeign.not_sip htext).1
    | none hforeign _ => exact absurd hspelled (hforeign.not_sip htext).1
  | sips htext hspelled =>
    cases h' with
    | sip htext' hspelled' =>
      exact absurd (htext'.symm.trans htext) (sip_ne_sips hspelled' hspelled)
    | sips htext' hspelled' =>
      exact ⟨rfl, eq_of_sameAnyCase hspelled hspelled' (htext.symm.trans htext')⟩
    | other hforeign _ => exact absurd hspelled (hforeign.not_sip htext).2
    | none hforeign _ => exact absurd hspelled (hforeign.not_sip htext).2
  | other hforeign hends =>
    cases h' with
    | sip htext hspelled => exact absurd hspelled (hforeign.not_sip htext).1
    | sips htext hspelled => exact absurd hspelled (hforeign.not_sip htext).2
    | other _ hends' =>
      cases hends.symm.trans hends'
      exact ⟨rfl, rfl⟩
    | none _ hends' => cases hends.symm.trans hends'
  | none hforeign hends =>
    cases h' with
    | sip htext hspelled => exact absurd hspelled (hforeign.not_sip htext).1
    | sips htext hspelled => exact absurd hspelled (hforeign.not_sip htext).2
    | other _ hends' => cases hends.symm.trans hends'
    | none _ _ => exact ⟨rfl, rfl⟩

lemma InfoAt.unique (h : InfoAt cs info rest) (h' : InfoAt cs info' rest') :
    info = info' ∧ rest = rest' := by
  cases h with
  | some htext hpoint hmark =>
    cases h' with
    | some htext' _ hmark' =>
      obtain ⟨rfl, rfl⟩ := eq_of_append_cons (htext.symm.trans htext') hmark hmark'
      exact ⟨rfl, rfl⟩
    | none hnone => exact absurd (hnone _ _ htext) hpoint
  | none hnone =>
    cases h' with
    | some htext hpoint _ => exact absurd (hnone _ _ htext) hpoint
    | none _ => exact ⟨rfl, rfl⟩

lemma cutOptional_location (hcolon : ':' ∉ x.place) :
    cutOptional ':' x.location = (x.place, x.port) := by
  unfold Pieces.location portText
  split
  · next port hport => rw [cutOptional_append port hcolon, hport]
  · next hport => rw [List.append_nil, cutOptional_of_not_mem hcolon, hport]

/-- A text falls into pieces in one way only. -/
lemma PiecesAt.unique (hsep : Param.Separates isToken) (h : PiecesAt isToken cs x rest)
    (h' : PiecesAt isToken cs x' rest') : x = x' ∧ rest = rest' := by
  obtain ⟨hscheme, hinfo, hstands, hparams⟩ := h
  obtain ⟨hscheme', hinfo', hstands', hparams'⟩ := h'
  obtain ⟨hsame, rfl⟩ := hscheme.unique hscheme'
  obtain ⟨hinfos, htext⟩ := hinfo.unique hinfo'
  have hbreak := breakAt_append_of hstands.stops hstands.next
  rw [htext, breakAt_append_of hstands'.stops hstands'.next] at hbreak
  obtain ⟨hlocation, rfl⟩ := Prod.mk.inj hbreak
  have hcut := cutOptional_location hstands.colon
  rw [← hlocation, cutOptional_location hstands'.colon] at hcut
  obtain ⟨hplace, hport⟩ := Prod.mk.inj hcut
  obtain ⟨hparams, rfl⟩ := hparams.unique hsep hparams'
  exact ⟨Pieces.ext hsame hinfos hplace.symm hport.symm hparams, rfl⟩

lemma SchemeAt.suffix (h : SchemeAt cs scheme rest) : rest <:+ cs := by
  cases h with
  | sip htext => exact htext ▸ List.suffix_append _ rest
  | sips htext => exact htext ▸ List.suffix_append _ rest
  | other _ hends => exact suffix_of_cutWord hends
  | none => exact List.suffix_refl cs

/-- Only the characters of the parameters are asked about. -/
lemma Follows.congr {isToken' : Char → Bool} (hsame : ∀ c ∈ cs, isToken c = isToken' c)
    (h : Follows isToken cs r) : Follows isToken' cs r := by
  obtain ⟨x, rest, ⟨hscheme, hinfo, hstands, hparams⟩, hmeans⟩ := h
  refine ⟨x, rest, .intro hscheme hinfo hstands (hparams.congr fun c hc => hsame c ?_), hmeans⟩
  rw [hinfo.eq_append] at hscheme
  exact hscheme.suffix.mem (List.mem_append_right _ (List.mem_append_right _ hc))

/-- No host that the rules find holds a colon. -/
lemma Follows.colon_not_mem (h : Follows isToken cs r) : ':' ∉ r.host := by
  obtain ⟨x, rest, ⟨-, -, hstands, -⟩, hmeans⟩ := h
  rw [hmeans.host]
  exact hstands.colon

/-! ### Names -/

/-- A character of the name of a host: a letter, a digit, a point or a hyphen. -/
def isPlainChar (c : Char) : Bool :=
  c.isAlphanum || c == '.' || c == '-'

end Uri

/-! ### Grammars -/

namespace Grammar

variable {g : Grammar}

/-- The grammar ends a host at the first colon. -/
def EndsHostsAtColon (g : Grammar) : Prop :=
  ∀ cs r, g.address cs = .ok r → ':' ∉ r.host

/-- The grammar reads as an address what the rules make one. -/
def ReadsAddresses (g : Grammar) : Prop :=
  ∀ cs r, g.address cs = .ok r ↔ Uri.Follows isTokenChar cs r

lemma ReadsAddresses.endsHostsAtColon (h : g.ReadsAddresses) : g.EndsHostsAtColon :=
  fun cs r hread => ((h cs r).mp hread).colon_not_mem

end Grammar

end SipAgent
