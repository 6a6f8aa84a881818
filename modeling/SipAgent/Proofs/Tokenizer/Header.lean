import SipAgent.Proofs.Grammar.Header
import SipAgent.Proofs.Text.Numeral
import SipAgent.Proofs.Text.Spelling
import SipAgent.Proofs.Tokenizer.Address

/-!
# The tokenizer reads headers

The readers of the tokenizer find the values that are written by the rules for headers. A hop has an
address of its own, a party has one in angle brackets or by itself, and the realm of a challenge is
found among its parameters, in whatever order they come.
-/

namespace SipAgent

open Text Uri

/-! ### Hops -/

namespace WrittenVia

variable (v : WrittenVia)

/-- The place that a response goes to, and the parameters behind it. -/
def place : List Char :=
  v.location ++ v.params.flatMap Param.text

lemma params_tokens : ∀ p ∈ v.params, p.Tokens isTextTokenChar :=
  fun p hp => (v.params_plain p hp).tokens

lemma params_known : ∀ p ∈ v.params, p.Known :=
  fun p hp => (v.params_plain p hp).known

lemma paramsAt_params : ParamsAt isTextTokenChar (v.params.flatMap Param.text) v.params [] :=
  Param.paramsAt_text Param.separates_isTextTokenChar v.params_tokens

lemma colon_not_mem_host : ':' ∉ v.host :=
  not_mem_of_class v.host_plain rfl

lemma not_mem_location {c : Char} (hplain : isPlainChar c = false) (hcolon : c ≠ ':')
    (hdigit : c.isDigit = false) : c ∉ v.location := by
  have hhost := not_mem_of_class v.host_plain hplain
  cases hport : v.port with
  | none => simpa [location, hport, portText] using hhost
  | some port =>
    simp [location, hport, portText, hhost, hcolon, not_mem_decimal port.toNat hdigit]

lemma not_mem_place {c : Char} (hplain : isPlainChar c = false) (hcolon : c ≠ ':')
    (hdigit : c.isDigit = false) (htoken : isTextTokenChar c = false) (hsemicolon : c ≠ ';')
    (hequals : c ≠ '=') : c ∉ v.place := by
  rw [place, List.mem_append, not_or]
  exact ⟨v.not_mem_location hplain hcolon hdigit,
    Param.not_mem_text htoken hsemicolon hequals v.params_tokens⟩

lemma at_not_mem_place : '@' ∉ v.place :=
  v.not_mem_place rfl (by decide) rfl (by decide +kernel) (by decide) (by decide)

lemma startsIn_place : StartsIn (fun c => !isLineBlank c) v.place := by
  obtain ⟨c, host, hhost⟩ := List.exists_cons_of_ne_nil v.host_ne
  have hnot : isLineBlank c = false :=
    either_eq_false (not_mem_of_class v.host_plain rfl) (not_mem_of_class v.host_plain rfl) c
      (hhost ▸ List.mem_cons_self)
  simp [place, location, hhost, hnot]

/-- The only colon stands in front of the port. -/
lemma cut_place {before after : List Char} (hcut : cut ':' v.place = some (before, after)) :
    ∃ port : UInt16, after = decimal port.toNat ++ v.params.flatMap Param.text := by
  rw [place] at hcut
  cases hport : v.port with
  | none =>
    have hparams : ':' ∉ v.params.flatMap Param.text :=
      Param.not_mem_text (by decide +kernel) (by decide) (by decide) v.params_tokens
    have hcolon : ':' ∉ v.location ++ v.params.flatMap Param.text := by
      simp [location, hport, portText, v.colon_not_mem_host, hparams]
    cases (cut_eq_none_iff.mpr hcolon).symm.trans hcut
  | some port =>
    have hlocation : v.location = v.host ++ ':' :: decimal port.toNat := by
      rw [location, hport]
      rfl
    rw [hlocation, List.append_assoc, List.cons_append, cut_append _ v.colon_not_mem_host] at hcut
    cases hcut
    exact ⟨port, rfl⟩

/-- A host that is called like a scheme is taken for one, and its port for the host. -/
lemma exists_pieces_of_cut {scheme : Option Scheme} {before behind : List Char}
    (hscheme : SchemeAt v.place scheme behind) (hcut : cut ':' v.place = some (before, behind)) :
    ∃ x r, PiecesAt isTextTokenChar v.place x [] ∧ x.Means r ∧ x.params = v.params := by
  obtain ⟨port, rfl⟩ := v.cut_place hcut
  have hdigits : ∀ {c : Char}, c.isDigit = false → c ∉ decimal port.toNat :=
    not_mem_decimal port.toNat
  have hmark : '@' ∉ decimal port.toNat ++ v.params.flatMap Param.text := fun h =>
    v.at_not_mem_place ((eq_append_of_cut hcut).1 ▸ List.mem_append_right _ (.tail _ h))
  let x : Pieces := ⟨scheme, none, decimal port.toNat, none, v.params⟩
  have hlocation : x.location = decimal port.toNat := List.append_nil _
  have hinside : InfoAt (decimal port.toNat ++ v.params.flatMap Param.text) x.info
      (x.location ++ v.params.flatMap Param.text) := by
    rw [hlocation]
    exact .of_not_mem hmark
  have hstands : x.Stands (v.params.flatMap Param.text) :=
    ⟨hlocation ▸ decimal_ne_nil _, hdigits rfl,
      hlocation ▸ either_eq_false (hdigits rfl) (hdigits rfl), Param.startsIn_text rfl v.params⟩
  exact ⟨x, ⟨scheme, none, decimal port.toNat, none⟩, .intro hscheme hinside hstands
    v.paramsAt_params, ⟨rfl, rfl, rfl, rfl, v.params_known⟩, rfl⟩

/-- The place stands by itself, unless its host is called like a scheme. -/
lemma exists_pieces : ∃ x r,
    PiecesAt isTextTokenChar v.place x [] ∧ x.Means r ∧ x.params = v.params := by
  have hcut : ∀ {word behind w : List Char}, v.place = word ++ behind → ':' ∉ w →
      sameAnyCase word (w ++ [':']) = true → ∃ before, cut ':' v.place = some (before, behind) := by
    intro word behind w htext hw hspelled
    rw [htext]
    exact cut_of_dropWordAnyCase colon_toLower_iff hw (dropWordAnyCase_of_sameAnyCase hspelled _)
  have hscheme := Tokenizer.schemeAt_readScheme v.place
  generalize Tokenizer.readScheme v.place = found at hscheme
  obtain ⟨scheme, behind⟩ := found
  cases hscheme with
  | sip htext hspelled =>
    obtain ⟨before, hbefore⟩ := hcut (w := "sip".toList) htext (by decide) hspelled
    exact v.exists_pieces_of_cut (.sip htext hspelled) hbefore
  | sips htext hspelled =>
    obtain ⟨before, hbefore⟩ := hcut (w := "sips".toList) htext (by decide) hspelled
    exact v.exists_pieces_of_cut (.sips htext hspelled) hbefore
  | other _ hends =>
    have hslash : '/' ∉ v.place :=
      v.not_mem_place rfl (by decide) rfl (by decide +kernel) (by decide) (by decide)
    have hnone := cutWord_eq_none (w := "://".toList) (by decide) hslash
    cases hnone.symm.trans hends
  | none hforeign hends =>
    let x : Pieces := ⟨none, none, v.host, v.port.map fun port => decimal port.toNat, v.params⟩
    have hstops : ∀ c ∈ x.location, (c == ';' || c == ' ') = false :=
      either_eq_false (v.not_mem_location rfl (by decide) rfl)
        (v.not_mem_location rfl (by decide) rfl)
    have hstands : x.Stands (v.params.flatMap Param.text) :=
      ⟨by simp [x, Pieces.location, v.host_ne], v.colon_not_mem_host, hstops,
        Param.startsIn_text rfl v.params⟩
    have hport : x.port.map readUInt16 = v.port.map .ok := by
      cases hport : v.port with
      | none => simp [x, hport]
      | some port => simp [x, hport, readUInt16_decimal]
    exact ⟨x, ⟨none, none, v.host, v.port⟩, .intro (.none hforeign hends)
      (.of_not_mem v.at_not_mem_place) hstands v.paramsAt_params,
      ⟨rfl, rfl, rfl, hport, v.params_known⟩, rfl⟩

end WrittenVia

namespace Tokenizer

lemma read_versionText {rest : List Char} (hrest : StartsIn (fun c => !c.isDigit) rest) :
    Version.read (versionText ++ rest) = some (⟨['2'], ['0']⟩, rest) := by
  have hdigit : AllIn Char.isDigit ['0'] := by decide
  have hminor : ('0' :: rest).takeWhile Char.isDigit = ['0'] := takeWhile_append hdigit hrest
  have hafter : ('0' :: rest).dropWhile Char.isDigit = rest := dropWhile_append hdigit hrest
  have htext : versionText ++ rest = "SIP/".toList ++ '2' :: '.' :: '0' :: rest := rfl
  rw [htext, Version.read, dropWord_append]
  simp [hminor, hafter]

/-- A transport ends at the space in front of the next word. -/
lemma readTransport_append {name rest : List Char} (hne : name ≠ []) (hspace : ' ' ∉ name)
    (hrest : StartsIn (fun c => !isLineBlank c) rest) :
    ViaParts.readTransport (name ++ ' ' :: rest) = some (name, rest) := by
  have hname := beq_eq_false_of_not_mem hspace
  have hnext : StartsIn (· == ' ') (' ' :: rest) := by
    simp
  have hblank : (' ' :: rest).dropWhile isLineBlank = rest :=
    dropWhile_append (w := [' ']) (by decide) hrest
  rw [ViaParts.readTransport, breakAt_append_of hname hnext]
  simp [hblank]

/-- Pieces without their parameters have the same meaning. -/
lemma check_bare {x : Pieces} {r : Reference} (h : x.Means r) :
    Parts.check { partsOf x with params := [] } = .ok r := by
  have hbare : Pieces.Means { x with params := [] } r :=
    ⟨h.scheme, h.user, h.host, h.port, List.forall_mem_nil _⟩
  exact check_partsOf_iff.mpr hbare

/-- The parameters of a hop are read back. -/
lemma readParams_text (v : WrittenVia) : ViaParts.readParams v.text = .ok v.params := by
  obtain ⟨x, r, ⟨hscheme, hinfo, hstands, hparams⟩, hmeans, hsame⟩ := v.exists_pieces
  have hsender := readBare_of_pieces hscheme hinfo hstands
  have hafter := (readParams_eq_iff Param.separates_isTextTokenChar).mpr hparams
  have htransport : v.transport.toList ≠ [] ∧ ' ' ∉ v.transport.toList := by
    have hall : ∀ t ∈ Param.transports, t.toList ≠ [] ∧ ' ' ∉ t.toList := by decide +kernel
    exact hall v.transport v.transport_mem
  have hbreak := readTransport_append htransport.1 htransport.2 v.startsIn_place
  have hversion : Version.read v.text = some (⟨['2'], ['0']⟩,
      '/' :: (v.transport.toList ++ ' ' :: v.place)) :=
    read_versionText (by simp)
  have hread : ViaParts.read? v.text =
      some ⟨⟨['2'], ['0']⟩, v.transport.toList, { partsOf x with params := [] }, v.params⟩ := by
    simp only [ViaParts.read?, hversion, hbreak, hsender, hafter, hsame]
  have hcheck : ViaParts.check
      ⟨⟨['2'], ['0']⟩, v.transport.toList, { partsOf x with params := [] }, v.params⟩ = .ok () := by
    have hknown : checkTransport v.transport.toList = .ok () := by
      rw [checkTransport, if_pos]
      exact List.any_eq_true.mpr ⟨_, v.transport_mem, by simp [sameAnyCase]⟩
    simp only [ViaParts.check, hknown, check_bare hmeans]
    exact checkParams_eq_ok_iff.mpr v.params_known
  simp only [ViaParts.readParams, hread, hcheck]

/-! ### Parties -/

/-- A party is read exactly if the address between its angle brackets follows the rules. -/
lemma read_bracketed_iff {display address : List Char} {params : List Param} {p : PartyParts}
    (hopens : '<' ∉ display) (hcloses : '>' ∉ address)
    (htokens : ∀ p ∈ params, p.Tokens isTextTokenChar) (hknown : ∀ p ∈ params, p.Known) :
    PartyParts.read (display ++ '<' :: (address ++ '>' :: params.flatMap Param.text)) = .ok p ↔
      ∃ r, Follows isTextTokenChar address r ∧ p = ⟨display, r, params⟩ := by
  have hafter := (readParams_eq_iff Param.separates_isTextTokenChar).mpr
    (Param.paramsAt_text Param.separates_isTextTokenChar htokens)
  have hcheck := checkParams_eq_ok_iff.mpr hknown
  simp only [PartyParts.read, cut_append _ hopens, PartyParts.readBracketed, cut_append _ hcloses,
    hafter]
  constructor
  · intro h
    split at h
    · cases h
    · next parts rest hread =>
      cases hmeaning : parts.check with
      | error e =>
        simp only [hmeaning, liftPart] at h
        cases h
      | ok r =>
        simp only [hmeaning, hcheck, liftPart] at h
        cases h
        exact ⟨r, (exists_read_iff Param.separates_isTextTokenChar).mp
          ⟨parts, rest, hread, hmeaning⟩, rfl⟩
  · rintro ⟨r, hfollows, rfl⟩
    obtain ⟨parts, rest, hread, hmeaning⟩ :=
      (exists_read_iff Param.separates_isTextTokenChar).mpr hfollows
    simp only [hread, hmeaning, hcheck, liftPart]
    rfl

/-- A party is read as the rules find it. -/
lemma read_of_partyAt {cs display : List Char} {r : Reference} {params : List Param}
    (h : PartyAt cs display r params) : PartyParts.read cs = .ok ⟨display, r, params⟩ := by
  cases h with
  | bracketed hopens hcloses htokens hknown hfollows =>
    exact (read_bracketed_iff hopens hcloses htokens hknown).mpr ⟨r, hfollows, rfl⟩
  | @bare _ x _ hopens hpieces hmeans =>
    obtain ⟨hscheme, hinfo, hstands, hparams⟩ := hpieces
    have hread := readBare_of_pieces hscheme hinfo hstands
    have hafter := (readParams_eq_iff Param.separates_isTextTokenChar).mpr hparams
    simp only [PartyParts.read, cut_eq_none_iff.mpr hopens, PartyParts.readBare, hread, hafter,
      check_bare hmeans, checkParams_eq_ok_iff.mpr hmeans.params, liftPart]
    rfl

lemma says_party (p : PartyParts) : p.party.Says p.display p.reference p.params where
  display := by
    unfold PartyParts.party
    split
    · next hnil => rw [hnil]; rfl
    · next hdisplay => exact String.toList_ofList
  reference := rfl
  tag := rfl
  expires := rfl

/-! ### Sequence numbers -/

/-- The method behind a sequence number is read back. -/
lemma readCSeqMethod_cseqText (number : UInt32) (method : WireMethod) :
    readCSeqMethod (cseqText number method) = .ok method := by
  have hdigits : ∀ c ∈ decimal number.toNat, (c == ' ') = false :=
    beq_eq_false_of_not_mem (not_mem_decimal _ rfl)
  have hspace : StartsIn (· == ' ') (' ' :: method.name.toList) := by
    simp
  have hmethod : WireMethod.read (trim isBlank
      ((' ' :: method.name.toList).dropWhile isLineBlank)) = some method := by
    have hall : ∀ m ∈ WireMethod.all, WireMethod.read (trim isBlank
        ((' ' :: m.name.toList).dropWhile isLineBlank)) = some m := by decide +kernel
    apply hall
    cases method with
    | supported m => cases m <;> decide
    | _ => decide
  simp only [readCSeqMethod, cseqText, breakAt_append_of hdigits hspace, readUInt32_decimal,
    hmethod]

/-! ### Challenges -/

namespace ChallengeParam

variable {cs rest tail : List Char} {p : SipAgent.ChallengeParam}

lemma cutQuoted_of_startsIn (h : StartsIn (· != '"') cs) : cutQuoted cs = none := by
  unfold cutQuoted
  split
  · simp at h
  · rfl

/-- A value ends at its second quote, else at the comma behind it. -/
lemma readValue_text (v : SipAgent.ChallengeParam.SpelledValue) (htail : StartsIn (· == ',') tail) :
    readValue (v.text ++ tail) = (v.content, tail) := by
  cases v with
  | quoted cs hclosed =>
    have hcut : cutQuoted ('"' :: (cs ++ ['"']) ++ tail) = some (cs, tail) := by
      simp [cutQuoted, cut_append tail hclosed]
    simp only [readValue, SipAgent.ChallengeParam.SpelledValue.text, hcut,
      SipAgent.ChallengeParam.SpelledValue.content]
  | plain cs hunquoted hcomma hspace =>
    have hquote : StartsIn (· != '"') (cs ++ tail) := by
      cases cs with
      | cons c cs => simpa using hunquoted
      | nil =>
        intro c hc
        obtain rfl : c = ',' := by simpa using htail c hc
        rfl
    have hbreak := breakAt_append_of (beq_eq_false_of_not_mem hcomma) htail
    simp only [readValue, SipAgent.ChallengeParam.SpelledValue.text, cutQuoted_of_startsIn hquote,
      hbreak, SipAgent.ChallengeParam.SpelledValue.content]
    cases tail with
    | cons c tail => rfl
    | nil =>
      -- Without a comma behind it, the value might end at a space.
      exact breakAt_append_of (beq_eq_false_of_not_mem hspace) startsIn_nil

/-- A parameter is read together with the comma behind it. -/
lemma read?_text (p : SipAgent.ChallengeParam.Spelled) (htail : StartsIn (· == ',') tail) :
    read? (p.text ++ tail) = some (p.param, tail.tail) := by
  have hstart : StartsIn (fun c => !isLineBlank c) (p.name ++ '=' :: (p.value.text ++ tail)) := by
    have hname := p.name_start
    cases hp : p.name with
    | nil => exact startsIn_cons.mpr rfl
    | cons c name =>
      rw [hp] at hname
      simpa using hname
  have htext : p.text ++ tail = p.gap ++ (p.name ++ '=' :: (p.value.text ++ tail)) := by
    simp [SipAgent.ChallengeParam.Spelled.text]
  rw [htext, read?, dropWhile_append p.gap_blank hstart, cut_append _ p.name_whole]
  simp only [readValue_text p.value htail]
  cases tail with
  | nil => rfl
  | cons c tail =>
    obtain rfl : c = ',' := by simpa using htail
    rfl

lemma readAll_of_some (h : read? cs = some (p, rest)) :
    readAll cs = (p :: (readAll rest).1, (readAll rest).2) := by
  rw [readAll]
  split
  · next hnone => cases h.symm.trans hnone
  · next hsome =>
    cases h.symm.trans hsome
    rfl

lemma readAll_nil : readAll [] = ([], []) := by
  rw [readAll]
  rfl

/-- Parameters are read as they were written. -/
lemma readAll_textAll (ps : List SipAgent.ChallengeParam.Spelled) :
    readAll (SipAgent.ChallengeParam.Spelled.textAll ps) = (ps.map (·.param), []) := by
  induction ps with
  | nil => exact readAll_nil
  | cons p ps ih =>
    have htail : StartsIn (· == ',') (ps.flatMap fun q => ',' :: q.text) ∧
        (ps.flatMap fun q => ',' :: q.text).tail = SipAgent.ChallengeParam.Spelled.textAll ps := by
      cases ps with
      | nil => exact ⟨startsIn_nil, rfl⟩
      | cons q ps => exact ⟨startsIn_cons.mpr rfl, rfl⟩
    have hread := read?_text p htail.1
    rw [htail.2] at hread
    rw [SipAgent.ChallengeParam.Spelled.textAll, readAll_of_some hread, ih]
    rfl

/-- A parameter with one more blank in front of it. -/
def indented (p : SipAgent.ChallengeParam.Spelled) : SipAgent.ChallengeParam.Spelled :=
  { p with
    gap := ' ' :: p.gap
    gap_blank := List.forall_mem_cons.mpr ⟨rfl, p.gap_blank⟩ }

end ChallengeParam

/-- The realm of a challenge is read back. -/
lemma readChallengeRealm_text (c : WrittenChallenge) :
    readChallengeRealm c.text = some (String.ofList c.realm) := by
  obtain ⟨p, ps, hparams⟩ : ∃ p ps, c.params = p :: ps := by
    cases hparams : c.params with
    | cons p ps => exact ⟨p, ps, rfl⟩
    | nil =>
      have hrealm := c.realm_eq
      rw [hparams] at hrealm
      cases hrealm
  -- The blank behind the scheme counts as one in front of the first parameter.
  have hread : ChallengeParam.readAll (' ' :: SipAgent.ChallengeParam.Spelled.textAll c.params) =
      (p.param :: ps.map (·.param), []) := by
    rw [hparams]
    exact ChallengeParam.readAll_textAll (ChallengeParam.indented p :: ps)
  have hscheme : breakAt (· == ' ') c.text =
      ("Digest".toList, ' ' :: SipAgent.ChallengeParam.Spelled.textAll c.params) :=
    breakAt_append_of (beq_eq_false_of_not_mem (by decide)) (startsIn_cons.mpr rfl)
  have hstart : c.text.dropWhile isLineBlank = c.text := rfl
  have hrealm := c.realm_eq
  have hnonce := c.nonce_eq
  have halgorithm := c.algorithm_known
  have hquality := c.quality_known
  rw [hparams, List.map_cons] at hrealm hnonce halgorithm hquality
  simp only [readChallengeRealm, hstart, hscheme, hread, hrealm, hnonce, halgorithm, hquality,
    Bool.and_self, if_true]

end Tokenizer

namespace Grammar

lemma party_tokenizer (cs : List Char) : tokenizer.party cs =
    ((Tokenizer.PartyParts.read cs).map Tokenizer.PartyParts.party).mapError
      Tokenizer.WireError.message :=
  rfl

lemma findsFirst_tokenizer : tokenizer.FindsFirst := by
  intro name headers
  have hheader : tokenizer.header name headers =
      (Tokenizer.findHeader name headers).mapError Tokenizer.WireError.message := rfl
  rw [hheader, Tokenizer.findHeader]
  cases Header.first? name headers <;> rfl

/-- The tokenizer hands an address of ASCII over, with parameters behind it that it understands. -/
theorem handsOver_tokenizer {display address : List Char} {params : List Param}
    (hopens : '<' ∉ display) (hcloses : '>' ∉ address) (hascii : Octets.IsAscii address)
    (htokens : ∀ p ∈ params, p.Tokens isTextTokenChar) (hknown : ∀ p ∈ params, p.Known) :
    tokenizer.HandsOver display address (params.flatMap Param.text) := by
  intro r
  have hread := fun p =>
    Tokenizer.read_bracketed_iff (p := p) hopens hcloses htokens hknown
  rw [readsAddresses_tokenizer, party_tokenizer]
  constructor
  · rintro ⟨q, hq, rfl⟩
    cases hparts : Tokenizer.PartyParts.read
        (display ++ '<' :: (address ++ '>' :: params.flatMap Param.text)) with
    | error e =>
      rw [hparts] at hq
      cases hq
    | ok p =>
      rw [hparts] at hq
      cases hq
      obtain ⟨r, hfollows, rfl⟩ := (hread p).mp hparts
      exact hfollows.congr fun c hc => Param.isTextTokenChar_of_ascii (hascii c hc)
  · intro hfollows
    have htext := hfollows.congr fun c hc => (Param.isTextTokenChar_of_ascii (hascii c hc)).symm
    rw [(hread _).mpr ⟨r, htext, rfl⟩]
    exact ⟨_, rfl, rfl⟩

/-- The tokenizer reads the headers that are written by the rules. -/
theorem readsHeaders_tokenizer : tokenizer.ReadsHeaders where
  first := findsFirst_tokenizer
  branch v := by
    have hbranch : tokenizer.branch v.text = ((Tokenizer.ViaParts.readParams v.text).map
        fun params => (Param.lookup "branch" params).map String.ofList).mapError
          Tokenizer.WireError.message := rfl
    rw [hbranch, Tokenizer.readParams_text]
    simp only [Except.map, Except.mapError, v.branch_eq, Option.map_some]
  party cs display r params h := by
    rw [party_tokenizer, Tokenizer.read_of_partyAt h]
    exact ⟨_, rfl, Tokenizer.says_party _⟩
  cseqMethod number method := by
    have hmethod : tokenizer.cseqMethod (cseqText number method) =
        (Tokenizer.readCSeqMethod (cseqText number method)).mapError
          Tokenizer.WireError.message := rfl
    rw [hmethod, Tokenizer.readCSeqMethod_cseqText]
    rfl
  seconds n := by
    have hseconds : tokenizer.seconds (decimal n.toNat) =
        (readUInt32 (decimal n.toNat)).toOption := rfl
    rw [hseconds, readUInt32_decimal]
    rfl
  realm c := Tokenizer.readChallengeRealm_text c

end Grammar

end SipAgent
