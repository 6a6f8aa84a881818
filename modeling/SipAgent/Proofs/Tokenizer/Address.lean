import SipAgent.Proofs.Grammar.Address
import SipAgent.Tokenizer.Message

/-!
# The tokenizer reads addresses

The readers of the tokenizer take a text apart as the rules for addresses do. A text falls into
pieces in one way only, so they find nothing else, and they fail on nothing else.
-/

namespace SipAgent

open Text Uri

namespace Tokenizer

variable {isToken : Char → Bool} {cs rest tail : List Char} {ps : List Param} {x : Pieces}
  {scheme : Option Scheme} {info : Option (List Char)} {r : Reference}

/-- A reader finds what the rules find, if they find one thing only. -/
lemma found_eq_iff {α β : Type} {Finds : α → β → Prop} {found : α × β} {a : α} {b : β}
    (hfound : Finds found.1 found.2)
    (hunique : ∀ {a a' b b'}, Finds a b → Finds a' b' → a = a' ∧ b = b') :
    found = (a, b) ↔ Finds a b := by
  constructor
  · rintro rfl
    exact hfound
  · intro h
    obtain ⟨ha, hb⟩ := hunique hfound h
    exact Prod.ext ha hb

/-! ### Parameters -/

lemma tokens_readParam (isToken : Char → Bool) (cs : List Char) :
    (readParam isToken cs).1.Tokens isToken := by
  have htokens : ∀ cs : List Char, AllIn isToken (cs.takeWhile isToken) := fun cs c hc =>
    List.mem_takeWhile_imp hc
  unfold readParam
  split
  · next rest _ =>
    refine ⟨htokens cs, ?_⟩
    rintro _ ⟨⟩
    exact htokens rest
  · exact ⟨htokens cs, nofun⟩

/-- What is read of one parameter is its text, and nothing gets lost. -/
lemma text_readParam (isToken : Char → Bool) (cs : List Char) :
    (readParam isToken cs).1.text ++ (readParam isToken cs).2 = ';' :: cs := by
  have hname := List.takeWhile_append_dropWhile (p := isToken) (l := cs)
  unfold readParam
  split
  · next rest hvalue =>
    have hrest := List.takeWhile_append_dropWhile (p := isToken) (l := rest)
    simp only [Param.text, Param.valueText, List.cons_append, List.append_assoc, hrest]
    rw [← hvalue, hname]
  · simp only [Param.text, Param.valueText, List.append_nil, List.cons_append, hname]

/-- A parameter is read to its end. -/
lemma ends_readParam (isToken : Char → Bool) (cs : List Char) :
    StartsIn (fun c => !isToken c) (readParam isToken cs).2 ∧
      ((readParam isToken cs).1.value = none → (readParam isToken cs).2.head? ≠ some '=') := by
  unfold readParam
  split
  · next rest _ => exact ⟨startsIn_dropWhile isToken rest, nofun⟩
  · next hnot =>
    refine ⟨startsIn_dropWhile isToken cs, fun _ hequals => ?_⟩
    obtain ⟨rest, hrest⟩ := List.head?_eq_some_iff.mp hequals
    exact hnot rest hrest

/-- Parameters are read as the rules find them. -/
lemma paramsAt_readParams (isToken : Char → Bool) (cs : List Char) :
    ParamsAt isToken cs (readParams isToken cs).1 (readParams isToken cs).2 := by
  fun_induction readParams isToken cs with
  | case1 cs more ih =>
    obtain ⟨hends, hbare⟩ := ends_readParam isToken cs
    rw [← text_readParam isToken cs]
    exact .next (tokens_readParam isToken cs) hends hbare ih
  | case2 rest hnot =>
    refine .none fun hsemicolon => ?_
    obtain ⟨more, rfl⟩ := List.head?_eq_some_iff.mp hsemicolon
    exact hnot more rfl

lemma readParams_eq_iff (hsep : Param.Separates isToken) :
    readParams isToken cs = (ps, rest) ↔ ParamsAt isToken cs ps rest :=
  found_eq_iff (paramsAt_readParams isToken cs) fun h h' => h.unique hsep h'

lemma checkParam_eq_ok_iff {p : Param} : checkParam p = .ok () ↔ p.Known := by
  -- No parameter has both names.
  have hapart : p.isNamed "transport" = true → p.isNamed "method" = false := by
    intro h
    by_contra hmethod
    simp only [Param.isNamed, sameAnyCase_iff, Bool.not_eq_false] at h hmethod
    exact absurd (h.symm.trans hmethod) (by decide)
  constructor
  · intro h
    unfold checkParam at h
    split at h
    · next hnone =>
      constructor
      · intro _ v hv
        simp [hnone] at hv
      · intro _ v hv
        simp [hnone] at hv
    · next value hvalue =>
      split_ifs at h with htransport hmethod
      · refine ⟨fun _ v hv => ?_, fun hmethod => ?_⟩
        · obtain rfl : value = v := by simpa [hvalue] using hv
          unfold checkTransport at h
          split_ifs at h with hany
          obtain ⟨t, ht, hsame⟩ := List.any_eq_true.mp hany
          exact ⟨t, ht, hsame⟩
        · cases (hapart htransport).symm.trans hmethod
      · refine ⟨fun h => absurd h htransport, fun _ v hv => ?_⟩
        obtain rfl : value = v := by simpa [hvalue] using hv
        split at h
        · next m hm => rw [hm]; rfl
        · cases h
      · exact ⟨fun h => absurd h htransport, fun h => absurd h hmethod⟩
  · rintro ⟨htransport, hmethod⟩
    unfold checkParam
    split
    · rfl
    · next value hvalue =>
      split_ifs with hnamed hnamed'
      · obtain ⟨t, ht, hsame⟩ := htransport hnamed value hvalue
        rw [checkTransport, if_pos (List.any_eq_true.mpr ⟨t, ht, hsame⟩)]
      · obtain ⟨m, hm⟩ := Option.isSome_iff_exists.mp (hmethod hnamed' value hvalue)
        rw [hm]
      · rfl

lemma checkParams_eq_ok_iff : checkParams ps = .ok () ↔ ∀ p ∈ ps, p.Known := by
  induction ps with
  | nil => simp [checkParams]
  | cons p ps ih =>
    rw [List.forall_mem_cons, ← checkParam_eq_ok_iff, ← ih, checkParams]
    cases checkParam p with
    | error e => simp
    | ok _ => simp

/-! ### Schemes and user information -/

lemma schemeAt_readScheme (cs : List Char) :
    SchemeAt cs (readScheme cs).1 (readScheme cs).2 := by
  have hforeign : ∀ {w : List Char}, dropWordAnyCase w cs = none →
      ∀ word rest, cs = word ++ rest → sameAnyCase word w = false := by
    rintro w hnone word rest rfl
    by_contra hsame
    rw [dropWordAnyCase_of_sameAnyCase (Bool.not_eq_false _ ▸ hsame)] at hnone
    cases hnone
  unfold readScheme
  split
  · next rest hsip =>
    obtain ⟨word, hword, htext⟩ := eq_append_of_dropWordAnyCase hsip
    exact .sip htext hword
  · next hsip =>
    split
    · next rest hsips =>
      obtain ⟨word, hword, htext⟩ := eq_append_of_dropWordAnyCase hsips
      exact .sips htext hword
    · next hsips =>
      have hnot : Foreign cs := fun word rest htext =>
        ⟨hforeign hsip word rest htext, hforeign hsips word rest htext⟩
      split
      · next hends => exact .other hnot hends
      · next hends => exact .none hnot hends

lemma readScheme_eq_iff : readScheme cs = (scheme, rest) ↔ SchemeAt cs scheme rest :=
  found_eq_iff (schemeAt_readScheme cs) SchemeAt.unique

lemma infoAt_readUserInfo (cs : List Char) :
    InfoAt cs (readUserInfo cs).1 (readUserInfo cs).2 := by
  have hstops : ∀ c ∈ (breakAt (fun c => c == '.' || c == '@') cs).1, c ≠ '.' ∧ c ≠ '@' :=
    fun c hc => by simpa using List.mem_takeWhile_imp hc
  have htext := breakAt_append (fun c => c == '.' || c == '@') cs
  have hnext := startsIn_breakAt (fun c => c == '.' || c == '@') cs
  unfold readUserInfo
  split
  · next before rest hbreak =>
    rw [hbreak] at hstops htext
    exact .some htext.symm (fun h => (hstops _ h).1 rfl) (fun h => (hstops _ h).2 rfl)
  · next hnot =>
    refine .none fun info rest heq => ?_
    by_contra hpoint
    -- The first delimiter would be the at sign behind a text without a point.
    by_cases hmark : '@' ∈ info
    · obtain ⟨first, later, rfl, hfirst⟩ := List.eq_append_cons_of_mem hmark
      rw [List.mem_append, not_or] at hpoint
      rw [List.append_assoc, List.cons_append] at heq
      exact hnot first _ (heq ▸ breakAt_append_of (either_eq_false hpoint.1 hfirst) (by simp))
    · exact hnot info rest (heq ▸ breakAt_append_of (either_eq_false hpoint hmark) (by simp))

lemma readUserInfo_eq_iff : readUserInfo cs = (info, rest) ↔ InfoAt cs info rest :=
  found_eq_iff (infoAt_readUserInfo cs) InfoAt.unique

/-! ### Addresses -/

/-- The parts of an address that its pieces stand for. -/
def partsOf (x : Pieces) : Parts where
  scheme := x.scheme
  user := x.info.map fun info => (cutOptional ':' info).1
  password := x.info.bind fun info => (cutOptional ':' info).2
  host := x.place
  port := x.port
  params := x.params

lemma readBare_of_pieces {behind : List Char} (hscheme : SchemeAt cs x.scheme behind)
    (hinfo : InfoAt behind x.info (x.location ++ tail)) (hstands : x.Stands tail) :
    Parts.readBare cs = .ok ({ partsOf x with params := [] }, tail) := by
  have hne : x.location.isEmpty = false := by simp [hstands.ne]
  rw [Parts.readBare, readScheme_eq_iff.mpr hscheme]
  dsimp only
  rw [readUserInfo_eq_iff.mpr hinfo]
  dsimp only
  rw [breakAt_append_of hstands.stops hstands.next]
  simp only [hne, cutOptional_location hstands.colon, Bool.false_eq_true, if_false]
  rfl

lemma read_of_pieces (hsep : Param.Separates isToken) (h : PiecesAt isToken cs x rest) :
    Parts.read isToken cs = .ok (partsOf x, rest) := by
  obtain ⟨hscheme, hinfo, hstands, hparams⟩ := h
  rw [Parts.read, readBare_of_pieces hscheme hinfo hstands]
  simp only [(readParams_eq_iff hsep).mpr hparams]
  rfl

/-- What is read are pieces that the rules find. -/
lemma pieces_of_read {parts : Parts} (h : Parts.read isToken cs = .ok (parts, rest)) :
    ∃ x, PiecesAt isToken cs x rest ∧ parts = partsOf x := by
  have hscheme := schemeAt_readScheme cs
  have hinfo := infoAt_readUserInfo (readScheme cs).2
  simp only [Parts.read, Parts.readBare] at h
  generalize readScheme cs = afterScheme at h hscheme hinfo
  generalize readUserInfo afterScheme.2 = afterInfo at h hinfo
  have hnext := startsIn_breakAt (fun c => c == ';' || c == ' ') afterInfo.2
  have htext := breakAt_append (fun c => c == ';' || c == ' ') afterInfo.2
  have hstops : ∀ c ∈ (breakAt (fun c => c == ';' || c == ' ') afterInfo.2).1,
      (c == ';' || c == ' ') = false := fun c hc => by simpa using List.mem_takeWhile_imp hc
  generalize breakAt (fun c => c == ';' || c == ' ') afterInfo.2 = split at h hnext htext hstops
  have hlocation : split.1 = (cutOptional ':' split.1).1 ++ portText (cutOptional ':' split.1).2 :=
    eq_append_cutOptional ':' split.1
  split at h
  · next parts' rest' hbare =>
    split at hbare
    · cases hbare
    · next hne =>
      cases hbare
      cases h
      let x : Pieces := ⟨afterScheme.1, afterInfo.1, (cutOptional ':' split.1).1,
        (cutOptional ':' split.1).2, (readParams isToken split.2).1⟩
      have hwhole : x.location = split.1 := hlocation.symm
      refine ⟨x, .intro hscheme (hwhole ▸ htext ▸ hinfo) ⟨?_, not_mem_cutOptional ':' _, ?_, hnext⟩
        (paramsAt_readParams isToken split.2), rfl⟩
      · simpa [hwhole] using hne
      · rwa [hwhole]
  · cases h

lemma checkPort_eq_ok_iff {digits : Option (List Char)} {port : Option UInt16} :
    checkPort digits = .ok port ↔ digits.map readUInt16 = port.map .ok := by
  unfold checkPort
  cases digits with
  | none => cases port <;> simp
  | some digits => cases hread : readUInt16 digits <;> cases port <;> simp [hread]

/-- The parts have the meaning that the rules give to the pieces. -/
lemma check_partsOf_iff : (partsOf x).check = .ok r ↔ x.Means r := by
  constructor
  · intro h
    unfold Parts.check at h
    split at h
    · cases h
    · next port hport =>
      split at h
      · cases h
      · next hparams =>
        cases h
        exact ⟨rfl, rfl, rfl, checkPort_eq_ok_iff.mp hport, checkParams_eq_ok_iff.mp hparams⟩
  · rintro ⟨hscheme, huser, hhost, hport, hparams⟩
    obtain ⟨scheme, user, host, port⟩ := r
    obtain rfl : scheme = x.scheme := hscheme
    obtain rfl := huser
    obtain rfl : host = x.place := hhost
    have hcheck : checkPort (partsOf x).port = .ok port := checkPort_eq_ok_iff.mpr hport
    have hknown : checkParams (partsOf x).params = .ok () := checkParams_eq_ok_iff.mpr hparams
    simp only [Parts.check, hcheck, hknown]
    rfl

/-- An address is read exactly if the rules make the text one. -/
lemma exists_read_iff (hsep : Param.Separates isToken) :
    (∃ parts rest, Parts.read isToken cs = .ok (parts, rest) ∧ parts.check = .ok r) ↔
      Follows isToken cs r := by
  constructor
  · rintro ⟨parts, rest, hread, hcheck⟩
    obtain ⟨x, hpieces, rfl⟩ := pieces_of_read hread
    exact ⟨x, rest, hpieces, check_partsOf_iff.mp hcheck⟩
  · rintro ⟨x, rest, hpieces, hmeans⟩
    exact ⟨partsOf x, rest, read_of_pieces hsep hpieces, check_partsOf_iff.mpr hmeans⟩

end Tokenizer

namespace Grammar

/-- The tokenizer reads as an address what the rules make one. -/
theorem readsAddresses_tokenizer : tokenizer.ReadsAddresses := by
  intro cs r
  rw [← Tokenizer.exists_read_iff Param.separates_isTokenChar]
  have haddress : tokenizer.address cs =
      (Tokenizer.readAddress cs).mapError Tokenizer.WireError.message := rfl
  rw [haddress, Tokenizer.readAddress]
  cases Tokenizer.Parts.read isTokenChar cs with
  | error e => simp [Except.mapError]
  | ok found =>
    obtain ⟨parts, rest⟩ := found
    cases hcheck : parts.check <;> simp [Except.mapError, hcheck]

end Grammar

end SipAgent
