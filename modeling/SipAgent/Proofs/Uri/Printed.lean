import SipAgent.Proofs.Tokenizer.Address
import SipAgent.Proofs.Uri.Reading
import SipAgent.Proofs.Uri.Written

/-!
# Addresses that are printed and read back

An address is printed as its user, its host and its port, with the delimiters of the grammar between
them. The same characters are delimiters at several levels: a point ends the search for a user, a
colon ends a host, and an IPv6 address is full of colons, so a name stands in for it while the rest
is read. A grammar that reads addresses by the rules gives the address back all the same.
-/

namespace SipAgent

open Text

namespace Uri

variable {g : Grammar}

/-! ### The ends of a text -/

/-- A character that is left alone at the ends of a text: neither a blank nor an angle bracket. -/
def isFirm (c : Char) : Bool :=
  !(isBlank c || c == '<' || c == '>')

lemma isFirm_of_isAlphanum {c : Char} (h : c.isAlphanum = true) : isFirm c = true := by
  have hopen : c ≠ '<' := by
    rintro rfl
    cases h
  have hclose : c ≠ '>' := by
    rintro rfl
    cases h
  have hblank : isBlank c = false := by
    delta Char.isAlphanum Char.isAlpha Char.isUpper Char.isLower Char.isDigit at h
    simp only [Bool.or_eq_true, Bool.and_eq_true, decide_eq_true_eq] at h
    have hrange : 48 ≤ c.toNat ∧ c.toNat ≤ 122 := by
      rcases h with (h | h) | h
      · exact ⟨Nat.le_trans (by decide) h.1, Nat.le_trans h.2 (by decide)⟩
      · exact ⟨Nat.le_trans (by decide) h.1, h.2⟩
      · exact ⟨h.1, Nat.le_trans h.2 (by decide)⟩
    simp only [isBlank, Bool.or_eq_false_iff, Bool.and_eq_false_iff, decide_eq_false_iff_not,
      beq_eq_false_iff_ne]
    omega
  simp [isFirm, hblank, hopen, hclose]

lemma isFirm_of_isUserChar {c : Char} (h : isUserChar c = true) : isFirm c = true := by
  rw [isUserChar, Bool.or_eq_true] at h
  rcases h with h | h
  · exact isFirm_of_isAlphanum h
  · have hmarks : AllIn isFirm "-_.!~*\x27()&=+$,?/%".toList := by decide
    exact hmarks c (List.contains_iff_mem.mp h)

/-- What is bare in the end stands in the text. -/
lemma bareText_sublist (cs : List Char) : (bareText cs).Sublist cs :=
  ((dropTail_sublist _ _).trans (List.dropWhile_sublist _)).trans (trim_sublist isBlank cs)

/-- Nothing is dropped exactly when there is nothing to drop at the ends. -/
lemma bareText_eq_self_iff {cs : List Char} :
    bareText cs = cs ↔ Trimmed isBlank cs ∧ StartsIn (fun c => !(c == '<')) cs ∧
      StartsIn (fun c => !(c == '>')) cs.reverse := by
  constructor
  · -- The earlier stages drop nothing, or the text would have become shorter.
    intro h
    have hback := dropTail_sublist (· == '>') ((trim isBlank cs).dropWhile (· == '<'))
    rw [← bareText, h] at hback
    have hfront := List.dropWhile_sublist (· == '<') (l := trim isBlank cs)
    have htrim := (trim_sublist isBlank cs).eq_of_length_le (hback.trans hfront).length_le
    rw [htrim] at hback
    have hopen := (List.dropWhile_sublist _).eq_of_length_le hback.length_le
    rw [bareText, htrim, hopen] at h
    exact ⟨trim_eq_self_iff.mp htrim, dropWhile_eq_self_iff.mp hopen, dropTail_eq_self_iff.mp h⟩
  · rintro ⟨htrimmed, hopen, hclose⟩
    rw [bareText, trim_of_trimmed htrimmed, dropWhile_eq_self_iff.mpr hopen,
      dropTail_eq_self_iff.mpr hclose]

/-- Nothing is dropped from the ends of a text that is all firm. -/
lemma bareText_of_allIn {cs : List Char} (h : AllIn isFirm cs) : bareText cs = cs := by
  have hnot : ∀ c ∈ cs, isBlank c = false ∧ c ≠ '<' ∧ c ≠ '>' := fun c hc => by
    simpa [isFirm, and_assoc] using h c hc
  have hends : ∀ c ∈ cs.reverse.head?, isBlank c = false ∧ c ≠ '<' ∧ c ≠ '>' := fun c hc =>
    hnot c (List.mem_reverse.mp (List.mem_of_mem_head? hc))
  refine bareText_eq_self_iff.mpr ⟨⟨fun c hc => ?_, fun c hc => ?_⟩, fun c hc => ?_, fun c hc => ?_⟩
  · simp [(hnot c (List.mem_of_mem_head? hc)).1]
  · simp [(hends c hc).1]
  · simp [(hnot c (List.mem_of_mem_head? hc)).2.1]
  · simp [(hends c hc).2.2]

/-! ### Bare addresses -/

/-- A bare address that the rules take apart is read as it stands. -/
lemma Legible.parsePlain_chars (hg : g.ReadsAddresses) {u : Uri} (h : u.Legible) :
    parsePlain g u.chars = .ok u := by
  obtain ⟨r, hfollows, hparty⟩ := h.follows_chars isTokenChar
  exact parsePlain_eq_ok_iff.mpr ⟨r, (hg u.chars r).mpr hfollows, hparty⟩

/-- The address with the name that stands in for an IPv6 address as its host. -/
def standIn (u : Uri) : Uri :=
  { u with host := String.ofList ipv6Placeholder }

@[simp] lemma host_standIn (u : Uri) : u.standIn.host.toList = ipv6Placeholder :=
  String.toList_ofList

section Literal

variable {u : Uri} {ip : IPv6}

lemma hostChars_of_ipv6 (ip : IPv6) : hostChars ip.text.toList = '[' :: (ip.chars ++ [']']) := by
  rw [IPv6.text, String.toList_ofList, hostChars, if_pos ip.colon_mem_chars, List.cons_append]

/-- The host stands between brackets. -/
lemma chars_of_literal (hhost : u.host = ip.text) :
    u.chars = "sip:".toList ++ u.front ++ '[' :: (ip.chars ++ ']' :: u.back) := by
  rw [chars_eq, hhost, hostChars_of_ipv6]
  simp

/-- A name takes the place of the host and its brackets. -/
lemma chars_standIn (u : Uri) :
    u.standIn.chars = "sip:".toList ++ u.front ++ ipv6Placeholder ++ u.back := by
  have hhost : hostChars u.standIn.host.toList = ipv6Placeholder := by
    rw [host_standIn]
    decide
  rw [chars_eq, hhost, List.append_assoc, List.append_assoc]
  rfl

lemma cutBrackets_of_literal (hhost : u.host = ip.text)
    (hfront : '[' ∉ u.front ∧ ']' ∉ u.front) :
    cutBrackets u.chars = some ("sip:".toList ++ u.front, ip.chars, u.back) := by
  have hbefore : '[' ∉ "sip:".toList ++ u.front ∧ ']' ∉ "sip:".toList ++ u.front := by
    rw [List.mem_append, List.mem_append, not_or, not_or]
    exact ⟨⟨by decide, hfront.1⟩, by decide, hfront.2⟩
  have hinside : ']' ∉ ip.chars := fun h => by
    rcases IPv6.mem_chars h with h | h | h <;> cases h
  rw [chars_of_literal hhost]
  simp only [cutBrackets, cut_append _ hbefore.1, if_neg hbefore.2, cut_append _ hinside,
    Option.map_some]

/-- An IPv6 address in brackets is read as the host. -/
lemma parseBare_of_literal (hg : g.ReadsAddresses) (hhost : u.host = ip.text)
    (hfront : '[' ∉ u.front ∧ ']' ∉ u.front) (h : u.standIn.Legible) :
    parseBare g u.chars = .ok u := by
  have hplain := h.parsePlain_chars hg
  rw [chars_standIn] at hplain
  simp only [parseBare, cutBrackets_of_literal hhost hfront, IPv6.read_chars, hplain]
  rw [← hhost]
  rfl

end Literal

namespace Spelled

lemma parsePlain_text (hg : g.ReadsAddresses) (s : Spelled) :
    parsePlain g s.text = .ok s.uri := by
  rw [← s.chars_uri]
  exact s.legible.parsePlain_chars hg

/-- Without brackets, a bare address is read by the grammar. -/
lemma parseBare_text (hg : g.ReadsAddresses) (s : Spelled) : parseBare g s.text = .ok s.uri := by
  have hbracket : '[' ∉ s.text := s.not_mem_text rfl (by decide) (by decide)
  have hcut : cutBrackets s.text = none := by
    simp only [cutBrackets, cut_eq_none_iff.mpr hbracket]
  simp only [parseBare, hcut, s.parsePlain_text hg]

end Spelled

/-! ### Printed addresses -/

lemma allIn_back (u : Uri) : AllIn isFirm u.back := by
  unfold back digits
  cases u.port with
  | none => exact List.forall_mem_nil _
  | some port =>
    intro c hc
    rcases List.mem_cons.mp hc with rfl | hc
    · rfl
    · refine isFirm_of_isAlphanum ?_
      rw [Char.isAlphanum, isDigit_of_mem_decimal hc, Bool.or_true]

lemma hostChars_of_plain {host : List Char} (h : AllIn isPlainChar host) : hostChars host = host :=
  if_neg (not_mem_of_class h rfl)

/-- The user of an address is made of the characters for users, and its host is a name or the text
of an IPv6 address. -/
structure Printable (u : Uri) : Prop where
  user : ∀ user ∈ u.user, user ≠ "" ∧ AllIn isUserChar user.toList
  host : (u.host ≠ "" ∧ AllIn isPlainChar u.host.toList) ∨ ∃ ip : IPv6, u.host = ip.text

namespace Printable

variable {u : Uri} {name : List Char}

/-- The address with a name as its host. -/
def spelled (h : u.Printable) (name : List Char) (hne : name ≠ [])
    (hplain : AllIn isPlainChar name) : Spelled where
  user := u.user.map String.toList
  host := name
  port := u.port
  user_ne := by
    intro hnil
    obtain ⟨user, huser, hempty⟩ := Option.map_eq_some_iff.mp hnil
    exact (h.user user huser).1 (String.toList_eq_nil_iff.mp hempty)
  user_chars := by
    intro cs hcs
    obtain ⟨user, huser, rfl⟩ := Option.map_eq_some_iff.mp hcs
    exact (h.user user huser).2
  host_ne := hne
  host_plain := hplain

lemma uri_spelled (h : u.Printable) (hne : name ≠ []) (hplain : AllIn isPlainChar name) :
    (h.spelled name hne hplain).uri = { u with host := String.ofList name } := by
  obtain ⟨user, host, port⟩ := u
  cases user <;> simp [spelled, Spelled.uri]

lemma allIn_hostChars (h : u.Printable) : AllIn isFirm (hostChars u.host.toList) := by
  intro c hc
  rcases h.host with ⟨-, hplain⟩ | ⟨ip, hip⟩
  · rw [hostChars_of_plain hplain] at hc
    exact isFirm_of_isUserChar (isUserChar_of_isPlainChar (hplain c hc))
  · rw [hip, hostChars_of_ipv6, List.mem_cons, List.mem_append, List.mem_singleton] at hc
    rcases hc with rfl | hc | rfl
    · rfl
    · rcases IPv6.mem_chars hc with hc | rfl | rfl
      · exact isFirm_of_isAlphanum hc
      · rfl
      · rfl
    · rfl

lemma allIn_front (h : u.Printable) : AllIn isFirm u.front := by
  unfold front
  cases huser : u.user with
  | none => nofun
  | some user =>
    intro c hc
    rcases List.mem_append.mp hc with hc | hc
    · exact isFirm_of_isUserChar ((h.user user huser).2 c hc)
    · obtain rfl := List.mem_singleton.mp hc
      rfl

lemma front_not_mem (h : u.Printable) {c : Char} (hc : isUserChar c = false) (hat : c ≠ '@') :
    c ∉ u.front := by
  unfold front
  cases huser : u.user with
  | none => exact List.not_mem_nil
  | some user => simp [infoText, not_mem_of_class (h.user user huser).2 hc, hat]

/-- Nothing is dropped from the ends of a printed address. -/
lemma bareText_chars (h : u.Printable) : bareText u.chars = u.chars := by
  refine bareText_of_allIn ?_
  rw [chars_eq]
  intro c hc
  rcases List.mem_append.mp hc with hc | hc
  · exact (by decide : AllIn isFirm "sip:".toList) c hc
  · rcases List.mem_append.mp hc with hc | hc
    · exact h.allIn_front c hc
    · rcases List.mem_append.mp hc with hc | hc
      · exact h.allIn_hostChars c hc
      · exact u.allIn_back c hc

lemma parseBare_chars (hg : g.ReadsAddresses) (h : u.Printable) :
    parseBare g u.chars = .ok u := by
  rcases h.host with ⟨hne, hplain⟩ | ⟨ip, hip⟩
  · have hname : u.host.toList ≠ [] := fun hnil => hne (String.toList_eq_nil_iff.mp hnil)
    have hread := (h.spelled u.host.toList hname hplain).parseBare_text hg
    rwa [← Spelled.chars_uri, h.uri_spelled hname hplain, String.ofList_toList] at hread
  · have hne : ipv6Placeholder ≠ [] := by decide
    have hplain : AllIn isPlainChar ipv6Placeholder := by decide
    have hlegible := (h.spelled ipv6Placeholder hne hplain).legible
    rw [h.uri_spelled hne hplain] at hlegible
    have hfront : '[' ∉ u.front ∧ ']' ∉ u.front :=
      ⟨h.front_not_mem rfl (by decide), h.front_not_mem rfl (by decide)⟩
    exact parseBare_of_literal hg hip hfront hlegible

end Printable

/-- A grammar that reads addresses by the rules reads one back from its printed form. -/
theorem parse_text (hg : g.ReadsAddresses) {u : Uri} (h : u.Printable) :
    parse g u.text = .ok u := by
  have hbare : bareText u.text.toList = u.chars := by
    rw [text, String.toList_ofList, h.bareText_chars]
  simp only [parse, hbare, h.parseBare_chars hg]

/-- A user with points at an IPv6 address: each delimiter of the grammar occurs in it. -/
theorem parse_text_of_delimiters :
    let ip : IPv6 := ⟨[0x2001, 0xdb8, 0, 0, 0, 0, 0, 1], rfl⟩
    let u : Uri := ⟨some "j.doe", ip.text, some 5062⟩
    Grammar.tokenizer.ReadsAddresses ∧ u.Printable ∧ u.text = "sip:j.doe@[2001:db8::1]:5062" ∧
      parse .tokenizer "sip:j.doe@[2001:db8::1]:5062" = .ok u := by
  intro ip u
  have hu : u.Printable := by
    refine ⟨?_, .inr ⟨ip, rfl⟩⟩
    rintro _ ⟨⟩
    decide
  have htext : u.text = "sip:j.doe@[2001:db8::1]:5062" := by decide +kernel
  refine ⟨Grammar.readsAddresses_tokenizer, hu, htext, ?_⟩
  rw [← htext]
  exact parse_text Grammar.readsAddresses_tokenizer hu

end Uri

end SipAgent
