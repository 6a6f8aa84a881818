import SipAgent.Proofs.Message.Decoding
import SipAgent.Proofs.Uri.Reading

/-!
# Two ways to read an address

An address comes in on two ways: by itself, when `Uri.parse` reads it, and between the angle
brackets of a From field, when it becomes the sender of a request. Only the first way drops blanks
and angle brackets at the ends and takes an IPv6 address out of its brackets before the grammar
reads the rest. So the two agree on every address that has nothing of this, and with a bracket pair
they never read the same address: callers whose host is written that way are not understood.
-/

namespace SipAgent

open Text

namespace Message

variable {g : Grammar} {m : Message} {uri : Uri} {display address after : List Char}

/-- There is a sender exactly if the text can be read as an address by itself, and it is the same
address. -/
def SenderAgrees (g : Grammar) (m : Message) (address : List Char) : Prop :=
  ∀ uri, (∃ name, m.sender g = .ok ⟨uri, name⟩) ↔ Uri.parse g (String.ofList address) = .ok uri

lemma exists_sender_iff {value : List Char} (hg : g.FindsFirst)
    (h : Header.first? .fromParty m.headers = some (String.ofList value)) :
    (∃ name, m.sender g = .ok ⟨uri, name⟩) ↔
      ∃ q, g.party value = .ok q ∧ q.reference.party = .ok uri := by
  have hheader := hg.header_eq h
  cases hread : g.party value with
  | error e => simp [sender, readHeader, hheader, hread, Except.mapError]
  | ok q =>
    cases hparty : q.reference.party with
    | error e => simp [sender, readHeader_of_first hg h hread, hparty]
    | ok v => simp [sender, readHeader_of_first hg h hread, hparty]

/-- The sender is who the address between the angle brackets names by the grammar. -/
lemma exists_sender_iff_parsePlain (hg : g.FindsFirst) (hover : g.HandsOver display address after)
    (h : Header.first? .fromParty m.headers =
      some (String.ofList (display ++ '<' :: (address ++ '>' :: after)))) :
    (∃ name, m.sender g = .ok ⟨uri, name⟩) ↔ Uri.parsePlain g address = .ok uri := by
  rw [exists_sender_iff hg h, Uri.parsePlain_eq_ok_iff]
  constructor
  · rintro ⟨q, hread, hparty⟩
    exact ⟨q.reference, (hover _).mp ⟨q, hread, rfl⟩, hparty⟩
  · rintro ⟨r, hread, hparty⟩
    obtain ⟨q, hq, rfl⟩ := (hover r).mpr hread
    exact ⟨q, hq, hparty⟩

/-- Let a grammar end hosts at the first colon and hand the text between the angle brackets of the
first From header to its reader of addresses. If nothing is dropped from the text and it has no
bracket pair, the two ways agree. In general, without a bracket pair they agree exactly if the
grammar makes the same of the text with and without what is dropped at its ends, and with a bracket
pair exactly if the text can be read in neither way. -/
theorem sender_agrees_with_parse (hhost : g.EndsHostsAtColon) (hfirst : g.FindsFirst)
    (hover : g.HandsOver display address after)
    (h : Header.first? .fromParty m.headers =
      some (String.ofList (display ++ '<' :: (address ++ '>' :: after)))) :
    (Uri.bareText address = address → Uri.cutBrackets address = none →
      m.SenderAgrees g address) ∧
    (Uri.cutBrackets (Uri.bareText address) = none → (m.SenderAgrees g address ↔
      ∀ uri, Uri.parsePlain g address = .ok uri ↔
        Uri.parsePlain g (Uri.bareText address) = .ok uri)) ∧
    (Uri.cutBrackets (Uri.bareText address) ≠ none → (m.SenderAgrees g address ↔
      ∀ uri, ¬ (∃ name, m.sender g = .ok ⟨uri, name⟩) ∧
        Uri.parse g (String.ofList address) ≠ .ok uri)) := by
  have hplain : Uri.cutBrackets (Uri.bareText address) = none → (m.SenderAgrees g address ↔
      ∀ uri, Uri.parsePlain g address = .ok uri ↔
        Uri.parsePlain g (Uri.bareText address) = .ok uri) := by
    intro hbrackets
    refine forall_congr' fun uri => ?_
    rw [exists_sender_iff_parsePlain hfirst hover h, Uri.parse_eq_ok_iff, String.toList_ofList,
      Uri.parseBare_of_no_brackets hbrackets]
  refine ⟨fun hbare hbrackets => ?_, hplain, fun hbrackets => ?_⟩
  · rw [hplain (hbare.symm ▸ hbrackets), hbare]
    exact fun _ => Iff.rfl
  · constructor
    · intro hagrees uri
      -- A sender would have a host without a colon, and the other way always brings one along.
      have hneither : Uri.parse g (String.ofList address) ≠ .ok uri := by
        intro hparse
        have hsender := (hagrees uri).mpr hparse
        rw [exists_sender_iff_parsePlain hfirst hover h, Uri.parsePlain_eq_ok_iff] at hsender
        obtain ⟨r, hread, hparty⟩ := hsender
        rw [Uri.parse_eq_ok_iff, String.toList_ofList] at hparse
        exact Uri.colon_not_mem_of_party hhost hread hparty
          (Uri.colon_mem_of_parseBare hbrackets hparse)
      exact ⟨fun hsender => hneither ((hagrees uri).mp hsender), hneither⟩
    · intro hneither uri
      exact iff_of_false (hneither uri).1 (hneither uri).2

/-- A quoted name, a user with a point, a port and parameters on both sides of the bracket. -/
theorem sender_agrees_with_parse_of_caller :
    let address := "sip:j.doe@biloxi.com:5070;transport=tcp".toList
    let after := ";tag=8321".toList
    let m : Message := ⟨.request (.supported .invite),
      [⟨.fromParty, "\"J. Doe\" <sip:j.doe@biloxi.com:5070;transport=tcp>;tag=8321"⟩], []⟩
    parse .tokenizer (Octets.ofText ("INVITE sip:alice@example.com SIP/2.0\r\n" ++
      "From: \"J. Doe\" <sip:j.doe@biloxi.com:5070;transport=tcp>;tag=8321\r\n\r\n")) = .ok m ∧
    Grammar.tokenizer.EndsHostsAtColon ∧ Grammar.tokenizer.FindsFirst ∧
    Grammar.tokenizer.HandsOver "\"J. Doe\" ".toList address after ∧
    m.SenderAgrees .tokenizer address ∧
    ∃ name, m.sender .tokenizer = .ok ⟨⟨some "j.doe", "biloxi.com", some 5070⟩, name⟩ := by
  intro address after m
  have hhost := Grammar.readsAddresses_tokenizer.endsHostsAtColon
  let tag : Param := ⟨"tag".toList, some "8321".toList⟩
  have htokens : ∀ p ∈ [tag], p.Tokens isTextTokenChar :=
    List.forall_mem_singleton.mpr (by decide +kernel)
  have hknown : ∀ p ∈ [tag], p.Known := List.forall_mem_singleton.mpr (by decide +kernel)
  have hover : Grammar.tokenizer.HandsOver "\"J. Doe\" ".toList address after :=
    Grammar.handsOver_tokenizer (by decide) (by decide) (by decide +kernel) htokens hknown
  have hagrees := (sender_agrees_with_parse (m := m) hhost Grammar.findsFirst_tokenizer hover
    (by decide +kernel)).1 (by decide +kernel) (by decide +kernel)
  exact ⟨by decide +kernel, hhost, Grammar.findsFirst_tokenizer, hover, hagrees,
    (hagrees _).mpr (by decide +kernel)⟩

/-- An invitation from a host that is an IPv6 address: the text between the angle brackets is an
address, but the message has no sender, because part of the host is taken for a port. -/
theorem bracketed_sender_refused :
    ∃ m, parse .tokenizer (Octets.ofText ("INVITE sip:alice@example.com SIP/2.0\r\n" ++
      "Via: SIP/2.0/UDP 203.0.113.9:5060;branch=z9hG4bKnashds8\r\n" ++
      "From: <sip:bob@[2001:db8::1]>;tag=8321234356\r\n" ++
      "To: <sip:alice@example.com>\r\n" ++
      "Call-ID: 3848276298220188511@biloxi.example.com\r\n" ++
      "CSeq: 1 INVITE\r\n" ++
      "Content-Length: 0\r\n\r\n")) = .ok m ∧
      Header.first? .fromParty m.headers = some "<sip:bob@[2001:db8::1]>;tag=8321234356" ∧
      m.sender .tokenizer = .error (.message
        "rsip error: could not parse part: invalid digit found in string") ∧
      Uri.parse .tokenizer "sip:bob@[2001:db8::1]" = .ok ⟨some "bob", "2001:db8::1", none⟩ := by
  let m : Message := ⟨.request (.supported .invite),
    [⟨.via, "SIP/2.0/UDP 203.0.113.9:5060;branch=z9hG4bKnashds8"⟩,
      ⟨.fromParty, "<sip:bob@[2001:db8::1]>;tag=8321234356"⟩,
      ⟨.toParty, "<sip:alice@example.com>"⟩,
      ⟨.callId, "3848276298220188511@biloxi.example.com"⟩,
      ⟨.cseq, "1 INVITE"⟩, ⟨.other "Content-Length", "0"⟩], []⟩
  exact ⟨m, by decide +kernel, by decide +kernel, by decide +kernel, by decide +kernel⟩

end Message

end SipAgent
