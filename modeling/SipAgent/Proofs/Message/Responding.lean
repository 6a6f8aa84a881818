import SipAgent.Proofs.Message.Decoding

/-!
# Responses that are read back

A response is written with its fields in any order and under any spelling of their names, with other
fields in between and any octets as its body. With a grammar that follows the rules, the message
that is read from it amounts to the response that was written, but for the reason. Requests and
responses have the tags the other way round, so a request of the peer in the dialog of a response
names the same dialog.
-/

namespace SipAgent

open Text

namespace Message

variable {g : Grammar} {m : Message} {status : UInt16} {reason : List Char}

/-! ### The status line -/

/-- The start line of a response. -/
def statusLine (status : UInt16) (reason : List Char) : List Char :=
  versionText ++ ' ' :: (decimal status.toNat ++ ' ' :: reason)

lemma spell_statusLine (status : UInt16) (reason : List Char) :
    Octets.spell (statusLine status reason) = statusLine status (Octets.spell reason) := by
  have hdigits : Octets.IsAscii (decimal status.toNat) := by
    intro c hc
    apply toNat_lt_of_isTokenChar
    rw [isTokenChar, Char.isAlphanum, isDigit_of_mem_decimal hc, Bool.or_true, Bool.true_or]
  have hfront : Octets.IsAscii (versionText ++ ' ' :: (decimal status.toNat ++ [' '])) := by
    rw [Octets.isAscii_append, Octets.isAscii_cons, Octets.isAscii_append]
    exact ⟨by decide, by decide, hdigits, by decide⟩
  have htext : ∀ cs, statusLine status cs =
      versionText ++ ' ' :: (decimal status.toNat ++ [' ']) ++ cs := by
    simp [statusLine]
  rw [htext, htext, Octets.spell_append, Octets.spell_of_isAscii hfront]

/-- By the rules a message with the start line of a response is that response. -/
lemma responseAt_written (hlow : 100 ≤ status.toNat) (hhigh : status.toNat ≤ 999)
    (hreason : '\r' ∉ reason) {fields : List WrittenField} (hfields : fields ≠ []) (body : Octets) :
    ResponseAt (written (statusLine status reason) fields body).chars status
      (fields.map WrittenField.header) body := by
  obtain ⟨rest, htext, hbehind⟩ := exists_headersAt (statusLine status reason) hfields body
  have hwhole : '\r' ∉ Octets.spell reason := fun h =>
    hreason (Octets.mem_of_mem_spell h (by decide))
  have hdecodes : (Octets.decode? (Octets.spell reason)).isSome = true := by simp
  have hline : (written (statusLine status reason) fields body).chars = versionText ++
      ' ' :: (decimal status.toNat ++ ' ' :: (Octets.spell reason ++ (lineEnd ++ rest))) := by
    rw [htext, spell_statusLine, statusLine]
    simp
  have hresponse := ResponseAt.intro hline (length_decimal_of_status hlow hhigh)
    (fun _ hc => isDigit_of_mem_decimal hc) (readUInt16_decimal status) hwhole hdecodes hbehind
  rwa [Octets.ofChars_chars] at hresponse

/-! ### Fields of a response -/

lemma cseqMethod_of_first {number : UInt32} {method : Method} (hg : g.ReadsHeaders)
    (h : Header.first? .cseq m.headers =
      some (String.ofList (cseqText number (.supported method)))) :
    m.cseqMethod g = .ok method := by
  simp only [cseqMethod, readHeader_of_first hg.first h (hg.cseqMethod number (.supported method)),
    WireMethod.method?]

/-- A field that states seconds is read back, and one that is not there states none. -/
lemma seconds?_of_first {name : HeaderName} {seconds : Option UInt32} (hg : g.ReadsHeaders)
    (h : Header.first? name m.headers =
      (seconds.map fun n => decimal n.toNat).map String.ofList) : m.seconds? g name = seconds := by
  cases seconds with
  | none =>
    unfold seconds?
    split
    · rfl
    · next hvalue => exact absurd hvalue (hg.first.header_ne h)
  | some n =>
    simp only [seconds?, hg.first.header_eq h, String.toList_ofList, hg.seconds]

/-- The lifetime of a contact is read back from its parameter. -/
lemma contactExpires_of_first {contact : Option PartyForm} {seconds : Option UInt32}
    (hg : g.ReadsHeaders)
    (h : Header.first? .contact m.headers = (contact.map PartyForm.text).map String.ofList)
    (hexpires : (contact.bind fun p => Param.lookup "expires" p.params) =
      seconds.map fun n => decimal n.toNat) : m.contactExpires g = seconds := by
  cases contact with
  | none =>
    obtain rfl : seconds = none := Option.map_eq_none_iff.mp hexpires.symm
    unfold contactExpires
    split
    · rfl
    · next hparty =>
      unfold readHeader at hparty
      split at hparty
      · cases hparty
      · next hvalue => exact absurd hvalue (hg.first.header_ne h)
  | some p =>
    obtain ⟨_, _, hpartyAt⟩ := p.partyAt
    obtain ⟨q, hread, hsays⟩ := hg.party _ _ _ _ hpartyAt
    have hlookup : Param.lookup "expires" p.params = seconds.map fun n => decimal n.toNat :=
      hexpires
    simp only [contactExpires, readHeader_of_first hg.first h hread, hsays.expires, hlookup]
    cases seconds with
    | none => rfl
    | some n => simp only [Option.map_some, Option.bind_some, readUInt32_decimal, Except.toOption]

lemma tag_of_form {name : HeaderName} {p : PartyForm} (hg : g.ReadsHeaders)
    (h : Header.first? name m.headers = some (String.ofList p.text)) :
    (m.readHeader g name g.party).map Party.tag = .ok p.tag := by
  obtain ⟨_, _, hpartyAt⟩ := p.partyAt
  exact tag_of_first hg h hpartyAt

end Message

/-! ### Challenges of a response -/

namespace WrittenField

/-- The field is a challenge, of the server or of a proxy. -/
def isChallenge (f : WrittenField) : Bool :=
  sameAnyCase "WWW-Authenticate".toList f.name || sameAnyCase "Proxy-Authenticate".toList f.name

/-- The value of the first field that is a challenge. -/
def firstChallenge? (fields : List WrittenField) : Option (List Char) :=
  (fields.find? isChallenge).map (·.value)

lemma isChallenge_iff (f : WrittenField) : f.isChallenge = true ↔
    f.header.name = .wwwAuthenticate ∨ f.header.name = .proxyAuthenticate := by
  have hserver : HeaderName.ofSpelling f.name = .wwwAuthenticate ↔
      sameAnyCase "WWW-Authenticate".toList f.name = true :=
    HeaderName.ofSpelling_eq_iff (by decide)
  have hproxy : HeaderName.ofSpelling f.name = .proxyAuthenticate ↔
      sameAnyCase "Proxy-Authenticate".toList f.name = true :=
    HeaderName.ofSpelling_eq_iff (by decide)
  rw [isChallenge, Bool.or_eq_true, header, hserver, hproxy]

/-- The realm of a message is that of its first challenge. Fields of other names are passed over. -/
lemma realm_eq {g : Grammar} {m : Message} {fields : List WrittenField}
    {challenge : Option WrittenChallenge} (hg : g.ReadsHeaders) (hm : m.headers = fields.map header)
    (h : firstChallenge? fields = challenge.map WrittenChallenge.text) :
    m.realm g = challenge.map fun c => String.ofList c.realm := by
  have hvalue : ∀ f : WrittenField, f.header.value.toList = f.value := fun f =>
    String.toList_ofList
  rw [Message.realm, hm]
  clear hm
  induction fields with
  | nil =>
    cases challenge with
    | none => rfl
    | some c => cases h
  | cons f fields ih =>
    rw [List.map_cons, List.findSome?_cons, hvalue]
    rw [firstChallenge?, List.find?_cons] at h
    cases hf : f.isChallenge with
    | true =>
      rw [hf] at h
      obtain ⟨c, rfl, (htext : c.text = f.value)⟩ := Option.map_eq_some_iff.mp h.symm
      have hread : g.realm f.value = some (String.ofList c.realm) := htext ▸ hg.realm c
      rw [if_pos (f.isChallenge_iff.mp hf), hread, Option.map_some]
    | false =>
      rw [hf] at h
      rw [if_neg fun hname => by cases hf.symm.trans (f.isChallenge_iff.mpr hname)]
      exact ih h

end WrittenField

/-! ### Responses -/

/-- A response as it is written. Of the fields with the same name, only the first one counts. -/
structure WrittenResponse where
  status : UInt16
  reason : List Char
  fields : List WrittenField
  body : Octets
  callId : List Char
  via : WrittenVia
  sender : PartyForm
  recipient : PartyForm
  number : UInt32
  method : Method
  expires : Option UInt32
  minExpires : Option UInt32
  contact : Option PartyForm
  contactExpires : Option UInt32
  challenge : Option WrittenChallenge
  status_low : 100 ≤ status.toNat
  status_high : status.toNat ≤ 999
  reason_whole : '\r' ∉ reason
  /-- The contact, if there is one, states its lifetime in a parameter, or none. -/
  contact_expires : (contact.bind fun p => Param.lookup "expires" p.params) =
    contactExpires.map fun n => decimal n.toNat
  first_callId : WrittenField.first? "Call-ID" fields = some callId
  first_via : WrittenField.first? "Via" fields = some via.text
  first_from : WrittenField.first? "From" fields = some sender.text
  first_to : WrittenField.first? "To" fields = some recipient.text
  first_cseq : WrittenField.first? "CSeq" fields = some (cseqText number (.supported method))
  first_expires : WrittenField.first? "Expires" fields = expires.map fun n => decimal n.toNat
  first_minExpires :
    WrittenField.first? "Min-Expires" fields = minExpires.map fun n => decimal n.toNat
  first_contact : WrittenField.first? "Contact" fields = contact.map PartyForm.text
  /-- The first challenge counts, whether it is of the server or of a proxy. -/
  first_challenge : WrittenField.firstChallenge? fields = challenge.map WrittenChallenge.text

namespace WrittenResponse

variable (w : WrittenResponse)

/-- The octets of the response. -/
def octets : Octets :=
  Message.written (Message.statusLine w.status w.reason) w.fields w.body

/-- The dialog of the response, if both tags are there. The agent wrote its own tag in the From
field of its request, and the response repeats it. -/
def dialog : Option Dialog :=
  match w.sender.tag, w.recipient.tag with
  | some localTag, some remoteTag => some ⟨⟨String.ofList w.callId⟩, localTag, some remoteTag⟩
  | _, _ => none

/-- The response that is written, with the reason that is reported for it. -/
def response (reason : String) : Response where
  status := w.status
  reason := reason
  method := w.method
  callId := ⟨String.ofList w.callId⟩
  transaction := ⟨String.ofList w.via.branch⟩
  body := w.body
  dialog := w.dialog
  expires := w.expires
  contactExpires := w.contactExpires
  minExpires := w.minExpires
  realm := w.challenge.map fun c => String.ofList c.realm

/-- The message that the response is, as it is printed. -/
def message (printed : String) : Message :=
  ⟨.status w.status printed, w.fields.map WrittenField.header, w.body⟩

lemma dialog_eq_some_iff {d : Dialog} : w.dialog = some d ↔ ∃ localTag remoteTag,
    w.sender.tag = some localTag ∧ w.recipient.tag = some remoteTag ∧
      d = ⟨⟨String.ofList w.callId⟩, localTag, some remoteTag⟩ := by
  unfold dialog
  cases w.sender.tag <;> cases w.recipient.tag <;> simp [eq_comm]

/-- A grammar that follows the rules reads the message, and not as a request. -/
lemma parse_octets {g : Grammar} (hg : g.ReadsMessages) :
    ∃ printed, Message.parse g w.octets = .ok (w.message printed) := by
  have hfields := WrittenField.ne_nil_of_first? w.first_callId
  have hresponse := Message.responseAt_written w.status_low w.status_high w.reason_whole hfields
    w.body
  obtain ⟨printed, hread⟩ := hg.response _ _ _ _ hresponse
  have hrequest := hg.request_eq_none hresponse
  refine ⟨printed, ?_⟩
  simp only [Message.parse, octets, hrequest, hread]
  rfl

variable {g : Grammar} {printed : String}

lemma first?_message {name : HeaderName} {spelling : String} {value : Option (List Char)}
    (hknown : (name, spelling) ∈ HeaderName.known)
    (h : WrittenField.first? spelling w.fields = value) :
    Header.first? name (w.message printed).headers = value.map String.ofList :=
  h ▸ WrittenField.first?_map_header hknown

lemma responseDialog_message (hg : g.ReadsHeaders) :
    (w.message printed).responseDialog g ⟨String.ofList w.callId⟩ = .ok w.dialog := by
  have hfrom : Header.first? .fromParty (w.message printed).headers =
      some (String.ofList w.sender.text) :=
    w.first?_message (by decide) w.first_from
  have hto : Header.first? .toParty (w.message printed).headers =
      some (String.ofList w.recipient.text) :=
    w.first?_message (by decide) w.first_to
  rw [Message.responseDialog, Message.fromTag, Message.toTag, Message.tag_of_form hg hfrom,
    Message.tag_of_form hg hto, dialog]
  cases w.sender.tag <;> cases w.recipient.tag <;> rfl

lemma signal_message (hg : g.ReadsHeaders) :
    (w.message printed).signal g = .ok (.response (w.response (Message.reasonOf printed))) := by
  have hmethod := Message.cseqMethod_of_first hg (m := w.message printed)
    (w.first?_message (by decide) w.first_cseq)
  have hcallId := Message.callId_of_first hg.first (m := w.message printed)
    (w.first?_message (by decide) w.first_callId)
  have htransaction := Message.transaction_of_first hg (m := w.message printed)
    (w.first?_message (by decide) w.first_via)
  have hexpires : (w.message printed).seconds? g .expires = w.expires :=
    Message.seconds?_of_first hg (w.first?_message (by decide) w.first_expires)
  have hminExpires : (w.message printed).seconds? g .minExpires = w.minExpires :=
    Message.seconds?_of_first hg (w.first?_message (by decide) w.first_minExpires)
  have hcontact : (w.message printed).contactExpires g = w.contactExpires :=
    Message.contactExpires_of_first hg (w.first?_message (by decide) w.first_contact)
      w.contact_expires
  have hrealm := WrittenField.realm_eq (m := w.message printed) hg rfl w.first_challenge
  have hdialog : (w.message printed).responseDialog g ⟨String.ofList w.callId⟩ = .ok w.dialog :=
    w.responseDialog_message hg
  have hsignal : (w.message printed).responseSignal g w.status printed =
      .ok (w.response (Message.reasonOf printed)) := by
    simp only [Message.responseSignal, hmethod, hcallId, htransaction, hdialog, hexpires,
      hminExpires, hcontact, hrealm, bind, Except.bind]
    rfl
  rw [Message.signal]
  exact congrArg (Except.map Signal.response) hsignal

/-- With a grammar that follows the rules, a response that is written is read as a response, and the
signal that it amounts to is the one that was written, with the reason that is printed for it. A
request with the same Call-ID and the two tags exchanged is in the same dialog. -/
theorem decodes_to_response (hm : g.ReadsMessages) (hh : g.ReadsHeaders) :
    ∃ m printed, Message.parse g w.octets = .ok m ∧ m.start = .status w.status printed ∧
      m.signal g = .ok (.response (w.response (Message.reasonOf printed))) ∧
      ∀ v : WrittenRequest, v.callId = w.callId → v.sender.tag = w.recipient.tag →
        v.recipient.tag = w.sender.tag → ∀ d, w.dialog = some d →
        ∃ m' r, Message.parse g v.octets = .ok m' ∧ m'.signal g = .ok (.request r) ∧
          r.dialog = some d := by
  obtain ⟨printed, hparse⟩ := w.parse_octets hm
  refine ⟨w.message printed, printed, hparse, rfl, w.signal_message hh, ?_⟩
  intro v hcallId hsender hrecipient d hd
  obtain ⟨localTag, remoteTag, hlocal, hremote, rfl⟩ := w.dialog_eq_some_iff.mp hd
  have hsignal := v.requestSignal_message hh
  refine ⟨v.message, v.request, v.parse_octets hm, ?_, ?_⟩
  · exact congrArg (Except.map Signal.request) hsignal
  · rw [WrittenRequest.request, hcallId, hsender, hrecipient, hlocal, hremote, Option.map_some]

/-- The fields of a refused registration, in disorder. -/
def challengedFields : List WrittenField := [
  .spaced "cseq" "4294967295 REGISTER" (by decide) (by decide),
  .spaced "TO" "<sip:bob@b.com>;tag=b77" (by decide) (by decide),
  .spaced "X" "9" (by decide) (by decide),
  .spaced "expires" "1800" (by decide) (by decide),
  .spaced "Via" "SIP/2.0/TCP b.com;branch=z9" (by decide) (by decide),
  .spaced "call-id" "c7@biloxi" (by decide) (by decide),
  .spaced "Min-Expires" "60" (by decide) (by decide),
  .spaced "proxy-authenticate" "Digest  nonce=8f.1, realm=\"b, c\"" (by decide) (by decide),
  .spaced "contact" "<sip:al@a.com>;expires=600" (by decide) (by decide),
  .spaced "From" "Al <sip:al@a.com>;tag=a6c" (by decide) (by decide)]

/-- A refused registration within the dialog of a farewell, with a body that looks like another
response. -/
def challenged : WrittenResponse where
  status := 401
  reason := "Nein".toList
  fields := challengedFields
  body := Octets.ofText "\r\nSIP/2.0 200 OK"
  callId := "c7@biloxi".toList
  via := ⟨"TCP", "b.com".toList, none, [⟨"branch".toList, some "z9".toList⟩], "z9".toList,
    by decide, by decide, by decide, by decide, by decide⟩
  sender := .around "Al ".toList
    ⟨some "al".toList, "a.com".toList, none, by decide, by decide, by decide, by decide⟩
    WrittenRequest.farewell.recipient.params (by decide)
    WrittenRequest.farewell.recipient.params_plain
  recipient := .around []
    ⟨some "bob".toList, "b.com".toList, none, by decide, by decide, by decide, by decide⟩
    WrittenRequest.farewell.sender.params (by decide)
    WrittenRequest.farewell.sender.params_plain
  number := 4294967295
  method := .register
  expires := some 1800
  minExpires := some 60
  contact := some (.around []
    ⟨some "al".toList, "a.com".toList, none, by decide, by decide, by decide, by decide⟩
    [⟨"expires".toList, some "600".toList⟩] (by decide) (by decide))
  contactExpires := some 600
  challenge := some {
    params := [
      ⟨[' '], "nonce".toList, .plain "8f.1".toList (by decide) (by decide) (by decide),
        by decide, by decide, by decide⟩,
      ⟨[' '], "realm".toList, .quoted "b, c".toList (by decide),
        by decide, by decide, by decide⟩]
    realm := "b, c".toList
    nonce := "8f.1".toList
    realm_eq := by decide
    nonce_eq := by decide
    algorithm_known := by decide
    quality_known := by decide }
  status_low := by decide
  status_high := by decide
  reason_whole := by decide
  contact_expires := by decide
  first_callId := by decide
  first_via := by decide
  first_from := by decide
  first_to := by decide
  first_cseq := by decide
  first_expires := by decide
  first_minExpires := by decide
  first_contact := by decide
  first_challenge := by decide

/-- The refused registration, octet by octet, and the signal that it amounts to. -/
theorem decodes_to_response_challenged :
    Grammar.tokenizer.ReadsMessages ∧ Grammar.tokenizer.ReadsHeaders ∧
    challenged.octets = Octets.ofText ("SIP/2.0 401 Nein\r\n" ++
      "cseq: 4294967295 REGISTER\r\n" ++
      "TO: <sip:bob@b.com>;tag=b77\r\n" ++
      "X: 9\r\n" ++
      "expires: 1800\r\n" ++
      "Via: SIP/2.0/TCP b.com;branch=z9\r\n" ++
      "call-id: c7@biloxi\r\n" ++
      "Min-Expires: 60\r\n" ++
      "proxy-authenticate: Digest  nonce=8f.1, realm=\"b, c\"\r\n" ++
      "contact: <sip:al@a.com>;expires=600\r\n" ++
      "From: Al <sip:al@a.com>;tag=a6c\r\n\r\n" ++
      "\r\nSIP/2.0 200 OK") ∧
    (∃ m reason, Message.parse .tokenizer challenged.octets = .ok m ∧
      m.signal .tokenizer = .ok (.response {
        status := 401
        reason := reason
        method := .register
        callId := ⟨"c7@biloxi"⟩
        transaction := ⟨"z9"⟩
        body := Octets.ofText "\r\nSIP/2.0 200 OK"
        dialog := some ⟨⟨"c7@biloxi"⟩, "a6c", some "b77"⟩
        expires := some 1800
        contactExpires := some 600
        minExpires := some 60
        realm := some "b, c" })) ∧
    ∃ m r, Message.parse .tokenizer WrittenRequest.farewell.octets = .ok m ∧
      m.signal .tokenizer = .ok (.request r) ∧
      r.dialog = some ⟨⟨"c7@biloxi"⟩, "a6c", some "b77"⟩ := by
  obtain ⟨m, printed, hparse, -, hsignal, hrequest⟩ := challenged.decodes_to_response
    Grammar.readsMessages_tokenizer Grammar.readsHeaders_tokenizer
  refine ⟨Grammar.readsMessages_tokenizer, Grammar.readsHeaders_tokenizer, by decide +kernel,
    ⟨m, Message.reasonOf printed, hparse, hsignal⟩, ?_⟩
  exact hrequest WrittenRequest.farewell rfl rfl rfl _ rfl

end WrittenResponse

end SipAgent
