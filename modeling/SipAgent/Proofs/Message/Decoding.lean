import SipAgent.Proofs.Message.Framing
import SipAgent.Proofs.Message.Written
import SipAgent.Proofs.Tokenizer.Message

/-!
# Requests that are read back

A request is written with its fields in any order and under any spelling of their names, with other
fields in between and any octets as its body. With a grammar that follows the rules, the message
that is read from it amounts to the request that was written, and the two tags are those of the own
side and of the peer.
-/

namespace SipAgent

open Text

namespace Message

variable {g : Grammar} {m : Message}

/-! ### Fields -/

lemma readHeader_of_first {α : Type} {name : HeaderName} {value : List Char}
    {read : List Char → Except String α} {a : α} (hg : g.FindsFirst)
    (h : Header.first? name m.headers = some (String.ofList value)) (hread : read value = .ok a) :
    m.readHeader g name read = .ok a := by
  simp only [readHeader, hg.header_eq h, String.toList_ofList, hread, Except.mapError]

lemma callId_of_first {value : List Char} (hg : g.FindsFirst)
    (h : Header.first? .callId m.headers = some (String.ofList value)) :
    m.callId g = .ok ⟨String.ofList value⟩ :=
  readHeader_of_first hg h rfl

lemma transaction_of_first {v : WrittenVia} (hg : g.ReadsHeaders)
    (h : Header.first? .via m.headers = some (String.ofList v.text)) :
    m.transaction g = .ok ⟨String.ofList v.branch⟩ := by
  simp only [transaction, readHeader_of_first hg.first h (hg.branch v)]

/-- The tag of a party is that among its parameters. -/
lemma tag_of_first {name : HeaderName} {value display : List Char} {r : Uri.Reference}
    {params : List Param} (hg : g.ReadsHeaders)
    (h : Header.first? name m.headers = some (String.ofList value))
    (hparty : PartyAt value display r params) : (m.readHeader g name g.party).map Party.tag =
      .ok ((Param.lookup "tag" params).map String.ofList) := by
  obtain ⟨q, hread, hsays⟩ := hg.party _ _ _ _ hparty
  rw [readHeader_of_first hg.first h hread, Except.map, hsays.tag]

lemma sender_of_first {p : WrittenParty} (hg : g.ReadsHeaders)
    (h : Header.first? .fromParty m.headers = some (String.ofList p.text)) :
    m.sender g = .ok p.peer := by
  obtain ⟨r, hpartyAt, hparty⟩ := p.exists_partyAt
  obtain ⟨q, hread, hsays⟩ := hg.party _ _ _ _ hpartyAt
  simp only [sender, readHeader_of_first hg.first h hread, hsays.reference, hparty,
    hsays.displayName_eq]
  rfl

/-- The own tag of a request stands in the To field. -/
lemma requestDialog_of_tags {own peer : WrittenParty} (hg : g.ReadsHeaders) (callId : CallId)
    (hto : Header.first? .toParty m.headers = some (String.ofList own.text))
    (hfrom : Header.first? .fromParty m.headers = some (String.ofList peer.text)) :
    m.requestDialog g callId =
      .ok (own.tag.map fun localTag => ⟨callId, localTag, peer.tag⟩) := by
  obtain ⟨_, hown, -⟩ := own.exists_partyAt
  obtain ⟨_, hpeer, -⟩ := peer.exists_partyAt
  rw [requestDialog, toTag, fromTag, tag_of_first hg hto hown, tag_of_first hg hfrom hpeer,
    ← WrittenParty.tag, ← WrittenParty.tag]
  cases own.tag with
  | none => rfl
  | some localTag => rfl

/-! ### The request line -/

lemma toNat_lt_of_isPlainChar {c : Char} (h : Uri.isPlainChar c = true) : c.toNat < 128 := by
  apply toNat_lt_of_isTokenChar
  simp only [Uri.isPlainChar, Bool.or_eq_true, beq_iff_eq] at h
  rcases h with (h | rfl) | rfl
  · rw [isTokenChar, h, Bool.true_or]
  · decide
  · decide

lemma isAscii_user (a : Uri.Account) : Octets.IsAscii a.user := fun c hc =>
  toNat_lt_of_isPlainChar (a.user_plain c hc)

lemma isAscii_host (a : Uri.Account) : Octets.IsAscii a.host := fun c hc =>
  toNat_lt_of_isPlainChar (a.host_plain c hc)

/-- The pieces of an account are of ASCII, also where the user is left in the host. -/
lemma isAscii_pieces (a : Uri.Account) : (a.uri.pieces []).IsAscii := by
  have hboth : Octets.IsAscii (a.user ++ '@' :: a.host) := by
    rw [Octets.isAscii_append, Octets.isAscii_cons]
    exact ⟨isAscii_user a, by decide, isAscii_host a⟩
  simp only [Uri.pieces, Uri.Account.uri, String.toList_ofList]
  split
  · constructor
    · rintro _ ⟨⟩
    · rintro _ ⟨⟩
    · exact hboth
  · constructor
    · rintro _ ⟨⟩
    · rintro _ ⟨⟩
      exact isAscii_user a
    · exact isAscii_host a

/-- The start line of a request. -/
def requestLine (method : Method) (target : Uri.Account) : List Char :=
  method.name.toList ++ ' ' :: (target.text ++ ' ' :: versionText)

lemma isAscii_requestLine (method : Method) (target : Uri.Account) :
    Octets.IsAscii (requestLine method target) := by
  have hmethod : Octets.IsAscii method.name.toList := by cases method <;> decide
  have htarget : Octets.IsAscii target.text := by
    rw [Uri.Account.text, Octets.isAscii_append, Octets.isAscii_append, Octets.isAscii_cons]
    exact ⟨by decide, isAscii_user target, by decide, isAscii_host target⟩
  have hversion : Octets.IsAscii versionText := by decide
  rw [requestLine, Octets.isAscii_append, Octets.isAscii_cons, Octets.isAscii_append,
    Octets.isAscii_cons]
  exact ⟨hmethod, by decide, htarget, by decide, hversion⟩

/-- By the rules a message with the start line of a request is that request. -/
lemma requestAt_written (method : Method) (target : Uri.Account) {fields : List WrittenField}
    (hfields : fields ≠ []) (body : Octets) :
    RequestAt (written (requestLine method target) fields body).chars
      ⟨.supported method, fields.map WrittenField.header, body⟩ := by
  obtain ⟨rest, htext, hbehind⟩ := exists_headersAt (requestLine method target) hfields body
  rw [Octets.spell_of_isAscii (isAscii_requestLine method target)] at htext
  have htoken : AllIn isTokenChar method.name.toList := by cases method <;> decide
  have hnamed : WireMethod.read method.name.toList = some (.supported method) := by
    cases method <;> decide
  have hpieces := target.piecesAt_text isTokenChar (versionText ++ (lineEnd ++ rest))
  obtain ⟨r, hmeans, -⟩ := target.spelled.legible.means_pieces (List.forall_mem_nil Param.Known)
  have hline : (written (requestLine method target) fields body).chars =
      method.name.toList ++ ' ' :: (target.text ++ ' ' :: (versionText ++ (lineEnd ++ rest))) := by
    rw [htext, requestLine]
    simp
  have hrequest :=
    RequestAt.intro hline htoken hnamed hpieces hmeans (isAscii_pieces target) hbehind
  rwa [Octets.ofChars_chars] at hrequest

end Message

/-! ### Requests -/

/-- A request as it is written. Of the fields with the same name, only the first one counts. -/
structure WrittenRequest where
  method : Method
  target : Uri.Account
  fields : List WrittenField
  body : Octets
  callId : List Char
  via : WrittenVia
  sender : WrittenParty
  recipient : WrittenParty
  first_callId : WrittenField.first? "Call-ID" fields = some callId
  first_via : WrittenField.first? "Via" fields = some via.text
  first_from : WrittenField.first? "From" fields = some sender.text
  first_to : WrittenField.first? "To" fields = some recipient.text

namespace WrittenRequest

variable (w : WrittenRequest)

/-- The octets of the request. -/
def octets : Octets :=
  Message.written (Message.requestLine w.method w.target) w.fields w.body

/-- The message that the request is. -/
def message : Message :=
  ⟨.request (.supported w.method), w.fields.map WrittenField.header, w.body⟩

/-- The request that is written. The peer wrote its own tag in the From field. -/
def request : Request where
  method := w.method
  callId := ⟨String.ofList w.callId⟩
  transaction := ⟨String.ofList w.via.branch⟩
  sender := w.sender.peer
  body := w.body
  dialog := w.recipient.tag.map fun localTag => ⟨⟨String.ofList w.callId⟩, localTag, w.sender.tag⟩

/-- A grammar that follows the rules reads the message. -/
lemma parse_octets {g : Grammar} (hg : g.ReadsMessages) :
    Message.parse g w.octets = .ok w.message := by
  have hfields := WrittenField.ne_nil_of_first? w.first_callId
  have hread := hg.request _ _ (Message.requestAt_written w.method w.target hfields w.body)
  simp only [Message.parse, octets, hread]
  rfl

lemma requestSignal_message {g : Grammar} (hg : g.ReadsHeaders) :
    w.message.requestSignal g (.supported w.method) = .ok w.request := by
  have hheader : ∀ {name spelling value}, (name, spelling) ∈ HeaderName.known →
      WrittenField.first? spelling w.fields = some value →
      Header.first? name w.message.headers = some (String.ofList value) := by
    intro name spelling value hknown hfirst
    rw [message, WrittenField.first?_map_header hknown, hfirst, Option.map_some]
  have hcallId := Message.callId_of_first hg.first (hheader (by decide) w.first_callId)
  have htransaction := Message.transaction_of_first hg (hheader (by decide) w.first_via)
  have hfrom : Header.first? .fromParty w.message.headers = some (String.ofList w.sender.text) :=
    hheader (by decide) w.first_from
  have hto : Header.first? .toParty w.message.headers = some (String.ofList w.recipient.text) :=
    hheader (by decide) w.first_to
  have hsender := Message.sender_of_first hg hfrom
  have hdialog := Message.requestDialog_of_tags hg ⟨String.ofList w.callId⟩ hto hfrom
  simp only [Message.requestSignal, WireMethod.method?, hcallId, htransaction, hsender, bind,
    Except.bind, hdialog]
  rfl

/-- With a grammar that follows the rules, a request that is written is read as a request, and the
signal that it amounts to is the one that was written. -/
theorem decodes_to_request {g : Grammar} (hm : g.ReadsMessages) (hh : g.ReadsHeaders) :
    ∃ m, Message.parse g w.octets = .ok m ∧ m.start = .request (.supported w.method) ∧
      m.signal g = .ok (.request w.request) := by
  refine ⟨w.message, w.parse_octets hm, rfl, ?_⟩
  have hsignal := w.requestSignal_message hh
  simp only [Message.signal, message] at hsignal ⊢
  rw [hsignal]
  rfl

/-- A farewell within a dialog, with its fields in disorder and a body that looks like a field. -/
def farewell : WrittenRequest where
  method := .bye
  target := ⟨"al".toList, "10.0.0.1".toList, by decide, by decide, by decide, by decide⟩
  fields := [
    ⟨"TO".toList, " ".toList, "\"Al Ice\" <sip:al@ice.com>;tag=a6c".toList,
      by decide, by decide, by decide, by decide, by decide⟩,
    ⟨"X-Ray".toList, [], "Via: nowhere".toList,
      by decide, by decide, by decide, by decide, by decide⟩,
    ⟨"Via".toList, " ".toList, "SIP/2.0/UDP 10.0.0.2:5060;branch=z9hG4bK7".toList,
      by decide, by decide, by decide, by decide, by decide⟩,
    ⟨"via".toList, " ".toList, "SIP/2.0/UDP 10.0.0.3".toList,
      by decide, by decide, by decide, by decide, by decide⟩,
    ⟨"from".toList, " ".toList, "<sip:bob.smith@biloxi.com>;tag=b77".toList,
      by decide, by decide, by decide, by decide, by decide⟩,
    ⟨"call-id".toList, " ".toList, "c7@biloxi".toList,
      by decide, by decide, by decide, by decide, by decide⟩]
  body := Octets.ofText "\r\n\r\nCall-ID: none"
  callId := "c7@biloxi".toList
  via := ⟨"UDP", "10.0.0.2".toList, some 5060,
    [⟨"branch".toList, some "z9hG4bK7".toList⟩], "z9hG4bK7".toList,
    by decide, by decide, by decide, by decide, by decide⟩
  sender := ⟨.bracket, ⟨"bob.smith".toList, "biloxi.com".toList, by decide, by decide,
    by decide, by decide⟩, [⟨"tag".toList, some "b77".toList⟩], by decide⟩
  recipient := ⟨.quoted ⟨"Al Ice".toList, " ".toList, by decide, by decide, by decide, by decide,
    by decide⟩, ⟨"al".toList, "ice.com".toList, by decide, by decide, by decide, by decide⟩,
    [⟨"tag".toList, some "a6c".toList⟩], by decide⟩
  first_callId := by decide
  first_via := by decide
  first_from := by decide
  first_to := by decide

/-- The farewell, octet by octet, and the signal that it amounts to. -/
theorem decodes_to_request_farewell :
    Grammar.tokenizer.ReadsMessages ∧ Grammar.tokenizer.ReadsHeaders ∧
    farewell.octets = Octets.ofText ("BYE sip:al@10.0.0.1 SIP/2.0\r\n" ++
      "TO: \"Al Ice\" <sip:al@ice.com>;tag=a6c\r\n" ++
      "X-Ray:Via: nowhere\r\n" ++
      "Via: SIP/2.0/UDP 10.0.0.2:5060;branch=z9hG4bK7\r\n" ++
      "via: SIP/2.0/UDP 10.0.0.3\r\n" ++
      "from: <sip:bob.smith@biloxi.com>;tag=b77\r\n" ++
      "call-id: c7@biloxi\r\n\r\n" ++
      "\r\n\r\nCall-ID: none") ∧
    ∃ m, Message.parse .tokenizer farewell.octets = .ok m ∧ m.signal .tokenizer = .ok (.request {
      method := .bye
      callId := ⟨"c7@biloxi"⟩
      transaction := ⟨"z9hG4bK7"⟩
      sender := ⟨⟨some "bob.smith", "biloxi.com", none⟩, none⟩
      body := Octets.ofText "\r\n\r\nCall-ID: none"
      dialog := some ⟨⟨"c7@biloxi"⟩, "a6c", some "b77"⟩ }) := by
  obtain ⟨m, hparse, -, hsignal⟩ := farewell.decodes_to_request Grammar.readsMessages_tokenizer
    Grammar.readsHeaders_tokenizer
  exact ⟨Grammar.readsMessages_tokenizer, Grammar.readsHeaders_tokenizer, by decide +kernel, m,
    hparse, hsignal⟩

end WrittenRequest

end SipAgent
