import SipAgent.Message.Basic
import SipAgent.Transport.Signal

/-!
# Messages as signals

What the agent reads from the headers of a message, and the signal that a message amounts to.
-/

namespace SipAgent

open Text

namespace Message

/-! ### Headers -/

/-- Read the header with a name; a fault of the grammar is one of the message. -/
def readHeader {α : Type} (g : Grammar) (m : Message) (name : HeaderName)
    (read : List Char → Except String α) : Except AgentError α :=
  match g.header name m.headers with
  | .error e => .error (.message e)
  | .ok value => (read value.toList).mapError .message

/-- The Call-ID of a message. -/
def callId (g : Grammar) (m : Message) : Except AgentError CallId :=
  m.readHeader g .callId fun value => .ok ⟨String.ofList value⟩

/-- The transaction of a message: the branch of its first Via header. -/
def transaction (g : Grammar) (m : Message) : Except AgentError TransactionId :=
  match m.readHeader g .via g.branch with
  | .error e => .error e
  | .ok (some branch) => .ok ⟨branch⟩
  | .ok none => .error (.message "missing Via branch")

/-- The tag of the party in the From header. -/
def fromTag (g : Grammar) (m : Message) : Except AgentError (Option Tag) :=
  (m.readHeader g .fromParty g.party).map Party.tag

/-- The tag of the party in the To header. -/
def toTag (g : Grammar) (m : Message) : Except AgentError (Option Tag) :=
  (m.readHeader g .toParty g.party).map Party.tag

/-! ### Requests -/

/-- The display name of a party, without the quotes around it; none if nothing is left. -/
def displayName (display : String) : Option String :=
  match trim isBlank (trim (· == '"') display.toList) with
  | [] => none
  | name => some (String.ofList name)

/-- The party in the From header, as a peer. -/
def sender (g : Grammar) (m : Message) : Except AgentError Peer :=
  match m.readHeader g .fromParty g.party with
  | .error e => .error e
  | .ok party =>
    match party.reference.party with
    | .error e => .error (.invalidUri e.message)
    | .ok uri => .ok ⟨uri, party.display.bind displayName⟩

/-! ### Responses -/

/-- The reason of a response: what stands behind the second space of the first line that is printed
for it. -/
def reasonOf (printed : String) : String :=
  match cut ' ' (breakAt (· == '\n') printed.toList).1 with
  | none => ""
  | some (_, afterVersion) =>
    match cut ' ' afterVersion with
    | none => ""
    | some (_, reason) => trimmed (String.ofList reason)

/-- The method in the CSeq header. -/
def cseqMethod (g : Grammar) (m : Message) : Except AgentError Method :=
  match m.readHeader g .cseq g.cseqMethod with
  | .error e => .error e
  | .ok method =>
    match method.method? with
    | some known => .ok known
    | none => .error (.message ("unsupported CSeq method " ++ method.name))

/-- The seconds that a header states. -/
def seconds? (g : Grammar) (m : Message) (name : HeaderName) : Option UInt32 :=
  match g.header name m.headers with
  | .error _ => none
  | .ok value => g.seconds value.toList

/-- The lifetime that the Contact header states. -/
def contactExpires (g : Grammar) (m : Message) : Option UInt32 :=
  match m.readHeader g .contact g.party with
  | .error _ => none
  | .ok party => party.expires

/-- The realm of the first challenge that can be read. -/
def realm (g : Grammar) (m : Message) : Option String :=
  m.headers.findSome? fun h =>
    if h.name = .wwwAuthenticate ∨ h.name = .proxyAuthenticate then g.realm h.value.toList else none

/-! ### Signals -/

/-- The dialog of a request. The own tag stands in the To header, and there is a dialog only if it
does. -/
def requestDialog (g : Grammar) (m : Message) (callId : CallId) :
    Except AgentError (Option Dialog) := do
  match ← m.toTag g with
  | none => return none
  | some localTag =>
    let remoteTag ← m.fromTag g
    return some ⟨callId, localTag, remoteTag⟩

/-- The dialog of a response. The own tag stands in the From header, and there is a dialog only if
both tags are there. -/
def responseDialog (g : Grammar) (m : Message) (callId : CallId) :
    Except AgentError (Option Dialog) := do
  let fromTag ← m.fromTag g
  let toTag ← m.toTag g
  match fromTag, toTag with
  | some localTag, some remoteTag => return some ⟨callId, localTag, some remoteTag⟩
  | _, _ => return none

/-- A request as a signal. -/
def requestSignal (g : Grammar) (m : Message) (wireMethod : WireMethod) :
    Except AgentError Request :=
  match wireMethod.method? with
  | none => .error (.message ("unsupported method " ++ wireMethod.name))
  | some method => do
    let callId ← m.callId g
    let transaction ← m.transaction g
    let dialog ← m.requestDialog g callId
    let sender ← m.sender g
    return ⟨method, callId, transaction, sender, m.body, dialog⟩

/-- A response as a signal. -/
def responseSignal (g : Grammar) (m : Message) (code : UInt16) (printed : String) :
    Except AgentError Response := do
  let method ← m.cseqMethod g
  let callId ← m.callId g
  let transaction ← m.transaction g
  let dialog ← m.responseDialog g callId
  let bare := Response.answering ⟨transaction, method, callId⟩ code (reasonOf printed)
  return { bare with
    body := m.body, dialog := dialog, expires := m.seconds? g .expires,
    contactExpires := m.contactExpires g, minExpires := m.seconds? g .minExpires,
    realm := m.realm g }

/-- The signal that a message amounts to. -/
def signal (g : Grammar) (m : Message) : Except AgentError Signal :=
  match m.start with
  | .request method => (m.requestSignal g method).map .request
  | .status code printed => (m.responseSignal g code printed).map .response

end Message

end SipAgent
