import SipAgent.Message.Header
import SipAgent.Text.Numeral

/-!
# Faults in wire texts

Why a text of a message, or an address, does not follow the grammar of the wire. A text either has
the wrong shape, or it has the right shape and one of its parts has no meaning.
-/

namespace SipAgent.Tokenizer

/-- A part of a wire text that has no meaning. -/
inductive PartError where
  | number (cause : Text.NumeralError)
  | transport (name : String)
  | method (name : String)
  | version
  deriving DecidableEq, Repr

/-- The wording of a part without meaning. -/
def PartError.message : PartError → String
  | .number cause => cause.message
  | .transport name => "unknown transport: " ++ name
  | .method name => "invalid method: " ++ name
  | .version => "Unrecognized SIP version"

/-- A wire text with the wrong shape, and the text at which reading gave up. -/
inductive ShapeError where
  | host (rest : String)
  | via (value : String)
  | partyParts (value : String)
  | partyParams (value : String)
  | partyUri (value : String)
  | cseq (value : String)
  deriving DecidableEq, Repr

/-- The wording of a wrong shape. -/
def ShapeError.message : ShapeError → String
  | .host rest => "failed to tokenize host with port: " ++ rest
  | .via value => "failed to tokenize via (typed) header: " ++ value
  | .partyParts value => "failed to tokenize header parts: " ++ value
  | .partyParams value =>
    "failed to tokenize params tokenizing left trailing input: " ++ value
  | .partyUri value => "failed to tokenize URI in addr-spec: " ++ value
  | .cseq value => "failed to tokenize cseq header: " ++ value

/-- Why a wire text was not understood. -/
inductive WireError where
  | shape (cause : ShapeError)
  | part (cause : PartError)
  | missing (header : HeaderName)
  deriving DecidableEq, Repr

/-- The word for a header in the report that it is missing. -/
def reportName : HeaderName → String
  | .callId => "CallID"
  | .via => "Via"
  | .fromParty => "From"
  | .toParty => "To"
  | .cseq => "CSeq"
  | .contact => "Contact"
  | .expires => "Expires"
  | .minExpires => "MinExpires"
  | .wwwAuthenticate => "WwwAuthenticate"
  | .proxyAuthenticate => "ProxyAuthenticate"
  | .other name => name

/-- The wording of a wire fault. -/
def WireError.message : WireError → String
  | .shape cause => "Tokenizer error: " ++ cause.message
  | .part cause => "rsip error: could not parse part: " ++ cause.message
  | .missing header => "rsip error: missing header: " ++ reportName header

end SipAgent.Tokenizer
