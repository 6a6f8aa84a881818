import SipAgent.Grammar.Basic
import SipAgent.Grammar.Challenge
import SipAgent.Proofs.Grammar.Address
import SipAgent.Text.Numeral

/-!
# The rules for headers

A header is found by its name, and the first one with a name counts. The values that the agent asks
for have rules of their own: hops, parties, sequence numbers, seconds and challenges.
`Grammar.ReadsHeaders` says that a grammar reads what is written by these rules. What it makes of
other values is left open.
-/

namespace SipAgent

open Text

/-! ### Hops -/

/-- The version that is written everywhere. -/
def versionText : List Char :=
  "SIP/2.0".toList

/-- A hop as it is written: the transport, the place that a response goes to, and parameters with
the branch among them. -/
structure WrittenVia where
  transport : String
  host : List Char
  port : Option UInt16
  params : List Param
  branch : List Char
  transport_mem : transport ∈ Param.transports
  host_ne : host ≠ []
  host_plain : AllIn Uri.isPlainChar host
  params_plain : ∀ p ∈ params, p.Plain isTextTokenChar
  branch_eq : Param.lookup "branch" params = some branch

namespace WrittenVia

/-- The place that a response goes to. -/
def location (v : WrittenVia) : List Char :=
  v.host ++ Uri.portText (v.port.map fun port => decimal port.toNat)

/-- The value of the header. -/
def text (v : WrittenVia) : List Char :=
  versionText ++ '/' :: (v.transport.toList ++ ' ' :: (v.location ++ v.params.flatMap Param.text))

end WrittenVia

/-! ### Parties -/

/-- A text is a party, with this text in front of its address, what the address refers to, and these
parameters. The address stands in angle brackets, and the parameters behind them, or it stands by
itself, and all parameters are those of the party. -/
inductive PartyAt : List Char → List Char → Uri.Reference → List Param → Prop
  | bracketed {display address : List Char} {r : Uri.Reference} {params : List Param}
      (opens : '<' ∉ display) (closes : '>' ∉ address)
      (tokens : ∀ p ∈ params, p.Tokens isTextTokenChar) (known : ∀ p ∈ params, p.Known)
      (follows : Uri.Follows isTextTokenChar address r) :
      PartyAt (display ++ '<' :: (address ++ '>' :: params.flatMap Param.text)) display r params
  | bare {cs : List Char} {x : Uri.Pieces} {r : Uri.Reference} (opens : '<' ∉ cs)
      (pieces : Uri.PiecesAt isTextTokenChar cs x []) (means : x.Means r) :
      PartyAt cs [] r x.params

/-- What is read in a party is what it says. -/
structure Party.Says (q : Party) (display : List Char) (r : Uri.Reference) (params : List Param) :
    Prop where
  display : (q.display.getD "").toList = trim isBlank display
  reference : q.reference = r
  tag : q.tag = (Param.lookup "tag" params).map String.ofList
  expires : q.expires =
    (Param.lookup "expires" params).bind fun digits => (readUInt32 digits).toOption

/-! ### Sequence numbers -/

/-- The value of a CSeq header: a number, and the method that it counts for. -/
def cseqText (number : UInt32) (method : WireMethod) : List Char :=
  decimal number.toNat ++ ' ' :: method.name.toList

/-! ### Challenges -/

namespace ChallengeParam

/-- A value as it is written: in quotes, where it may hold commas, or by itself. -/
inductive SpelledValue where
  | quoted (cs : List Char) (closed : '"' ∉ cs)
  | plain (cs : List Char) (unquoted : StartsIn (· != '"') cs) (comma : ',' ∉ cs) (space : ' ' ∉ cs)

/-- A parameter of a challenge as it is written: blanks, a name and a value. -/
structure Spelled where
  gap : List Char
  name : List Char
  value : SpelledValue
  gap_blank : AllIn isLineBlank gap
  name_start : StartsIn (fun c => !isLineBlank c) name
  name_whole : '=' ∉ name

/-- What a value says. -/
def SpelledValue.content : SpelledValue → List Char
  | .quoted cs _ => cs
  | .plain cs _ _ _ => cs

/-- The value as it is written. -/
def SpelledValue.text : SpelledValue → List Char
  | .quoted cs _ => '"' :: (cs ++ ['"'])
  | .plain cs _ _ _ => cs

namespace Spelled

/-- The parameter that is written. -/
def param (p : Spelled) : ChallengeParam :=
  ⟨p.name, p.value.content⟩

/-- The parameter as it is written. -/
def text (p : Spelled) : List Char :=
  p.gap ++ (p.name ++ '=' :: p.value.text)

/-- Parameters as they are written, with a comma between each two. -/
def textAll : List Spelled → List Char
  | [] => []
  | p :: more => p.text ++ more.flatMap fun q => ',' :: q.text

end Spelled

end ChallengeParam

/-- A challenge as it is written. It has a realm and a nonce, and it asks for nothing unknown. -/
structure WrittenChallenge where
  params : List ChallengeParam.Spelled
  realm : List Char
  nonce : List Char
  realm_eq : ChallengeParam.lookup "realm" (params.map (·.param)) = some realm
  nonce_eq : ChallengeParam.lookup "nonce" (params.map (·.param)) = some nonce
  algorithm_known :
    ChallengeParam.isAbsentOrIn "algorithm" ChallengeParam.algorithms (params.map (·.param)) = true
  quality_known :
    ChallengeParam.isAbsentOrIn "qop" ChallengeParam.qualities (params.map (·.param)) = true

/-- The value of the header. -/
def WrittenChallenge.text (c : WrittenChallenge) : List Char :=
  "Digest".toList ++ ' ' :: ChallengeParam.Spelled.textAll c.params

/-! ### Grammars -/

namespace Grammar

/-- The grammar finds the first header with a name, or fails if there is none. -/
def FindsFirst (g : Grammar) : Prop :=
  ∀ name headers, (g.header name headers).toOption = Header.first? name headers

/-- The grammar hands the text between the angle brackets of a party to its reader of addresses. -/
def HandsOver (g : Grammar) (display address after : List Char) : Prop :=
  ∀ r, (∃ q, g.party (display ++ '<' :: (address ++ '>' :: after)) = .ok q ∧ q.reference = r) ↔
    g.address address = .ok r

/-- The grammar finds headers by their names, and it reads values that are written by the rules. -/
structure ReadsHeaders (g : Grammar) : Prop where
  first : g.FindsFirst
  branch : ∀ v : WrittenVia, g.branch v.text = .ok (some (String.ofList v.branch))
  party : ∀ cs display r params, PartyAt cs display r params →
    ∃ q, g.party cs = .ok q ∧ q.Says display r params
  cseqMethod : ∀ number method, g.cseqMethod (cseqText number method) = .ok method
  seconds : ∀ n : UInt32, g.seconds (decimal n.toNat) = some n
  realm : ∀ c : WrittenChallenge, g.realm c.text = some (String.ofList c.realm)

variable {g : Grammar} {name : HeaderName} {headers : List Header}

lemma FindsFirst.header_eq {value : String} (h : g.FindsFirst)
    (hfirst : Header.first? name headers = some value) : g.header name headers = .ok value := by
  have hsome := (h name headers).trans hfirst
  cases hheader : g.header name headers with
  | error e => simp [hheader, Except.toOption] at hsome
  | ok v =>
    rw [hheader] at hsome
    exact congrArg Except.ok (Option.some.inj hsome)

lemma FindsFirst.header_ne {value : String} (h : g.FindsFirst)
    (hfirst : Header.first? name headers = none) : g.header name headers ≠ .ok value := by
  intro hheader
  have hnone := (h name headers).trans hfirst
  rw [hheader] at hnone
  cases hnone

end Grammar

end SipAgent
