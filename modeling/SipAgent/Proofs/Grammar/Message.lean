import SipAgent.Proofs.Grammar.Header
import SipAgent.Proofs.Text.Spelling

/-!
# The rules for messages

A message is a start line, headers on a line of their own each, an empty line and a body, which may
be any octets. The rules see one character for each octet. `Grammar.ReadsMessages` says that a
grammar reads the requests and responses that follow them.
-/

namespace SipAgent

open Text

variable {cs line : List Char} {q : WireRequest}

/-! ### Headers and body -/

/-- A line is a header: its name, a colon, blanks, and its value in UTF-8. -/
inductive HeaderAt : List Char → Header → Prop
  | intro {name gap spelled : List Char} {value : String} (ne : name ≠ [])
      (token : AllIn isTokenChar name) (blank : AllIn isLineBlank gap)
      (start : StartsIn (fun c => !isLineBlank c) spelled) (whole : '\r' ∉ spelled)
      (decodes : Octets.decode? spelled = some value) :
      HeaderAt (name ++ ':' :: (gap ++ spelled)) ⟨.ofSpelling name, value⟩

/-- A text starts with the lines of headers, and the body stands behind the first empty line. -/
inductive HeadersAt : List Char → List Header → List Char → Prop
  | last {line : List Char} {h : Header} (body : List Char) (header : HeaderAt line h) :
      HeadersAt (line ++ (lineEnd ++ (lineEnd ++ body))) [h] body
  | next {line rest body : List Char} {h : Header} {headers : List Header}
      (header : HeaderAt line h) (more : HeadersAt rest headers body) :
      HeadersAt (line ++ (lineEnd ++ rest)) (h :: headers) body

/-- A header has a name, and it ends where its line does. -/
lemma HeaderAt.line_eq {h : Header} (header : HeaderAt line h) :
    '\r' ∉ line ∧ ∃ c more, line = c :: more := by
  obtain ⟨hne, htoken, hblank, -, hwhole, -⟩ := header
  have hname := not_mem_of_class (c := '\r') htoken (by decide +kernel)
  have hgap := not_mem_of_class (c := '\r') hblank rfl
  obtain ⟨c, more, rfl⟩ := List.exists_cons_of_ne_nil hne
  exact ⟨by simp_all, c, _, rfl⟩

/-! ### Start lines -/

/-- The pieces of an address that might be any octets are of ASCII. -/
structure Uri.Pieces.IsAscii (x : Uri.Pieces) : Prop where
  scheme : ∀ name, x.scheme = some (.other name) → Octets.IsAscii name
  info : ∀ info ∈ x.info, Octets.IsAscii info
  place : Octets.IsAscii x.place

/-- A text is a request: a method, an address with a meaning, the version, headers and a body. -/
inductive RequestAt (cs : List Char) : WireRequest → Prop
  | intro {word target rest body : List Char} {method : WireMethod} {headers : List Header}
      {x : Uri.Pieces} {r : Uri.Reference} (text : cs = word ++ ' ' :: target)
      (token : AllIn isTokenChar word) (named : WireMethod.read word = some method)
      (pieces : Uri.PiecesAt isTokenChar target x (' ' :: (versionText ++ (lineEnd ++ rest))))
      (means : x.Means r) (ascii : x.IsAscii) (behind : HeadersAt rest headers body) :
      RequestAt cs ⟨method, headers, Octets.ofChars body⟩

/-- A text is a response: the version, a code of three digits, a reason, headers and a body. -/
inductive ResponseAt (cs : List Char) : UInt16 → List Header → Octets → Prop
  | intro {digits reason rest body : List Char} {code : UInt16} {headers : List Header}
      (text : cs = versionText ++ ' ' :: (digits ++ ' ' :: (reason ++ (lineEnd ++ rest))))
      (length : digits.length = 3) (digit : AllIn Char.isDigit digits)
      (number : readUInt16 digits = .ok code) (whole : '\r' ∉ reason)
      (decodes : (Octets.decode? reason).isSome = true) (behind : HeadersAt rest headers body) :
      ResponseAt cs code headers (Octets.ofChars body)

/-! ### Grammars -/

/-- The grammar reads what is written by the rules. The first word of whatever it reads as a request
is a method. How it prints a response is left open. -/
structure Grammar.ReadsMessages (g : Grammar) : Prop where
  request : ∀ data q, RequestAt data.chars q → g.request data = some q
  response : ∀ data code headers body, ResponseAt data.chars code headers body →
    ∃ printed, g.response data = some ⟨code, printed, headers, body⟩
  method : ∀ data q, g.request data = some q → ∃ word rest, data.chars = word ++ ' ' :: rest ∧
    AllIn isTokenChar word ∧ WireMethod.read word = some q.method

/-- A version is not a method, so a grammar takes no response for a request. -/
lemma Grammar.ReadsMessages.request_eq_none {g : Grammar} (hg : g.ReadsMessages) {data : Octets}
    {code : UInt16} {headers : List Header} {body : Octets}
    (h : ResponseAt data.chars code headers body) : g.request data = none := by
  by_contra hsome
  obtain ⟨q, hq⟩ := Option.ne_none_iff_exists'.mp hsome
  obtain ⟨word, rest, hword, htoken, -⟩ := hg.method data q hq
  obtain ⟨htext, -⟩ := h
  have hspace : ' ' ∉ word := not_mem_of_class htoken (by decide +kernel)
  have hversion : ' ' ∉ versionText := by decide
  obtain ⟨rfl, -⟩ := eq_of_append_cons (htext.symm.trans hword) hversion hspace
  exact not_mem_of_class (c := '/') htoken (by decide +kernel) (by decide)

end SipAgent
