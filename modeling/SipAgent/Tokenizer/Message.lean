import SipAgent.Grammar.Basic
import SipAgent.Text.Octets
import SipAgent.Tokenizer.Fields
import SipAgent.Tokenizer.Status

/-!
# Reading messages

A message is a start line, headers and a body. It is read from octets: the start line octet by
octet, names and values of headers as text, the body as it stands. With it, there is a reader for
everything that the agent asks of a grammar.
-/

namespace SipAgent

open Text

namespace Tokenizer

/-! ### Start lines -/

/-- Whether the parts of an address, given with one character per octet, are text. -/
def isText (parts : Parts) : Bool :=
  let pieces :=
    [parts.user, parts.password, some parts.host,
      match parts.scheme with
      | some (.other name) => some name
      | _ => none]
  pieces.all fun piece =>
    match piece with
    | some cs => (Octets.decode? cs).isSome
    | none => true

/-- Read a version that is understood, and the rest of the text. -/
def readVersion (cs : List Char) : Option (Version × List Char) :=
  match Version.read cs with
  | some (version, rest) =>
    match version.check with
    | .ok () => some (version, rest)
    | .error _ => none
  | none => none

/-- Read the address of a request, and the rest of the text. -/
def readTarget (cs : List Char) : Option (List Char) :=
  match Parts.read isTokenChar cs with
  | .error _ => none
  | .ok (parts, rest) =>
    match parts.check with
    | .error _ => none
    | .ok _ => if isText parts then some rest else none

/-- Read the start line of a request, and the rest of the text. -/
def readRequestLine (cs : List Char) : Option (WireMethod × List Char) := do
  let method ← WireMethod.read (cs.takeWhile isTokenChar)
  let cs ← dropWord [' '] (cs.dropWhile isTokenChar)
  let cs ← readTarget cs
  let cs ← dropWord [' '] cs
  let (_, cs) ← readVersion cs
  let cs ← dropWord lineEnd cs
  return (method, cs)

/-- The start line of a response as it is printed: a status that has a name goes by it. -/
def printedStatus (version : Version) (code : UInt16) (text : String) : String :=
  String.ofList ("SIP/".toList ++ version.major ++ '.' :: version.minor ++
    ' ' :: decimal code.toNat ++ ' ' :: ((statusName? code).getD text).toList ++ lineEnd)

/-- Read the start line of a response, and the rest of the text. -/
def readStatusLine (cs : List Char) : Option (UInt16 × String × List Char) := do
  let (version, cs) ← readVersion cs
  guard (cs.head?.any isLineBlank)
  let cs := cs.dropWhile isLineBlank
  guard (3 ≤ cs.length)
  let code ← (readUInt16 (cs.take 3)).toOption
  let cs ← dropWord [' '] (cs.drop 3)
  let (reason, cs) ← cutWord lineEnd cs
  let text ← Octets.decode? reason
  return (code, printedStatus version code text, cs)

/-! ### Headers and body -/

/-- Read one header from its line. -/
def readHeader (line : List Char) : Option Header :=
  match line.takeWhile isTokenChar, line.dropWhile isTokenChar with
  | name@(_ :: _), ':' :: rest =>
    (Octets.decode? (rest.dropWhile isLineBlank)).map fun value => ⟨.ofSpelling name, value⟩
  | _, _ => none

/-- Read the headers from their block; an empty block has none. -/
def readHeaders (block : List Char) : Option (List Header) :=
  if block.isEmpty then some [] else (lines block).mapM readHeader

/-- The block of headers and the body. The block ends at the first empty line; without one, it is
the first line. -/
def cutBody (cs : List Char) : Option (List Char × List Char) :=
  match cutWord (lineEnd ++ lineEnd) cs with
  | some split => some split
  | none => cutWord lineEnd cs

/-- Read the headers and the body, which follow the start line. -/
def readRest (cs : List Char) : Option (List Header × Octets) := do
  let (block, body) ← cutBody cs
  let headers ← readHeaders block
  return (headers, Octets.ofChars body)

/-- Read a request. -/
def readRequest (data : Octets) : Option WireRequest := do
  let (method, cs) ← readRequestLine data.chars
  let (headers, body) ← readRest cs
  return ⟨method, headers, body⟩

/-- Read a response. -/
def readResponse (data : Octets) : Option WireResponse := do
  let (code, printed, cs) ← readStatusLine data.chars
  let (headers, body) ← readRest cs
  return ⟨code, printed, headers, body⟩

/-- The value of the first header with a name, which has to be there. -/
def findHeader (name : HeaderName) (headers : List Header) : Except WireError String :=
  match Header.first? name headers with
  | some value => .ok value
  | none => .error (.missing name)

end Tokenizer

/-- The grammar of the readers of this library. -/
def Grammar.tokenizer : Grammar where
  address cs := (Tokenizer.readAddress cs).mapError Tokenizer.WireError.message
  request := Tokenizer.readRequest
  response := Tokenizer.readResponse
  header name headers := (Tokenizer.findHeader name headers).mapError Tokenizer.WireError.message
  party value :=
    ((Tokenizer.PartyParts.read value).map Tokenizer.PartyParts.party).mapError
      Tokenizer.WireError.message
  branch value :=
    ((Tokenizer.ViaParts.readParams value).map fun params =>
      (Param.lookup "branch" params).map String.ofList).mapError Tokenizer.WireError.message
  cseqMethod value := (Tokenizer.readCSeqMethod value).mapError Tokenizer.WireError.message
  seconds value := (readUInt32 value).toOption
  realm := Tokenizer.readChallengeRealm

end SipAgent
