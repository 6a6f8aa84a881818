import SipAgent.Grammar.Param
import SipAgent.Method
import SipAgent.Tokenizer.Fault
import SipAgent.Uri.Reference

/-!
# Reading addresses

An address on the wire is an optional scheme, optional user information, a host with an optional
port, and parameters. Reading goes from left to right and has two stages: `Parts.read` cuts the text
into parts and can only fail for want of a host, and `Parts.check` gives each part its meaning.
What follows an address is returned as the rest of the text.
-/

namespace SipAgent.Tokenizer

open Text Uri

/-! ### Parameters -/

/-- Read one parameter after its semicolon, and the rest of the text. -/
def readParam (isToken : Char → Bool) (cs : List Char) : Param × List Char :=
  match cs.dropWhile isToken with
  | '=' :: rest =>
    (⟨cs.takeWhile isToken, some (rest.takeWhile isToken)⟩, rest.dropWhile isToken)
  | rest => (⟨cs.takeWhile isToken, none⟩, rest)

/-- A parameter leaves no more text than there was. -/
theorem length_readParam_le (isToken : Char → Bool) (cs : List Char) :
    (readParam isToken cs).2.length ≤ cs.length := by
  have hdrop := length_dropWhile_le isToken cs
  unfold readParam
  split
  · next rest heq =>
    have hrest := length_dropWhile_le isToken rest
    rw [heq, List.length_cons] at hdrop
    exact Nat.le_trans hrest (by omega)
  · next heq => simpa [heq] using hdrop

/-- Read the parameters at the start of a text, and the rest of the text. -/
def readParams (isToken : Char → Bool) : List Char → List Param × List Char
  | ';' :: cs =>
    let more := readParams isToken (readParam isToken cs).2
    ((readParam isToken cs).1 :: more.1, more.2)
  | rest => ([], rest)
termination_by cs => cs.length
decreasing_by
  have := length_readParam_le isToken cs
  simp only [List.length_cons]
  omega

/-- The name of a transport, in any ASCII letter case. -/
def checkTransport (name : List Char) : Except PartError Unit :=
  if Param.transports.any fun t => sameAnyCase t.toList name then .ok ()
  else .error (.transport (String.ofList name))

/-- A parameter for the transport or the method has to name one. -/
def checkParam (p : Param) : Except PartError Unit :=
  match p.value with
  | none => .ok ()
  | some value =>
    if p.isNamed "transport" then checkTransport value
    else if p.isNamed "method" then
      match WireMethod.read value with
      | some _ => .ok ()
      | none => .error (.method (String.ofList value))
    else .ok ()

/-- Check parameters in order; the first fault counts. -/
def checkParams : List Param → Except PartError Unit
  | [] => .ok ()
  | p :: more =>
    match checkParam p with
    | .ok () => checkParams more
    | .error e => .error e

/-! ### Parts -/

/-- The parts of an address, as they stand in a text. -/
structure Parts where
  scheme : Option Scheme
  user : Option (List Char)
  password : Option (List Char)
  host : List Char
  port : Option (List Char)
  params : List Param
  deriving DecidableEq, Repr

/-- Read the scheme. Other schemes than the two of SIP end at the first `://`, wherever it is. -/
def readScheme (cs : List Char) : Option Scheme × List Char :=
  match dropWordAnyCase "sip:".toList cs with
  | some rest => (some .sip, rest)
  | none =>
    match dropWordAnyCase "sips:".toList cs with
    | some rest => (some .sips, rest)
    | none =>
      match cutWord "://".toList cs with
      | some (name, rest) => (some (.other name), rest)
      | none => (none, cs)

/-- Read the user information: the text before an at sign, if no point comes first. -/
def readUserInfo (cs : List Char) : Option (List Char) × List Char :=
  match breakAt (fun c => c == '.' || c == '@') cs with
  | (before, '@' :: rest) => (some before, rest)
  | _ => (none, cs)

/-- Read an address without parameters, and the rest of the text. -/
def Parts.readBare (cs : List Char) : Except ShapeError (Parts × List Char) :=
  let (scheme, afterScheme) := readScheme cs
  let (info, afterInfo) := readUserInfo afterScheme
  let (location, rest) := breakAt (fun c => c == ';' || c == ' ') afterInfo
  if location.isEmpty then .error (.host (String.ofList afterInfo))
  else
    let user := info.map fun i => (cutOptional ':' i).1
    let password := info.bind fun i => (cutOptional ':' i).2
    let (host, port) := cutOptional ':' location
    .ok (⟨scheme, user, password, host, port, []⟩, rest)

/-- Read an address with its parameters, and the rest of the text. -/
def Parts.read (isToken : Char → Bool) (cs : List Char) : Except ShapeError (Parts × List Char) :=
  match Parts.readBare cs with
  | .ok (parts, rest) =>
    let (params, rest) := readParams isToken rest
    .ok ({ parts with params := params }, rest)
  | .error e => .error e

/-! ### Meaning -/

/-- Read a port, if there is one. -/
def checkPort : Option (List Char) → Except PartError (Option UInt16)
  | none => .ok none
  | some digits =>
    match readUInt16 digits with
    | .ok port => .ok (some port)
    | .error cause => .error (.number cause)

/-- Give the parts of an address their meaning; of two faults, the one further left counts. -/
def Parts.check (parts : Parts) : Except PartError Reference :=
  match checkPort parts.port with
  | .error e => .error e
  | .ok port =>
    match checkParams parts.params with
    | .error e => .error e
    | .ok () => .ok ⟨parts.scheme, parts.user, parts.host, port⟩

/-- Read the address at the start of a text. -/
def readAddress (cs : List Char) : Except WireError Reference :=
  match Parts.read isTokenChar cs with
  | .error e => .error (.shape e)
  | .ok (parts, _) =>
    match parts.check with
    | .error e => .error (.part e)
    | .ok reference => .ok reference

end SipAgent.Tokenizer
