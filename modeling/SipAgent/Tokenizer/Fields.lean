import SipAgent.Grammar.Basic
import SipAgent.Grammar.Challenge
import SipAgent.Tokenizer.Address
import SipAgent.Tokenizer.Version

/-!
# Reading header values

The header values that have a grammar of their own: Via, the parties in From, To and Contact, CSeq,
and the challenges of a server. A value is read as a whole before the meaning of its parts is
checked, from left to right.
-/

namespace SipAgent.Tokenizer

open Text

/-- A wrong part as a wire fault. -/
def liftPart {α : Type} : Except PartError α → Except WireError α
  | .ok value => .ok value
  | .error e => .error (.part e)

/-! ### Via -/

/-- The parts of a Via value: version, transport, the address of the sender, and parameters. -/
structure ViaParts where
  version : Version
  transport : List Char
  sender : Parts
  params : List Param
  deriving DecidableEq, Repr

namespace ViaParts

/-- Read a transport, which ends at the first space, the blanks after it, and the rest. -/
def readTransport (cs : List Char) : Option (List Char × List Char) :=
  match breakAt (· == ' ') cs with
  | ([], _) => none
  | (_, []) => none
  | (name, rest) => some (name, rest.dropWhile isLineBlank)

/-- Cut a Via value into its parts; what follows the parameters is ignored. -/
def read? (value : List Char) : Option ViaParts :=
  match Version.read value with
  | some (version, '/' :: cs) =>
    match readTransport cs with
    | none => none
    | some (transport, cs) =>
      match Parts.readBare cs with
      | .error _ => none
      | .ok (sender, rest) =>
        some ⟨version, transport, sender, (readParams isTextTokenChar rest).1⟩
  | _ => none

/-- Check the parts of a Via value. -/
def check (v : ViaParts) : Except PartError Unit := do
  v.version.check
  checkTransport v.transport
  let _ ← v.sender.check
  checkParams v.params

/-- The parameters of a Via value. -/
def readParams (value : List Char) : Except WireError (List Param) :=
  match read? value with
  | none => .error (.shape (.via (String.ofList value)))
  | some v =>
    match v.check with
    | .ok () => .ok v.params
    | .error e => .error (.part e)

end ViaParts

/-! ### Parties -/

/-- The parts of a From, To or Contact value. -/
structure PartyParts where
  /-- The text in front of the address. -/
  display : List Char
  reference : Uri.Reference
  params : List Param
  deriving DecidableEq, Repr

namespace PartyParts

/-- Read a party whose address stands in angle brackets. -/
def readBracketed (value display rest : List Char) : Except WireError PartyParts :=
  match cut '>' rest with
  | none => .error (.shape (.partyParts (String.ofList value)))
  | some (address, after) =>
    match readParams isTextTokenChar after with
    | (params, []) =>
      match Parts.read isTextTokenChar address with
      | .error _ => .error (.shape (.partyUri (String.ofList value)))
      | .ok (parts, _) => do
        let reference ← liftPart parts.check
        liftPart (checkParams params)
        return ⟨display, reference, params⟩
    | _ => .error (.shape (.partyParams (String.ofList value)))

/-- Read a party whose address stands by itself: parameters belong to the party. -/
def readBare (value : List Char) : Except WireError PartyParts :=
  match Parts.readBare value with
  | .error e => .error (.shape e)
  | .ok (parts, rest) => do
    let params := (readParams isTextTokenChar rest).1
    let reference ← liftPart parts.check
    liftPart (checkParams params)
    return ⟨[], reference, params⟩

/-- Read a party. -/
def read (value : List Char) : Except WireError PartyParts :=
  match cut '<' value with
  | some (display, rest) => readBracketed value display rest
  | none => readBare value

/-- The party that the parts make up. -/
def party (p : PartyParts) : Party where
  display :=
    match trim isBlank p.display with
    | [] => none
    | display => some (String.ofList display)
  reference := p.reference
  tag := (Param.lookup "tag" p.params).map String.ofList
  expires := (Param.lookup "expires" p.params).bind fun digits => (readUInt32 digits).toOption

end PartyParts

/-! ### Sequence numbers -/

/-- The method of a CSeq value: a number, blanks and a method. -/
def readCSeqMethod (value : List Char) : Except WireError WireMethod :=
  match breakAt (· == ' ') value with
  | (_, []) => .error (.shape (.cseq (String.ofList value)))
  | (number, rest) =>
    match readUInt32 number with
    | .error cause => .error (.part (.number cause))
    | .ok _ =>
      let name := rest.dropWhile isLineBlank
      match WireMethod.read (trim isBlank name) with
      | some method => .ok method
      | none => .error (.part (.method (String.ofList name)))

/-! ### Challenges -/

namespace ChallengeParam

/-- The text between a quote at the start of a text and the next one, and what follows. -/
def cutQuoted : List Char → Option (List Char × List Char)
  | '"' :: rest => cut '"' rest
  | _ => none

/-- Read a value: quoted, or up to the next comma, else up to the next space, else to the end. -/
def readValue (cs : List Char) : List Char × List Char :=
  match cutQuoted cs with
  | some quoted => quoted
  | none =>
    match breakAt (· == ',') cs with
    | (value, rest@(_ :: _)) => (value, rest)
    | _ => breakAt (· == ' ') cs

/-- Read one parameter and the comma after it, and the rest of the text. -/
def read? (cs : List Char) : Option (ChallengeParam × List Char) :=
  match cut '=' (cs.dropWhile isLineBlank) with
  | none => none
  | some (name, afterName) =>
    match readValue afterName with
    | (value, ',' :: rest) => some (⟨name, value⟩, rest)
    | (value, rest) => some (⟨name, value⟩, rest)

theorem length_breakAt_le (p : Char → Bool) (cs : List Char) :
    (breakAt p cs).2.length ≤ cs.length :=
  length_dropWhile_le _ cs

theorem length_readValue_le (cs : List Char) : (readValue cs).2.length ≤ cs.length := by
  unfold readValue
  split
  · next quoted h =>
    unfold cutQuoted at h
    split at h
    · have hlt : quoted.2.length < _ := length_of_cut h
      simp only [List.length_cons]
      omega
    · exact absurd h (by simp)
  · have h := length_breakAt_le (· == ',') cs
    split
    · next heq => simpa [heq] using h
    · exact length_breakAt_le _ cs

/-- A parameter leaves less text than there was. -/
theorem length_of_read? {cs rest : List Char} {p : ChallengeParam}
    (h : read? cs = some (p, rest)) : rest.length < cs.length := by
  unfold read? at h
  have hblank := length_dropWhile_le isLineBlank cs
  split at h
  · exact absurd h (by simp)
  · next name afterName hcut =>
    have hname := length_of_cut hcut
    have hvalue := length_readValue_le afterName
    split at h
    · next heq =>
      simp only [Option.some.injEq, Prod.mk.injEq] at h
      rw [heq] at hvalue
      simp only [List.length_cons] at hvalue
      rw [← h.2]
      omega
    · next heq =>
      simp only [Option.some.injEq, Prod.mk.injEq] at h
      rw [heq] at hvalue
      simp only at hvalue
      rw [← h.2]
      omega

/-- Read parameters as long as there is one, and the rest of the text. -/
def readAll (cs : List Char) : List ChallengeParam × List Char :=
  match hread : read? cs with
  | none => ([], cs)
  | some (p, rest) =>
    have : rest.length < cs.length := length_of_read? hread
    let more := readAll rest
    (p :: more.1, more.2)
termination_by cs.length

end ChallengeParam

/-- The realm of a challenge. It counts only if the challenge reads to its end, has a realm and a
nonce, and names no unknown algorithm or quality of protection. -/
def readChallengeRealm (value : List Char) : Option String :=
  let afterScheme := (breakAt (· == ' ') (value.dropWhile isLineBlank)).2
  match ChallengeParam.readAll afterScheme with
  | (params@(_ :: _), []) =>
    match ChallengeParam.lookup "realm" params, ChallengeParam.lookup "nonce" params with
    | some realm, some _ =>
      if ChallengeParam.isAbsentOrIn "algorithm" ChallengeParam.algorithms params &&
          ChallengeParam.isAbsentOrIn "qop" ChallengeParam.qualities params then
        some (String.ofList realm)
      else none
    | _, _ => none
  | _ => none

end SipAgent.Tokenizer
