import SipAgent.Text.Cut
import SipAgent.Uri.Basic

/-!
# References and parties

A reference is what a grammar makes of an address on the wire: its scheme and what locates a party.
It names the party of an address only if the scheme is one of SIP and neither user nor host is
empty. The grammar leaves a user that holds a point in front of the host, and it is cut out here.
-/

namespace SipAgent

open Text

namespace Uri

/-- The scheme of an address. -/
inductive Scheme where
  | sip
  | sips
  | other (name : List Char)
  deriving DecidableEq, Repr

/-- What an address refers to: its scheme, and what locates the party. -/
structure Reference where
  scheme : Option Scheme
  user : Option (List Char)
  host : List Char
  port : Option UInt16
  deriving DecidableEq, Repr

/-- Why a reference is not the address of a party. -/
inductive PartyError where
  | notSip
  | emptyUser
  | emptyHost
  deriving DecidableEq, Repr

/-- The wording of a reference that names no party. -/
def PartyError.message : PartyError → String
  | .notSip => "not a sip: URI"
  | .emptyUser => "empty user part"
  | .emptyHost => "empty host"

/-- The user and the host of a reference. A user that holds a point stands in front of the host. -/
def Reference.userAndHost (r : Reference) : Option (List Char) × List Char :=
  match r.user, cut '@' r.host with
  | none, some (user, host) => (some user, host)
  | user, _ => (user, r.host)

/-- The party that a reference names, if its scheme is one of SIP and neither user nor host is
empty. -/
def Reference.party (r : Reference) : Except PartyError Uri :=
  match r.scheme with
  | some .sip | some .sips =>
    let (user, host) := r.userAndHost
    if user = some [] then .error .emptyUser
    else if host = [] then .error .emptyHost
    else .ok ⟨user.map String.ofList, String.ofList host, r.port⟩
  | _ => .error .notSip

end Uri

end SipAgent
