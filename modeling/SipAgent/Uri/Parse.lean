import SipAgent.Error
import SipAgent.Grammar.Basic
import SipAgent.Net.IPv6

/-!
# Reading an address

`Uri.parse` reads the address of a party from a text that a user or a peer wrote. Blanks and angle
brackets around it are dropped. A grammar ends a host at the first colon, so an IPv6 address in
brackets is taken out first, a name stands in for it while the grammar reads the rest, and the host
is then that address in canonical form.
-/

namespace SipAgent

open Text

namespace Uri

/-- Why a text is not the address of a party. -/
inductive ParseError where
  | badIPv6
  | grammar (cause : String)
  | party (cause : PartyError)
  deriving DecidableEq, Repr

/-- The wording of a refused address, without the text that was refused. -/
def ParseError.message : ParseError → String
  | .badIPv6 => "bad IPv6 reference"
  | .grammar cause => cause
  | .party cause => (AgentError.invalidUri cause.message).text

/-- The host name that stands in for an IPv6 address. -/
def ipv6Placeholder : List Char :=
  "ipv6-reference.invalid".toList

/-- The text without blanks at its ends, angle brackets in front and angle brackets behind. -/
def bareText (cs : List Char) : List Char :=
  dropTail (· == '>') ((trim isBlank cs).dropWhile (· == '<'))

/-- The text before the first bracket pair, in it and after it: the first opening bracket and the
first closing bracket, provided that they stand in this order. -/
def cutBrackets (cs : List Char) : Option (List Char × List Char × List Char) :=
  match cut '[' cs with
  | none => none
  | some (before, rest) =>
    if ']' ∈ before then none
    else (cut ']' rest).map fun (inside, after) => (before, inside, after)

/-- Read the address of a party from a bare text as the grammar does. -/
def parsePlain (g : Grammar) (cs : List Char) : Except ParseError Uri :=
  match g.address cs with
  | .error e => .error (.grammar e)
  | .ok reference =>
    match reference.party with
    | .error e => .error (.party e)
    | .ok uri => .ok uri

/-- Read the address of a party from a bare text. -/
def parseBare (g : Grammar) (cs : List Char) : Except ParseError Uri :=
  match cutBrackets cs with
  | none => parsePlain g cs
  | some (before, inside, after) =>
    match IPv6.read inside with
    | none => .error .badIPv6
    | some ip =>
      match parsePlain g (before ++ ipv6Placeholder ++ after) with
      | .error e => .error e
      | .ok uri => .ok { uri with host := ip.text }

/-- Read the address of a party. -/
def parse (g : Grammar) (s : String) : Except AgentError Uri :=
  let bare := bareText s.toList
  match parseBare g bare with
  | .ok uri => .ok uri
  | .error e => .error (.invalidUri (String.ofList bare ++ ": " ++ e.message))

end Uri

end SipAgent
