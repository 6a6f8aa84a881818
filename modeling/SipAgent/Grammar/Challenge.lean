import SipAgent.Text.Cut

/-!
# Parameters of a challenge

A challenge of a server consists of parameters, each a name and a value. They say for which realm
the client is to answer, and how.
-/

namespace SipAgent

open Text

/-- A parameter of a challenge. -/
structure ChallengeParam where
  name : List Char
  value : List Char
  deriving DecidableEq, Repr

namespace ChallengeParam

/-- The value of the first parameter with this name, in any ASCII letter case. -/
def lookup (name : String) (params : List ChallengeParam) : Option (List Char) :=
  (params.find? fun p => sameAnyCase p.name name.toList).map (·.value)

/-- Whether a parameter is absent or has one of these values, in any ASCII letter case. -/
def isAbsentOrIn (name : String) (values : List String) (params : List ChallengeParam) : Bool :=
  match lookup name params with
  | none => true
  | some value => values.any fun v => sameAnyCase v.toList value

/-- The digest algorithms that a challenge may name. -/
def algorithms : List String :=
  ["MD5", "MD5-sess", "SHA256", "SHA256-sess", "SHA512", "SHA512-sess"]

/-- The qualities of protection that a challenge may name. -/
def qualities : List String :=
  ["auth", "auth-int"]

end ChallengeParam

end SipAgent
