import SipAgent.Profile
import SipAgent.Uri.Parse

/-!
# Settings

What an installation decides: the local identity, the times of registration and how much is logged.
-/

namespace SipAgent

/-- The local identity, as it is set. -/
structure ProfileSettings where
  uri : String
  password : String
  displayName : Option String
  /-- The user name for challenges, when it differs from the user of the address. -/
  authUsername : Option String
  sendKeepalive : Bool
  deriving DecidableEq

namespace ProfileSettings

/-- The identity when none is set. -/
def default : ProfileSettings :=
  ⟨"sip:alice@localhost", "", none, none, false⟩

/-- The profile of an address, with all else as it is set. -/
def profileOf (s : ProfileSettings) (uri : Uri) : Profile :=
  let plain := (Profile.ofUri uri s.password).withSendKeepalive s.sendKeepalive
  let named := s.displayName.elim plain plain.withDisplayName
  s.authUsername.elim named named.withAuthUsername

/-- The profile that the settings describe; its address has to name a user. -/
def profile (g : Grammar) (s : ProfileSettings) : Except AgentError Profile :=
  match Uri.parse g s.uri with
  | .error e => .error e
  | .ok uri =>
    match uri.user with
    | none => .error (.invalidUri (s.uri ++ ": profile needs a user part"))
    | some _ => .ok (s.profileOf uri)

end ProfileSettings

/-- The times of registration, in seconds. -/
structure RegistrationSettings where
  /-- The lifetime that each registration asks for. -/
  expiry : UInt32
  /-- The first delay before a failed registration is tried again. -/
  shortExpiry : UInt32
  /-- How long before its end a registration is refreshed, and the shortest delay of a refresh. -/
  minExpiry : UInt32
  /-- The longest delay before a failed registration is tried again. -/
  maxBackoff : UInt32
  keepaliveInterval : UInt32
  deriving DecidableEq, Repr

namespace RegistrationSettings

/-- The times when none are set. -/
def default : RegistrationSettings :=
  ⟨3600, 10, 60, 3600, 10⟩

/-- The seconds after which a registration granted for `duration` seconds is refreshed. -/
def refreshDelay (s : RegistrationSettings) (duration : Nat) : Nat :=
  max (duration - s.minExpiry.toNat) s.minExpiry.toNat

/-- The seconds between two keepalives. -/
def keepalivePeriod (s : RegistrationSettings) : Nat :=
  s.keepaliveInterval.toNat

end RegistrationSettings

/-- All settings. -/
structure Settings where
  profile : ProfileSettings
  registration : RegistrationSettings
  /-- The filter for log output. -/
  logLevel : String
  deriving DecidableEq

/-- The settings when nothing is set. -/
def Settings.default : Settings :=
  ⟨.default, .default, "info"⟩

end SipAgent
