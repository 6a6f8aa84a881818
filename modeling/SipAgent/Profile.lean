import SipAgent.Uri.Basic

/-!
# Profiles

Who calls and who is called: the local identity a group acts for, and the remote party of a call.
-/

namespace SipAgent

/-- The remote party of a call. -/
structure Peer where
  uri : Uri
  displayName : Option String
  deriving DecidableEq, Repr

/-- A peer known only by its address. -/
def Peer.ofUri (uri : Uri) : Peer :=
  ⟨uri, none⟩

/-- What answers a challenge. -/
structure Credentials where
  username : String
  password : String
  deriving DecidableEq

/-- The credentials for display, with the password hidden. -/
def Credentials.masked (c : Credentials) : Credentials :=
  { c with password := "***" }

/-- Displays credentials without their password. -/
instance : Repr Credentials where
  reprPrec c _ := repr (c.username, c.masked.password)

/-- The local identity that a group acts for. -/
structure Profile where
  uri : Uri
  displayName : Option String
  credentials : Credentials
  /-- Keep the path to the server open even when the local address looks public. -/
  sendKeepalive : Bool
  deriving DecidableEq, Repr

namespace Profile

/-- The profile of an address and a password; the user of the address is also the user name. -/
def ofUri (uri : Uri) (password : String) : Profile where
  uri := uri
  displayName := none
  credentials := ⟨uri.user.getD "", password⟩
  sendKeepalive := false

/-- The profile with a name to display. -/
def withDisplayName (p : Profile) (name : String) : Profile :=
  { p with displayName := some name }

/-- The profile with a user name for challenges that differs from the user of its address. -/
def withAuthUsername (p : Profile) (username : String) : Profile :=
  { p with credentials := { p.credentials with username := username } }

/-- The profile with its keepalive switched on or off. -/
def withSendKeepalive (p : Profile) (on : Bool) : Profile :=
  { p with sendKeepalive := on }

end Profile

end SipAgent
