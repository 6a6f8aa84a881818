import SipAgent.Error
import SipAgent.Net.Address
import SipAgent.Transport.Signal

/-!
# Commands to the network

What the agent asks of the network layer, and what it gets back. A command is answered at once: by
the handles that later signals are matched with, or by a failure. `Transport` is the interface that
every network layer implements.
-/

namespace SipAgent

/-- What the agent asks of the network layer. -/
inductive Command where
  /-- Register the address of the profile for some seconds. -/
  | register (profile : Profile) (tag : Tag) (expiry : UInt32)
  /-- Start a dialog. -/
  | invite (profile : Profile) (callee : Uri) (offer : Octets) (tag : Tag)
  /-- Change the session of a dialog. -/
  | reinvite (dialog : Dialog) (offer : Octets)
  | cancel (transaction : ClientTransaction)
  | bye (dialog : Dialog)
  /-- Answer a request without a body. -/
  | respond (request : Request) (status : UInt16)
  /-- Tell the caller that the user is being alerted. -/
  | ringing (request : Request) (tag : Tag)
  /-- Accept an invitation. -/
  | acceptInvite (request : Request) (profile : Profile) (answer : Octets) (tag : Tag)
      (transaction : ServerTransaction)
  | acknowledge (response : Response) (dialog : Dialog)
  /-- Send a challenged request again, with credentials. -/
  | authenticate (response : Response) (credentials : Credentials)
  /-- Refresh the path to the server by a request outside of all dialogs. -/
  | keepalive (profile : Profile)
  | terminateDialog (dialog : Dialog)
  deriving DecidableEq

/-- What a command that succeeds gives back. -/
def Command.Reply : Command → Type
  | .register .. => ClientTransaction
  | .invite .. => ClientTransaction × Dialog
  | .reinvite .. => ClientTransaction
  | .ringing .. => ServerTransaction
  | .acceptInvite .. => Dialog
  | .authenticate .. => ClientTransaction
  | .cancel .. => Unit
  | .bye .. => Unit
  | .respond .. => Unit
  | .acknowledge .. => Unit
  | .keepalive .. => Unit
  | .terminateDialog .. => Unit

/-- A network layer with states of type `σ`: it carries out commands, supplies tags, and knows the
address it is bound to. -/
class Transport (σ : Type) where
  perform : (c : Command) → σ → Except TransportError c.Reply × σ
  freshTag : σ → Tag × σ
  localAddress : σ → Address

end SipAgent
