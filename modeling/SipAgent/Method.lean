import SipAgent.Text.Cut

/-!
# Request methods

The methods that a session reacts to, and the wider list of methods that a message may carry.
-/

namespace SipAgent

open Text

/-- The methods that a session reacts to. -/
inductive Method where
  | register
  | invite
  | ack
  | cancel
  | bye
  | options
  deriving DecidableEq, Repr

namespace Method

/-- The methods a session reacts to, each once. -/
def all : List Method :=
  [.register, .invite, .ack, .cancel, .bye, .options]

/-- The name of a method, as it stands in a request line. -/
def name : Method → String
  | .register => "REGISTER"
  | .invite => "INVITE"
  | .ack => "ACK"
  | .cancel => "CANCEL"
  | .bye => "BYE"
  | .options => "OPTIONS"

/-- The method with a name, in any ASCII letter case and with blanks around it. -/
def ofName? (s : String) : Option Method :=
  let word := trim isBlank s.toList
  all.find? fun m => sameAnyCase m.name.toList word

end Method

/-- The methods that a message may carry. -/
inductive WireMethod where
  | supported (m : Method)
  | info
  | message
  | notify
  | prack
  | publish
  | refer
  | subscribe
  | update
  deriving DecidableEq, Repr

namespace WireMethod

/-- The methods a message may carry, each once. -/
def all : List WireMethod :=
  Method.all.map .supported ++
    [.info, .message, .notify, .prack, .publish, .refer, .subscribe, .update]

/-- The name of a method, as it stands in a request line. -/
def name : WireMethod → String
  | .supported m => m.name
  | .info => "INFO"
  | .message => "MESSAGE"
  | .notify => "NOTIFY"
  | .prack => "PRACK"
  | .publish => "PUBLISH"
  | .refer => "REFER"
  | .subscribe => "SUBSCRIBE"
  | .update => "UPDATE"

/-- The method with exactly this name, in any ASCII letter case. -/
def read (word : List Char) : Option WireMethod :=
  all.find? fun m => sameAnyCase m.name.toList word

/-- The method as a session knows it, if a session reacts to it. -/
def method? : WireMethod → Option Method
  | .supported m => some m
  | _ => none

end WireMethod

end SipAgent
