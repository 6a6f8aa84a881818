import SipAgent.Transport.Signal

/-!
# Session events and notices

What a session consumes, commands of the user and signals of the network, and what it tells its
listener.
-/

namespace SipAgent

/-- What a session consumes. -/
inductive SessionEvent where
  /-- Place a call, or change an established one. -/
  | makeCall (peer : Uri) (offer : Octets)
  /-- Accept the call that is coming in. -/
  | answerCall (answer : Octets)
  /-- Change an established call. -/
  | changeCall (offer : Octets)
  /-- Hang up, reject or cancel, whichever fits the state. -/
  | endCall
  | register (expiry : UInt32)
  | deregister
  | request (r : Request)
  | response (r : Response)
  | timeout (t : TransactionEnd)
  | dialogTerminated (d : Dialog)
  | transactionTerminated (t : TransactionEnd)
  /-- The data connection is gone. -/
  | connectionLost
  deriving DecidableEq, Repr

namespace SessionEvent

/-- A signal of the network as an event. -/
def ofSignal : Signal → SessionEvent
  | .request r => .request r
  | .response r => .response r
  | .timeout t => .timeout t
  | .dialogTerminated d => .dialogTerminated d
  | .transactionTerminated t => .transactionTerminated t

/-- The event is a command of the user. -/
def isCommand : SessionEvent → Bool
  | .makeCall .. | .answerCall .. | .changeCall .. | .endCall | .register .. | .deregister => true
  | _ => false

/-- The event starts or ends a registration. -/
def isRegistration : SessionEvent → Bool
  | .register .. | .deregister => true
  | _ => false

/-- The dialog that a message carries. -/
def dialog? : SessionEvent → Option Dialog
  | .request r => r.dialog
  | .response r => r.dialog
  | _ => none

/-- A short description of an event. -/
def name : SessionEvent → String
  | .makeCall peer _ => "MakeCall(" ++ peer.text ++ ")"
  | .answerCall _ => "AnswerCall"
  | .changeCall _ => "ChangeCall"
  | .endCall => "EndCall"
  | .register expiry => "Register(" ++ String.ofList (Text.decimal expiry.toNat) ++ ")"
  | .deregister => "Deregister"
  | .request r => (Signal.request r).name
  | .response r => (Signal.response r).name
  | .timeout t => (Signal.timeout t).name
  | .dialogTerminated d => (Signal.dialogTerminated d).name
  | .transactionTerminated t => (Signal.transactionTerminated t).name
  | .connectionLost => "connection lost"

end SessionEvent

/-! ### Failures told to listeners -/

/-- The kinds of failure that a listener is told. -/
inductive ErrorCode where
  /-- The network layer could not send. -/
  | socketError
  | serverError
  /-- A transaction ended before its final response. -/
  | transactionTerminated
  | clientError
  | timeOut
  | invalidRemoteUri
  | peerNotReachable
  | invalidCredentials
  | inProgress
  | dataConnectionLost
  | crossDomainAuthentication
  | serverUnreachable
  deriving DecidableEq, Repr

namespace ErrorCode

/-- The kind of failure that a final response reports. -/
def ofStatus (status : UInt16) : ErrorCode :=
  if status ∈ [403, 404, 406, 410, 480, 488] then .peerNotReachable
  else if status ∈ [414, 484, 485] then .invalidRemoteUri
  else if status = 408 then .timeOut
  else if status < 500 then .clientError
  else .serverError

/-- The name of a kind of failure. -/
def name : ErrorCode → String
  | .socketError => "SOCKET_ERROR"
  | .serverError => "SERVER_ERROR"
  | .transactionTerminated => "TRANSACTION_TERMINATED"
  | .clientError => "CLIENT_ERROR"
  | .timeOut => "TIME_OUT"
  | .invalidRemoteUri => "INVALID_REMOTE_URI"
  | .peerNotReachable => "PEER_NOT_REACHABLE"
  | .invalidCredentials => "INVALID_CREDENTIALS"
  | .inProgress => "IN_PROGRESS"
  | .dataConnectionLost => "DATA_CONNECTION_LOST"
  | .crossDomainAuthentication => "CROSS_DOMAIN_AUTHENTICATION"
  | .serverUnreachable => "SERVER_UNREACHABLE"

end ErrorCode

/-! ### Notices -/

/-- What a listener is told. -/
inductive Notice where
  | calling
  | ringing (peer : Peer) (offer : Octets)
  | ringingBack
  | callEstablished (description : Octets)
  | callEnded
  | callBusy
  | callChanged (description : Octets)
  | error (code : ErrorCode) (message : String)
  | registering
  /-- The seconds granted, or -1 after the end of a registration. -/
  | registrationDone (duration : Int)
  | registrationFailed (code : ErrorCode) (message : String)
  | registrationTimeout
  deriving DecidableEq, Repr

/-- The name of a kind of notice. -/
def Notice.name : Notice → String
  | .calling => "calling"
  | .ringing .. => "ringing"
  | .ringingBack => "ringing_back"
  | .callEstablished _ => "call_established"
  | .callEnded => "call_ended"
  | .callBusy => "call_busy"
  | .callChanged _ => "call_changed"
  | .error .. => "error"
  | .registering => "registering"
  | .registrationDone _ => "registration_done"
  | .registrationFailed .. => "registration_failed"
  | .registrationTimeout => "registration_timeout"

/-- A notice, and the session it is about. -/
structure Report where
  session : SessionId
  notice : Notice
  deriving DecidableEq, Repr

/-- A change to the keys under which sessions are found. -/
inductive KeyChange where
  | bind (session : SessionId) (key : CallId)
  | unbind (session : SessionId) (key : CallId)
  deriving DecidableEq, Repr

/-- The session that a change is for. -/
def KeyChange.session : KeyChange → SessionId
  | .bind session _ => session
  | .unbind session _ => session

end SipAgent
