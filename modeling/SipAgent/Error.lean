/-!
# Failures

What an operation of the agent reports when it cannot do what it was asked to do, and the wording
of each report.
-/

namespace SipAgent

/-- Why the network layer did not carry out a command. -/
inductive TransportError where
  /-- The command could not be sent. -/
  | sendFailed (detail : String)
  /-- The server has no route, or its name does not resolve. -/
  | unreachable (detail : String)
  /-- There is no transaction or dialog to act on. -/
  | noTransaction (detail : String)
  /-- The network layer has been shut down. -/
  | closed
  deriving DecidableEq, Repr

/-- The wording of a network failure. -/
def TransportError.message : TransportError → String
  | .sendFailed detail => "Send failed: " ++ detail
  | .unreachable detail => "Server unreachable: " ++ detail
  | .noTransaction detail => "No usable transaction: " ++ detail
  | .closed => "Transport closed"

/-- The name of a kind of network failure. -/
def TransportError.name : TransportError → String
  | .sendFailed _ => "SendFailed"
  | .unreachable _ => "Unreachable"
  | .noTransaction _ => "NoTransaction"
  | .closed => "Closed"

/-- Why the agent did not do what it was asked to do. -/
inductive AgentError where
  /-- The session does not accept the command in its state. -/
  | invalidStateTransition (detail : String)
  /-- The group has been closed. -/
  | groupClosed
  /-- The network layer failed. -/
  | transport (cause : TransportError)
  /-- The timer has been stopped. -/
  | timerStopped
  /-- The text is not a usable address. -/
  | invalidUri (detail : String)
  /-- The octets are not a usable message. -/
  | message (detail : String)
  /-- The settings are not usable. -/
  | config (detail : String)
  /-- Nothing is there to run wake-ups on. -/
  | runtime (detail : String)
  deriving DecidableEq, Repr

/-- The wording of a failure. -/
def AgentError.text : AgentError → String
  | .invalidStateTransition detail => "Invalid state transition: " ++ detail
  | .groupClosed => "Session group is closed"
  | .transport cause => "Transport error: " ++ cause.message
  | .timerStopped => "Wakeup timer has been stopped"
  | .invalidUri detail => "Invalid SIP URI: " ++ detail
  | .message detail => "Invalid SIP message: " ++ detail
  | .config detail => "Configuration error: " ++ detail
  | .runtime detail => "Runtime unavailable: " ++ detail

/-- The name of a kind of failure. -/
def AgentError.name : AgentError → String
  | .invalidStateTransition _ => "InvalidStateTransition"
  | .groupClosed => "GroupClosed"
  | .transport _ => "Transport"
  | .timerStopped => "TimerStopped"
  | .invalidUri _ => "InvalidUri"
  | .message _ => "Message"
  | .config _ => "Config"
  | .runtime _ => "Runtime"

end SipAgent
