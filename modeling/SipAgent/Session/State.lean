/-!
# Session states

Where a session stands: idle, in a registration exchange, setting a call up from either side, in a
call, or changing one.
-/

namespace SipAgent

/-- The state of a session. -/
inductive SessionState where
  /-- Idle: ready to call or to register. -/
  | ready
  /-- A registration has been sent. -/
  | registering
  /-- The end of a registration has been sent. -/
  | deregistering
  /-- An invitation has been sent, and the peer is not alerted yet. -/
  | outgoingCall
  /-- The peer is alerted. -/
  | outgoingCallRingBack
  /-- The own invitation is being cancelled. -/
  | outgoingCallCanceling
  /-- An invitation has come in, and the user is alerted. -/
  | incomingCall
  /-- An invitation has been accepted, and its acknowledgement is awaited. -/
  | incomingCallAnswering
  /-- The dialog is confirmed. -/
  | inCall
  /-- A change by the peer has been accepted, and its acknowledgement is awaited. -/
  | inCallAnswering
  /-- A change has been sent. -/
  | inCallChanging
  /-- The own change is being cancelled. -/
  | inCallChangingCanceling
  deriving DecidableEq, Repr, Inhabited

namespace SessionState

/-- All states, each once. -/
def all : List SessionState :=
  [.ready, .registering, .deregistering, .outgoingCall, .outgoingCallRingBack,
    .outgoingCallCanceling, .incomingCall, .incomingCallAnswering, .inCall, .inCallAnswering,
    .inCallChanging, .inCallChangingCanceling]

/-- The name of a state. -/
def name : SessionState → String
  | .ready => "Ready"
  | .registering => "Registering"
  | .deregistering => "Deregistering"
  | .outgoingCall => "OutgoingCall"
  | .outgoingCallRingBack => "OutgoingCallRingBack"
  | .outgoingCallCanceling => "OutgoingCallCanceling"
  | .incomingCall => "IncomingCall"
  | .incomingCallAnswering => "IncomingCallAnswering"
  | .inCall => "InCall"
  | .inCallAnswering => "InCallAnswering"
  | .inCallChanging => "InCallChanging"
  | .inCallChangingCanceling => "InCallChangingCanceling"

/-- A registration exchange is under way. -/
def isRegistration : SessionState → Bool
  | .registering | .deregistering => true
  | _ => false

/-- A call is being set up, is up, or is being torn down. -/
def isCall : SessionState → Bool
  | .ready | .registering | .deregistering => false
  | _ => true

/-- An own invitation is under way. -/
def isOutgoing : SessionState → Bool
  | .outgoingCall | .outgoingCallRingBack | .outgoingCallCanceling => true
  | _ => false

/-- The dialog of a call has been confirmed. -/
def isInCall : SessionState → Bool
  | .inCall | .inCallAnswering | .inCallChanging | .inCallChangingCanceling => true
  | _ => false

/-- An own request still awaits its final response. -/
def awaitsFinalResponse : SessionState → Bool
  | .inCallChanging | .inCallChangingCanceling => true
  | state => state.isRegistration || state.isOutgoing

end SessionState

end SipAgent
