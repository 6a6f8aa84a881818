import SipAgent.Text.Numeral

/-!
# Identifiers

The identifiers that correlate messages, and a supply of fresh ones. A supply is a word of 64 bits;
each draw adds the same odd constant to it, so a supply repeats itself only after all 2^64 words.

The supply stands for a generator of random numbers, which draws other words. The results assume
nothing of the words that are drawn: they hold for any network that hands out identifiers, and where
two runs are compared, their supplies may drift apart.
-/

namespace SipAgent

open Text

/-- The number of a session. -/
abbrev SessionId := Nat

/-- The Call-ID of a dialog; events are routed by it. -/
structure CallId where
  text : String
  deriving DecidableEq, Repr

/-- The identifier of a transaction: the branch of its topmost Via header. -/
structure TransactionId where
  text : String
  deriving DecidableEq, Repr

/-- The tag by which one side of a dialog names it. -/
abbrev Tag := String

/-- A supply of fresh identifiers. -/
structure IdSupply where
  word : UInt64
  deriving DecidableEq, Repr

namespace IdSupply

/-- The step between two draws. It is odd, and so is its lower half. -/
def stride : UInt64 :=
  0x9e3779b97f4a7c15

/-- The supply after one draw. -/
def next (supply : IdSupply) : IdSupply :=
  ⟨supply.word + stride⟩

/-- A Call-ID scoped to a host: 16 hexadecimal digits, an at sign and the host. -/
def callId (supply : IdSupply) (host : String) : CallId :=
  ⟨String.ofList (hexPadded 16 supply.word.toNat ++ '@' :: host.toList)⟩

/-- The identifier of a new transaction: the branch mark and up to 16 hexadecimal digits. -/
def transactionId (supply : IdSupply) : TransactionId :=
  ⟨String.ofList ("z9hG4bK".toList ++ hex supply.word.toNat)⟩

/-- A tag: 8 hexadecimal digits. -/
def tag (supply : IdSupply) : Tag :=
  String.ofList (hexPadded 8 supply.word.toUInt32.toNat)

end IdSupply

end SipAgent
