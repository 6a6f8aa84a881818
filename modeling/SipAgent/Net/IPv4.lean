import SipAgent.Text.Cut
import SipAgent.Text.Numeral

/-!
# IPv4 addresses

An address is four octets. Its text is the four decimal numerals, joined by points; it is read back
only in that form, so a numeral with a leading zero is refused.
-/

namespace SipAgent

/-- An IPv4 address. -/
structure IPv4 where
  a : UInt8
  b : UInt8
  c : UInt8
  d : UInt8
  deriving DecidableEq, Repr

namespace IPv4

open Text

/-- Read one octet: one to three decimal digits, without a leading zero, of at most 255. -/
def readOctet (cs : List Char) : Option UInt8 :=
  if cs.length = 0 ∨ 3 < cs.length ∨ (cs.head? = some '0' ∧ 1 < cs.length) then none
  else
    match readInBase 10 decimalDigit? 0 cs with
    | some n => if n < 256 then some (UInt8.ofNat n) else none
    | none => none

/-- Read an address in dotted decimal form. -/
def read (cs : List Char) : Option IPv4 :=
  match (pieces '.' cs).mapM readOctet with
  | some [a, b, c, d] => some ⟨a, b, c, d⟩
  | _ => none

/-- The dotted decimal form of an address. -/
def chars (ip : IPv4) : List Char :=
  decimal ip.a.toNat ++ '.' :: decimal ip.b.toNat ++ '.' :: decimal ip.c.toNat ++
    '.' :: decimal ip.d.toNat

/-- The address of the own host. -/
def loopback : IPv4 :=
  ⟨127, 0, 0, 1⟩

/-- The ranges set aside for private networks: 10/8, 172.16/12 and 192.168/16. -/
def isPrivate (ip : IPv4) : Bool :=
  ip.a == 10 || (ip.a == 172 && ip.b &&& 0xf0 == 16) || (ip.a == 192 && ip.b == 168)

/-- The range that carriers share among their subscribers: 100.64/10. -/
def isCarrierShared (ip : IPv4) : Bool :=
  ip.a == 100 && ip.b &&& 0xc0 == 64

end IPv4

end SipAgent
