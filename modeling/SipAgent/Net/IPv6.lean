import SipAgent.Net.IPv4

/-!
# IPv6 addresses

An address is eight groups of 16 bits. It is read in any of its textual forms: a run of zero groups
may be left out as `::`, and the last two groups may be written as an IPv4 address. It is written
in canonical form: lower case, no leading zeros, and the first longest run of at least two zero
groups left out; an address that embeds an IPv4 address shows it in dotted form.
-/

namespace SipAgent

/-- An IPv6 address. -/
structure IPv6 where
  groups : List UInt16
  length_eq : groups.length = 8
  deriving DecidableEq

namespace IPv6

open Text

/-! ### Reading -/

/-- Read one group: one to four hexadecimal digits. -/
def readGroup (cs : List Char) : Option UInt16 :=
  if cs.length = 0 ∨ 4 < cs.length then none
  else (readInBase 16 hexDigit? 0 cs).map UInt16.ofNat

/-- The two groups that hold an IPv4 address. -/
def groupsOfIPv4 (ip : IPv4) : List UInt16 :=
  [UInt16.ofNat (ip.a.toNat * 256 + ip.b.toNat), UInt16.ofNat (ip.c.toNat * 256 + ip.d.toNat)]

/-- Read groups; the last piece may be an IPv4 address if `tailIPv4` allows it. -/
def readPieces (tailIPv4 : Bool) : List (List Char) → Option (List UInt16)
  | [] => some []
  | [last] =>
    match readGroup last with
    | some group => some [group]
    | none => if tailIPv4 then (IPv4.read last).map groupsOfIPv4 else none
  | piece :: more =>
    match readGroup piece with
    | some group => (readPieces tailIPv4 more).map (group :: ·)
    | none => none

/-- Read groups separated by colons; no text is no groups. -/
def readGroups (tailIPv4 : Bool) (cs : List Char) : Option (List UInt16) :=
  if cs.isEmpty then some [] else readPieces tailIPv4 (pieces ':' cs)

/-- The address with these groups, if they are eight. -/
def ofGroups? (groups : List UInt16) : Option IPv6 :=
  if h : groups.length = 8 then some ⟨groups, h⟩ else none

/-- Read an address. The mark `::` stands for one zero group or more, and occurs at most once. -/
def read (cs : List Char) : Option IPv6 :=
  match cutWord [':', ':'] cs with
  | none => (readGroups true cs).bind ofGroups?
  | some (front, back) =>
    match readGroups false front, readGroups true back with
    | some head, some tail =>
      if head.length + tail.length < 8 then
        ofGroups? (head ++ List.replicate (8 - (head.length + tail.length)) 0 ++ tail)
      else none
    | _, _ => none

/-! ### Writing -/

/-- The length of the run of zero groups that a list starts with. -/
def zeroRun (groups : List UInt16) : Nat :=
  (groups.takeWhile (· == 0)).length

/-- Start and length of the first longest run of zero groups, scanning from position `start`. -/
def longestZeroRun (start : Nat) : List UInt16 → Nat × Nat
  | [] => (start, 0)
  | group :: rest =>
    let here := zeroRun (group :: rest)
    let (later, length) := longestZeroRun (start + 1) rest
    if length ≤ here then (start, here) else (later, length)

/-- Groups in hexadecimal, joined by colons. -/
def groupChars : List UInt16 → List Char
  | [] => []
  | [group] => hex group.toNat
  | group :: more => hex group.toNat ++ ':' :: groupChars more

/-- The IPv4 address that an IPv4-mapped address embeds. -/
def mappedIPv4? (ip : IPv6) : Option IPv4 :=
  match ip.groups with
  | [0, 0, 0, 0, 0, 0xffff, x, y] =>
    some ⟨UInt8.ofNat (x.toNat / 256), UInt8.ofNat x.toNat, UInt8.ofNat (y.toNat / 256),
      UInt8.ofNat y.toNat⟩
  | _ => none

/-- The canonical text of an address. -/
def chars (ip : IPv6) : List Char :=
  match ip.mappedIPv4? with
  | some v4 => "::ffff:".toList ++ v4.chars
  | none =>
    let (start, length) := longestZeroRun 0 ip.groups
    if 1 < length then
      groupChars (ip.groups.take start) ++
        ':' :: ':' :: groupChars (ip.groups.drop (start + length))
    else groupChars ip.groups

/-- The canonical text of an address, as a string. -/
def text (ip : IPv6) : String :=
  String.ofList ip.chars

/-- The range of unique local addresses, fc00::/7. -/
def isUniqueLocal (ip : IPv6) : Bool :=
  match ip.groups with
  | first :: _ => first &&& 0xfe00 == 0xfc00
  | [] => false

end IPv6

end SipAgent
