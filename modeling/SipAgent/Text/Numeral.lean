/-!
# Numerals

Reading and writing of unsigned numerals. Reading goes from left to right and stops at the first
fault, so a numeral with two faults is refused for the one that stands first.
-/

namespace SipAgent.Text

/-- Why a text is not an unsigned decimal numeral within its bound. -/
inductive NumeralError where
  | empty
  | invalidDigit
  | tooLarge
  deriving DecidableEq, Repr

/-- The wording of a numeral fault. -/
def NumeralError.message : NumeralError → String
  | .empty => "cannot parse integer from empty string"
  | .invalidDigit => "invalid digit found in string"
  | .tooLarge => "number too large to fit in target type"

/-- The value of a decimal digit. -/
def decimalDigit? (c : Char) : Option Nat :=
  if '0' ≤ c ∧ c ≤ '9' then some (c.toNat - '0'.toNat) else none

/-- The value of a hexadecimal digit, in either letter case. -/
def hexDigit? (c : Char) : Option Nat :=
  if '0' ≤ c ∧ c ≤ '9' then some (c.toNat - '0'.toNat)
  else if 'a' ≤ c ∧ c ≤ 'f' then some (c.toNat - 'a'.toNat + 10)
  else if 'A' ≤ c ∧ c ≤ 'F' then some (c.toNat - 'A'.toNat + 10)
  else none

/-- Read decimal digits on top of the value read so far, which may not pass `max`. -/
def readDigits (max : Nat) : Nat → List Char → Except NumeralError Nat
  | value, [] => .ok value
  | value, c :: rest =>
    match decimalDigit? c with
    | none => .error .invalidDigit
    | some d =>
      let value := value * 10 + d
      if max < value then .error .tooLarge else readDigits max value rest

/-- Read an unsigned decimal numeral of at most `max`; one plus sign may lead it. -/
def readUnsigned (max : Nat) : List Char → Except NumeralError Nat
  | [] => .error .empty
  | ['+'] => .error .invalidDigit
  | '+' :: digits => readDigits max 0 digits
  | digits => readDigits max 0 digits

/-- Read an unsigned numeral of 16 bits. -/
def readUInt16 (cs : List Char) : Except NumeralError UInt16 :=
  (readUnsigned 0xffff cs).map UInt16.ofNat

/-- Read an unsigned numeral of 32 bits. -/
def readUInt32 (cs : List Char) : Except NumeralError UInt32 :=
  (readUnsigned 0xffffffff cs).map UInt32.ofNat

/-- Read the digits of a numeral in a base, given the value of a digit. -/
def readInBase (base : Nat) (digit? : Char → Option Nat) : Nat → List Char → Option Nat
  | value, [] => some value
  | value, c :: rest =>
    match digit? c with
    | none => none
    | some d => readInBase base digit? (value * base + d) rest

/-- The decimal numeral of a number. -/
def decimal (n : Nat) : List Char :=
  Nat.toDigits 10 n

/-- The decimal numeral of a number, filled with zeros to a width. -/
def decimalPadded (width n : Nat) : List Char :=
  List.replicate (width - (decimal n).length) '0' ++ decimal n

/-- The hexadecimal numeral of a number, in lower case and without leading zeros. -/
def hex (n : Nat) : List Char :=
  Nat.toDigits 16 n

/-- The hexadecimal numeral of a number, filled with zeros to a width. -/
def hexPadded (width n : Nat) : List Char :=
  List.replicate (width - (hex n).length) '0' ++ hex n

end SipAgent.Text
