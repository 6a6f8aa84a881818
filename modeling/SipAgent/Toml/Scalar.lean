import SipAgent.Text.Cut
import SipAgent.Text.Numeral
import SipAgent.Toml.Value

/-!
# TOML scalars

The values that are written as one bare word: truth values, numbers and moments. Only documents need
them, and no result is about them.
-/

namespace SipAgent.Toml

open Text

/-- Digits, with single underscores between them; at least one. -/
def isDigitGroup (isDigit : Char → Bool) (cs : List Char) : Bool :=
  (pieces '_' cs).all fun piece => !piece.isEmpty && piece.all isDigit

/-- A text without its underscores. -/
def withoutUnderscores (cs : List Char) : List Char :=
  cs.filter (· != '_')

/-- A sign in front of a text, if there is one, and the text after it. -/
def cutSign : List Char → Bool × List Char
  | '-' :: rest => (true, rest)
  | '+' :: rest => (false, rest)
  | cs => (false, cs)

/-- A decimal numeral without a sign; a leading zero stands alone. -/
def isDecimal (cs : List Char) : Bool :=
  isDigitGroup Char.isDigit cs && (cs == ['0'] || cs.head? != some '0')

/-! ### Integers -/

/-- An integer of 64 bits with a sign. -/
def integer? (n : Int) : Option Value :=
  if -0x8000000000000000 ≤ n ∧ n ≤ 0x7fffffffffffffff then some (.integer n) else none

/-- The value of a digit in a base. -/
def digitIn? (base : Nat) (c : Char) : Option Nat :=
  (hexDigit? c).filter (· < base)

/-- The integer after a mark for its base. -/
def readBased (base : Nat) (cs : List Char) : Option Value :=
  if isDigitGroup (fun c => (digitIn? base c).isSome) cs then
    (readInBase base (digitIn? base) 0 (withoutUnderscores cs)).bind fun n => integer? n
  else none

/-- An integer. -/
def readInteger (cs : List Char) : Option Value :=
  match cs with
  | '0' :: 'x' :: digits => readBased 16 digits
  | '0' :: 'o' :: digits => readBased 8 digits
  | '0' :: 'b' :: digits => readBased 2 digits
  | _ =>
    let (negative, digits) := cutSign cs
    if isDecimal digits then
      (readInBase 10 decimalDigit? 0 (withoutUnderscores digits)).bind fun n =>
        integer? (if negative then -n else n)
    else none

/-! ### Numbers that are not integers -/

/-- The exponent after its mark. -/
def readExponent (cs : List Char) : Option Int :=
  let (negative, digits) := cutSign cs
  if isDigitGroup Char.isDigit digits then
    (readInBase 10 decimalDigit? 0 (withoutUnderscores digits)).map fun n =>
      if negative then -(n : Int) else n
  else none

/-- Infinity, or what is no number, after its sign. -/
def readNumberWord (negative : Bool) (cs : List Char) : Option Value :=
  if cs == "inf".toList then some (.float (.infinite negative))
  else if cs == "nan".toList then some (.float .nan)
  else none

/-- A number with a fraction or an exponent, or both. One that is too far below zero for binary64 is
minus infinity; one that is too far above is refused. -/
def readFloat (cs : List Char) : Option Value := do
  let (negative, unsigned) := cutSign cs
  match readNumberWord negative unsigned with
  | some value => return value
  | none =>
    let (mantissa, tail) := breakAt (fun c => c == 'e' || c == 'E') unsigned
    let (whole, fraction) := cutOptional '.' mantissa
    guard (isDecimal whole && fraction.all fun f => isDigitGroup Char.isDigit f)
    guard (fraction.isSome || !tail.isEmpty)
    let exponent ← if tail.isEmpty then some 0 else readExponent (tail.drop 1)
    let fractionDigits := withoutUnderscores (fraction.getD [])
    let number := Binary64.ofDecimal negative (withoutUnderscores whole ++ fractionDigits)
      (exponent - fractionDigits.length)
    guard (number != .infinite false)
    return .float number

/-! ### Words -/

/-- A character that ends a bare word. -/
def endsWord (c : Char) : Bool :=
  c == ' ' || c == '\t' || c == '\n' || c == '\r' || c == ',' || c == ']' || c == '}' || c == '#'

/-- The value that a bare word stands for. -/
def ofWord (word : List Char) : Option Value :=
  if word == "true".toList then some (.boolean true)
  else if word == "false".toList then some (.boolean false)
  else
    match readMoment .document word with
    | some m => some (.moment m)
    | none =>
      match readFloat word with
      | some value => some value
      | none => readInteger word

/-- Read a bare word, and the rest of the text. A date may go on with a time after one space. -/
def readScalar (cs : List Char) : Option (Value × List Char) :=
  let (word, rest) := breakAt endsWord cs
  match readDate word, rest with
  | some (d, []), ' ' :: more =>
    let (second, rest') := breakAt endsWord more
    match readTimeWithOffset .document second with
    | some (t, offset) => some (.moment (.dateTime d t offset), rest')
    | none => some (.moment (.date d), rest)
  | _, _ => (ofWord word).map fun value => (value, rest)

end SipAgent.Toml
