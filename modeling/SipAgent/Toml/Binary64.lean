import SipAgent.Text.Numeral

/-!
# Floating-point numbers

The numbers of binary64: a whole number of at most 53 binary digits times a power of two, with a
sign. `ofDecimal` gives the number nearest to a decimal one, and `text` writes a number with the
fewest decimal digits from which `ofDecimal` gives it back. Only documents need them, and no result
is about them.
-/

namespace SipAgent.Toml

open Text

/-! ### Fractions -/

/-- The quotient rounded to the nearest number; of two equally near, the even one. -/
def roundDiv (num den : Nat) : Nat :=
  let q := num / den
  let twice := 2 * (num % den)
  if twice < den || (twice == den && q % 2 == 0) then q else q + 1

/-- The fraction `num / den`, divided by `base ^ e`. -/
def scaleDown (base : Nat) (e : Int) (num den : Nat) : Nat × Nat :=
  (num * base.pow (-e).toNat, den * base.pow e.toNat)

/-- The exponent of the greatest power of two that is at most the positive fraction `num / den`. -/
def floorLog2 (num den : Nat) : Int :=
  let estimate : Int := num.log2 - den.log2
  let (n, d) := scaleDown 2 estimate num den
  if d ≤ n then estimate else estimate - 1

/-! ### Numbers -/

/-- A number of binary64. -/
inductive Binary64 where
  | nan
  | infinite (negative : Bool)
  /-- The number `significand * 2 ^ exponent` with a sign, which zero has as well. -/
  | finite (negative : Bool) (significand : Nat) (exponent : Int)
  deriving DecidableEq, Repr

namespace Binary64

/-- The exponent of the least numbers. -/
def minExponent : Int :=
  -1074

/-- The exponent of the greatest numbers. -/
def maxExponent : Int :=
  971

/-- The least significand of numbers above the least exponent. -/
def minSignificand : Nat :=
  1 <<< 52

/-- The number nearest to the fraction `num / den`. A number that would need a greater exponent than
there is becomes infinite. -/
def ofFraction (negative : Bool) (num den : Nat) : Binary64 :=
  if num = 0 then .finite negative 0 minExponent
  else
    let e := max (floorLog2 num den - 52) minExponent
    let (n, d) := scaleDown 2 e num den
    let m := roundDiv n d
    let (m, e) := if m = 2 * minSignificand then (minSignificand, e + 1) else (m, e)
    if maxExponent < e then .infinite negative else .finite negative m e

/-- The number nearest to the one with these decimal digits, times `10 ^ exponent`. Where the digits
begin decides first: numbers from `10 ^ 309` on are infinite, and those below `10 ^ (-324)` are
zero. -/
def ofDecimal (negative : Bool) (digits : List Char) (exponent : Int) : Binary64 :=
  let digits := digits.dropWhile (· == '0')
  let magnitude := digits.length + exponent
  if digits.isEmpty || magnitude < -323 then .finite negative 0 minExponent
  else if 309 < magnitude then .infinite negative
  else
    let (n, d) := scaleDown 10 (-exponent) ((readInBase 10 decimalDigit? 0 digits).getD 0) 1
    ofFraction negative n d

/-- Whether a number is zero, with either sign. -/
def isZero : Binary64 → Bool
  | .finite _ significand _ => significand == 0
  | _ => false

/-- The nearest natural number, the greater one of two; there is none near infinity. What is below
zero, or no number at all, counts as zero. -/
def toNat? : Binary64 → Option Nat
  | .nan => some 0
  | .infinite negative => if negative then some 0 else none
  | .finite true _ _ => some 0
  | .finite false significand exponent =>
    let (n, d) := scaleDown 2 (-exponent) significand 1
    some ((2 * n + d) / (2 * d))

/-! ### Text -/

/-- The multiple of `10 ^ g` that is nearest to `m * 2 ^ e` and rounds to it, counted in such
powers; of two equally near, the greater. A number rounds to `m * 2 ^ e` within half the distance to
the next number on its side; on the boundary it does if `m` is even. Below a power of two the
numbers stand twice as close, so all is measured in quarters of `2 ^ e`. -/
def onGrid? (m : Nat) (e g : Int) : Option Nat :=
  let quarter := Nat.pow 2 (e - 2).toNat * Nat.pow 10 (-g).toNat
  let step := Nat.pow 2 (2 - e).toNat * Nat.pow 10 g.toNat
  let value := 4 * m * quarter
  let low := (4 * m - if m = minSignificand then 1 else 2) * quarter
  let high := (4 * m + 2) * quarter
  let roundsHere (d : Nat) : Bool :=
    if m % 2 = 0 then low ≤ d * step && d * step ≤ high else low < d * step && d * step < high
  let d := value / step
  match roundsHere d, roundsHere (d + 1) with
  | true, true => some (if 2 * (value % step) < step then d else d + 1)
  | true, false => some d
  | false, true => some (d + 1)
  | false, false => none

/-- The shortest decimal digits that round to `m * 2 ^ e`, and the power of ten that they count. The
coarsest grid of powers of ten with such digits has the fewest; between the greatest and the least
number there always is one. -/
def shortest (m : Nat) (e : Int) : Nat × Int :=
  let digits := (List.range 633).findSome? fun (i : Nat) =>
    let g := 308 - (i : Int)
    (onGrid? m e g).map fun d => (d, g)
  digits.getD (0, 0)

/-- The numeral of `d * 10 ^ g` without an exponent. -/
def positional (d : Nat) (g : Int) : List Char :=
  if 0 ≤ g then decimal d ++ List.replicate g.toNat '0'
  else
    let places := (-g).toNat
    let digits := decimalPadded (places + 1) d
    digits.take (digits.length - places) ++ '.' :: digits.drop (digits.length - places)

/-- A text with a minus sign in front, if it is to have one. -/
def signed (negative : Bool) (cs : List Char) : String :=
  String.ofList (if negative then '-' :: cs else cs)

/-- The text of a number. -/
def text : Binary64 → String
  | .nan => "NaN"
  | .infinite negative => signed negative "inf".toList
  | .finite negative 0 _ => signed negative ['0']
  | .finite negative significand exponent =>
    let (d, g) := shortest significand exponent
    signed negative (positional d g)

end Binary64

end SipAgent.Toml
