import SipAgent.Text.Cut
import SipAgent.Text.Numeral

/-!
# Dates and times

A moment is a date, a time of day, or both, and then perhaps with an offset from universal time. It
may be spelled in several ways, of which `Moment.text` is the canonical one. Only documents need
moments, and no result is about them.
-/

namespace SipAgent.Toml

open Text

/-- A day of the calendar. -/
structure Date where
  year : Nat
  month : Nat
  day : Nat
  deriving DecidableEq, Repr

/-- A time of day. -/
structure TimeOfDay where
  hour : Nat
  minute : Nat
  second : Nat
  nanosecond : Nat
  deriving DecidableEq, Repr

/-- How far a clock is ahead of universal time. -/
inductive Offset where
  | universal
  | minutes (m : Int)
  deriving DecidableEq, Repr

/-- A date, a time of day, or both. -/
inductive Moment where
  | date (d : Date)
  | time (t : TimeOfDay)
  | dateTime (d : Date) (t : TimeOfDay) (offset : Option Offset)
  deriving DecidableEq, Repr

/-! ### Reading -/

/-- The greatest values that parts of a spelling may have, where the calendar leaves a choice. -/
structure MomentLimits where
  hour : Nat
  offsetHour : Nat
  offsetMinute : Nat
  deriving DecidableEq, Repr

/-- The limits for moments that a document writes as such. -/
def MomentLimits.document : MomentLimits :=
  ⟨23, 23, 59⟩

/-- The limits for moments that a string spells. -/
def MomentLimits.string : MomentLimits :=
  ⟨24, 99, 99⟩

/-- A number of exactly `width` digits that lies in a range, and the rest of the text. -/
def readField (width low high : Nat) (cs : List Char) : Option (Nat × List Char) :=
  let digits := cs.take width
  if digits.length = width ∧ digits.all Char.isDigit then
    match readInBase 10 decimalDigit? 0 digits with
    | some n => if low ≤ n ∧ n ≤ high then some (n, cs.drop width) else none
    | none => none
  else none

/-- The number of days in a month. -/
def daysIn (year month : Nat) : Nat :=
  if month = 2 then
    if year % 4 = 0 ∧ (year % 100 ≠ 0 ∨ year % 400 = 0) then 29 else 28
  else if month ∈ [4, 6, 9, 11] then 30
  else 31

/-- Read a date, and the rest of the text. -/
def readDate (cs : List Char) : Option (Date × List Char) := do
  let (year, cs) ← readField 4 0 9999 cs
  let cs ← dropWord ['-'] cs
  let (month, cs) ← readField 2 1 12 cs
  let cs ← dropWord ['-'] cs
  let (day, cs) ← readField 2 1 (daysIn year month) cs
  return (⟨year, month, day⟩, cs)

/-- The nanoseconds in the digits of a fraction of a second; digits after the ninth do not count. -/
def nanoseconds (digits : List Char) : Nat :=
  (readInBase 10 decimalDigit? 0 ((digits ++ List.replicate 9 '0').take 9)).getD 0

/-- Read a time of day, and the rest of the text. -/
def readTime (limits : MomentLimits) (cs : List Char) : Option (TimeOfDay × List Char) := do
  let (hour, cs) ← readField 2 0 limits.hour cs
  let cs ← dropWord [':'] cs
  let (minute, cs) ← readField 2 0 59 cs
  let cs ← dropWord [':'] cs
  let (second, cs) ← readField 2 0 60 cs
  match cs with
  | '.' :: fraction =>
    guard (fraction.head?.any Char.isDigit)
    let digits := fraction.takeWhile Char.isDigit
    return (⟨hour, minute, second, nanoseconds digits⟩, fraction.dropWhile Char.isDigit)
  | _ => return (⟨hour, minute, second, 0⟩, cs)

/-- Read an offset that is a whole text. It is at most a day. -/
def readOffset (limits : MomentLimits) : List Char → Option Offset
  | ['Z'] => some .universal
  | ['z'] => some .universal
  | sign :: cs => do
    guard (sign == '+' || sign == '-')
    let (hours, cs) ← readField 2 0 limits.offsetHour cs
    let cs ← dropWord [':'] cs
    let (minutes, cs) ← readField 2 0 limits.offsetMinute cs
    guard cs.isEmpty
    let total := hours * 60 + minutes
    guard (total ≤ 24 * 60)
    return .minutes (if sign == '-' then -total else total)
  | [] => none

/-- Read a time of day with or without an offset that is a whole text. -/
def readTimeWithOffset (limits : MomentLimits) (cs : List Char) :
    Option (TimeOfDay × Option Offset) :=
  match readTime limits cs with
  | none => none
  | some (t, []) => some (t, none)
  | some (t, rest) => (readOffset limits rest).map fun offset => (t, some offset)

/-- Read a moment that is a whole text. The letter T or a space joins a date and a time. -/
def readMoment (limits : MomentLimits) (cs : List Char) : Option Moment :=
  match readDate cs with
  | some (d, []) => some (.date d)
  | some (d, mark :: rest) =>
    if mark == 'T' || mark == 't' || mark == ' ' then
      (readTimeWithOffset limits rest).map fun (t, offset) => .dateTime d t offset
    else none
  | none =>
    match readTime limits cs with
    | some (t, []) => some (.time t)
    | _ => none

/-! ### Text -/

/-- The canonical spelling of a date. -/
def Date.chars (d : Date) : List Char :=
  decimalPadded 4 d.year ++ '-' :: decimalPadded 2 d.month ++ '-' :: decimalPadded 2 d.day

/-- The canonical spelling of a time of day: its fraction ends with the last digit that is not
zero. -/
def TimeOfDay.chars (t : TimeOfDay) : List Char :=
  let clock :=
    decimalPadded 2 t.hour ++ ':' :: decimalPadded 2 t.minute ++ ':' :: decimalPadded 2 t.second
  if t.nanosecond = 0 then clock
  else clock ++ '.' :: dropTail (· == '0') (decimalPadded 9 t.nanosecond)

/-- The canonical spelling of an offset. -/
def Offset.chars : Offset → List Char
  | .universal => ['Z']
  | .minutes m =>
    let size := m.natAbs
    let sign := if m < 0 then '-' else '+'
    sign :: decimalPadded 2 (size / 60) ++ ':' :: decimalPadded 2 (size % 60)

/-- The canonical spelling of a moment. -/
def Moment.text : Moment → String
  | .date d => String.ofList d.chars
  | .time t => String.ofList t.chars
  | .dateTime d t offset =>
    String.ofList (d.chars ++ 'T' :: t.chars ++ (offset.map Offset.chars).getD [])

end SipAgent.Toml
