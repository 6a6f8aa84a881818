import SipAgent.Toml.Document

/-!
# Single settings

What stands at a place of the settings while they are put together: a value, a list, a table, or
nothing yet. `Setting.ofValue?` takes it from a document. A strict reading finds a text, a number or
a truth value only where a value of that type stands; a lenient reading also takes values of other
types that can stand for one, because a variable is always a text. Only `Settings.Load` needs single
settings, and no result is about them.
-/

namespace SipAgent

open Text

/-- What stands at a place of the settings. -/
inductive Setting where
  | unset
  | text (s : String)
  | integer (n : Int)
  | float (x : Toml.Binary64)
  | flag (b : Bool)
  | list (items : List Setting)
  | table (entries : List (String × Setting))

/-- How settings are read. -/
inductive Reading where
  /-- Every value has to be of the right type. -/
  | strict
  /-- A value of another type may stand for one of the right type. -/
  | lenient
  deriving DecidableEq, Repr

namespace Setting

/-! ### From a document -/

/-- The key of a table that stands for a moment, when it is the first one. -/
def momentKey : String :=
  "$__toml_private_datetime"

/-- The setting that a moment is: its canonical text, or to a strict reading a table without any key
that settings have. -/
def ofMoment (reading : Reading) (m : Toml.Moment) : Setting :=
  match reading with
  | .strict => .table []
  | .lenient => .text m.text

/-- The setting of a table that stands for a moment, which the text in it has to spell. -/
def ofSpelledMoment? : Toml.Value → Option Setting
  | .string s => (Toml.readMoment .string s.toList).map (ofMoment .lenient)
  | _ => none

mutual

/-- The setting that a value of a document is. -/
def ofValue? (reading : Reading) : Toml.Value → Option Setting
  | .string s => some (.text s)
  | .integer n => some (.integer n)
  | .float x => some (.float x)
  | .boolean b => some (.flag b)
  | .moment m => some (ofMoment reading m)
  | .array _ items => (ofValues? reading items).map .list
  | .table _ entries => ofTable? reading entries

/-- The settings that the items of an array are. -/
def ofValues? (reading : Reading) : List Toml.Value → Option (List Setting)
  | [] => some []
  | value :: more => do
    let setting ← ofValue? reading value
    let settings ← ofValues? reading more
    return setting :: settings

/-- The settings in the entries of a table. -/
def ofEntries? (reading : Reading) : List (String × Toml.Value) → Option (List (String × Setting))
  | [] => some []
  | (key, value) :: more => do
    let setting ← ofValue? reading value
    let settings ← ofEntries? reading more
    return (key, setting) :: settings

/-- The setting that a table is. -/
def ofTable? (reading : Reading) : List (String × Toml.Value) → Option Setting
  | [] => some (.table [])
  | (key, value) :: more =>
    if reading = .lenient ∧ key = momentKey then ofSpelledMoment? value
    else do
      let setting ← ofValue? reading value
      let settings ← ofEntries? reading more
      return .table ((key, setting) :: settings)

end

/-! ### Values -/

/-- The words that stand for a truth value, without the digits. -/
def truthWord? (word : String) : Option Bool :=
  let lower := word.toLower
  if lower ∈ ["true", "on", "yes"] then some true
  else if lower ∈ ["false", "off", "no"] then some false
  else none

/-- A number of 32 bits. -/
def wordOfNat? (n : Nat) : Option UInt32 :=
  if n ≤ 0xffffffff then some (UInt32.ofNat n) else none

/-- Read a text. -/
def asText? (reading : Reading) : Setting → Option String
  | .text s => some s
  | .integer n => if reading = .lenient then some (toString n) else none
  | .float x => if reading = .lenient then some x.text else none
  | .flag b => if reading = .lenient then some (if b then "true" else "false") else none
  | _ => none

/-- Read a text that may be left out. -/
def asOptionalText? (reading : Reading) : Setting → Option (Option String)
  | .unset => some none
  | setting => (setting.asText? reading).map some

/-- Read a number of 32 bits. -/
def asNumber? (reading : Reading) : Setting → Option UInt32
  | .integer n => if 0 ≤ n then wordOfNat? n.toNat else none
  | .float x => if reading = .lenient then x.toNat?.bind wordOfNat? else none
  | .flag b => if reading = .lenient then some (if b then 1 else 0) else none
  | .text s =>
    if reading = .lenient then
      match truthWord? s with
      | some b => some (if b then 1 else 0)
      | none => (readUInt32 s.toList).toOption
    else none
  | _ => none

/-- Read a truth value. -/
def asFlag? (reading : Reading) : Setting → Option Bool
  | .flag b => some b
  | .integer n => if reading = .lenient then some (n != 0) else none
  | .float x => if reading = .lenient then some (!x.isZero) else none
  | .text s =>
    if reading = .lenient then
      if s = "1" then some true else if s = "0" then some false else truthWord? s
    else none
  | _ => none

end Setting

end SipAgent
