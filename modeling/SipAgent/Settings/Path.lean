import SipAgent.Settings.Setting
import SipAgent.Text.Cut

/-!
# Paths to settings

A path leads from all settings to one of them: it begins with a name and goes on with names after
points and indices in brackets, as in `registration.expiry` or `profile[0]`. `Path.read` reads one,
and `Setting.set` puts a setting at its end. Whatever stands in the way of a path gives way to it,
and what is missing is made. Only `Settings.Load` needs paths, and no result is about them.
-/

namespace SipAgent

open Text

/-- A step of a path: to a name of a table, or to an index of a list. -/
inductive Step where
  | key (name : String)
  | index (i : Int)
  deriving DecidableEq, Repr

/-- A path: a name, and the steps after it. -/
structure Path where
  name : String
  steps : List Step
  deriving DecidableEq, Repr

/-! ### Names in lower case -/

/-- A character in lower case. Only what gives a letter of ASCII matters to the names of settings,
and outside ASCII that is the Kelvin sign alone. -/
def lowerChar (c : Char) : Char :=
  if c.toNat = 0x212a then 'k' else c.toLower

/-- A name in lower case. -/
def lowerName (name : String) : String :=
  String.ofList (name.toList.map lowerChar)

namespace Path

/-! ### Reading -/

/-- A character of a name in a path. -/
def isNameChar (c : Char) : Bool :=
  c.isAlphanum || c == ' ' || c == '_' || c == '-'

/-- Read a name, and the rest of the text. -/
def readName (cs : List Char) : Option (String × List Char) :=
  match cs.takeWhile isNameChar with
  | [] => none
  | name => some (String.ofList name, cs.dropWhile isNameChar)

/-- Read the digits of an index that has a minus sign or none. -/
def readIndex (negative : Bool) (digits : List Char) : Option Int :=
  if digits.isEmpty then none
  else
    match readInBase 10 decimalDigit? 0 digits with
    | none => none
    | some n =>
      let i : Int := if negative then -n else n
      if -0x8000000000000000 ≤ i ∧ i ≤ 0x7fffffffffffffff then some i else none

/-- Read what stands in the brackets of an index, between blanks. -/
def readBracketed (cs : List Char) : Option Int :=
  match trim isLineBlank cs with
  | '-' :: digits => readIndex true digits
  | digits => readIndex false digits

/-- Read a step after the first, and the rest of the text. -/
def readStep : List Char → Option (Step × List Char)
  | '.' :: cs => (readName cs).map fun (name, rest) => (.key name, rest)
  | '[' :: cs =>
    match cut ']' cs with
    | some (inside, rest) => (readBracketed inside).map fun i => (.index i, rest)
    | none => none
  | _ => none

/-- Read the steps after the first, at most `n`. -/
def readSteps : Nat → List Char → Option (List Step)
  | _, [] => some []
  | 0, _ => none
  | n + 1, cs => do
    let (step, rest) ← readStep cs
    let steps ← readSteps n rest
    return step :: steps

/-- The path that a text spells. A text that spells none is the name of a setting as a whole. -/
def read (cs : List Char) : Path :=
  let path? : Option Path := do
    let (name, rest) ← readName cs
    let steps ← readSteps rest.length rest
    return ⟨name, steps⟩
  path?.getD ⟨String.ofList cs, []⟩

/-- The path that a key spells, in any letter case. -/
def ofKey (key : String) : Path :=
  read (lowerName key).toList

end Path

namespace Setting

/-! ### Tables and lists -/

/-- The entries of a table; whatever is none counts as empty. -/
def entries : Setting → List (String × Setting)
  | .table entries => entries
  | _ => []

/-- The items of a list; whatever is none counts as empty. -/
def items : Setting → List Setting
  | .list items => items
  | _ => []

/-- The setting of a name among entries. -/
def lookup (name : String) (entries : List (String × Setting)) : Option Setting :=
  (entries.find? fun e => e.1 == name).map (·.2)

/-- Change the setting of a name in a table; a name without one has it unset before. -/
def alterEntry (name : String) (change : Setting → Setting) (target : Setting) : Setting :=
  match lookup name target.entries with
  | some _ => .table (target.entries.map fun e => if e.1 == name then (name, change e.2) else e)
  | none => .table (target.entries ++ [(name, change .unset)])

/-- The items of a list, filled with unset ones so that it has the index, and the place of the
index. A negative index counts from the end, and room for it is made in front. -/
def makeRoom (i : Int) (items : List Setting) : List Setting × Nat :=
  if 0 ≤ i then (items ++ List.replicate (i.toNat + 1 - items.length) .unset, i.toNat)
  else
    (List.replicate (i.natAbs - items.length) .unset ++ items, items.length - i.natAbs)

/-- Change the setting at an index of a list. -/
def alterItem (i : Int) (change : Setting → Setting) (target : Setting) : Setting :=
  let (items, place) := makeRoom i target.items
  .list (items.modify place change)

/-! ### Setting -/

mutual

/-- Give a name of a table a setting, with the name in lower case. A table is added to the one that
the name has, entry by entry. -/
def assign (name : String) : Setting → Setting → Setting
  | .table incoming, target =>
    alterEntry (lowerName name)
      (fun old => assignAll incoming (match old with | .unset => .table [] | _ => old)) target
  | setting, target => alterEntry (lowerName name) (fun _ => setting) target

/-- Give names of a table their settings. -/
def assignAll : List (String × Setting) → Setting → Setting
  | [], target => target
  | (name, setting) :: more, target => assignAll more (assign name setting target)

end

/-- Put a setting at the end of a path, given by its steps. -/
def setAt (setting : Setting) : Step → List Step → Setting → Setting
  | .key name, [] => assign name setting
  | .key name, step :: steps => alterEntry name (setAt setting step steps)
  | .index i, [] => alterItem i fun _ => setting
  | .index i, step :: steps => alterItem i (setAt setting step steps)

/-- The target with a setting at the end of a path. -/
def set (target setting : Setting) (path : Path) : Setting :=
  setAt setting (.key path.name) path.steps target

end Setting

end SipAgent
