import SipAgent.Toml.Binary64
import SipAgent.Toml.Moment

/-!
# TOML values

The values of a TOML document, and the growth of a table. A table remembers how it came about,
because that decides whether it may still grow: a header may complete a table that was only implied,
dotted keys may extend a table that dotted keys made, and an inline table is closed. Only documents
need them, and no result is about them.
-/

namespace SipAgent.Toml

/-- How a table came about. -/
inductive Origin where
  /-- By its own header, or as the root. -/
  | header
  /-- As a part of the path in a header. -/
  | implied
  /-- As a part of a dotted key. -/
  | dotted
  /-- As an inline table. -/
  | inline
  deriving DecidableEq, Repr

/-- A TOML value. -/
inductive Value where
  | string (s : String)
  | integer (n : Int)
  | float (x : Binary64)
  | boolean (b : Bool)
  | moment (m : Moment)
  /-- An array; `open` says that its items are tables with headers of their own. -/
  | array (isOpen : Bool) (items : List Value)
  | table (origin : Origin) (entries : List (String × Value))

/-- The entries of a table, in the order in which they were written. -/
abbrev Entries := List (String × Value)

namespace Entries

/-- The value of a key. -/
def get? (entries : Entries) (key : String) : Option Value :=
  (entries.find? fun e => e.1 == key).map (·.2)

/-- Give a key a value, in its old place if it has one. -/
def put (entries : Entries) (key : String) (value : Value) : Entries :=
  if (entries.get? key).isSome then
    entries.map fun e => if e.1 == key then (key, value) else e
  else entries ++ [(key, value)]

end Entries

/-- A table under construction: how it came about, and its entries. -/
abbrev Draft := Origin × Entries

/-- Change the table at the end of a path. Tables that are missing on the way are made; the path of
a dotted key makes dotted tables and may not pass through a table that has its own header. -/
def alter (dotted : Bool) : List String → (Draft → Option Draft) → Draft → Option Draft
  | [], change, draft => change draft
  | key :: path, change, (origin, entries) =>
    match entries.get? key with
    | none =>
      let made := if dotted then Origin.dotted else Origin.implied
      (alter dotted path change (made, [])).map fun (o, es) =>
        (origin, entries.put key (.table o es))
    | some (.table o es) =>
      if o = .inline || (dotted && o = .header) then none
      else
        (alter dotted path change (o, es)).map fun (o, es) =>
          (origin, entries.put key (.table o es))
    | some (.array true items) =>
      match items.getLast? with
      | some (.table o es) =>
        (alter dotted path change (o, es)).map fun (o, es) =>
          (origin, entries.put key (.array true (items.dropLast ++ [.table o es])))
      | _ => none
    | some _ => none

/-- A line that gives a key a value. -/
structure Assignment where
  /-- The parts of the key before the last. -/
  path : List String
  key : String
  value : Value

/-- Carry out an assignment. A key can be given a value only once, and a dotted key extends only
tables that dotted keys made. -/
def assign (a : Assignment) (draft : Draft) : Option Draft :=
  alter true a.path
    (fun (origin, entries) =>
      if (origin == .dotted) == a.path.isEmpty then none
      else if (entries.get? a.key).isSome then none
      else some (origin, entries.put a.key a.value))
    draft

/-- Carry out assignments, one after the other. -/
def assignAll : List Assignment → Draft → Option Draft
  | [], draft => some draft
  | a :: more, draft => (assign a draft).bind (assignAll more)

/-- The inline table with these assignments. -/
def inlineTable? (assignments : List Assignment) : Option Value :=
  (assignAll assignments (.inline, [])).map fun (_, entries) => .table .inline entries

end SipAgent.Toml
