import SipAgent.Text.Cut
import SipAgent.Tokenizer.Fault

/-!
# Protocol versions

The version that a start line or a Via header states.
-/

namespace SipAgent.Tokenizer

open Text

/-- A protocol version, as it is written. -/
structure Version where
  major : List Char
  minor : List Char
  deriving DecidableEq, Repr

namespace Version

/-- Read a version, and the rest of the text. -/
def read (cs : List Char) : Option (Version × List Char) :=
  match dropWord "SIP/".toList cs with
  | none => none
  | some cs =>
    match cs.takeWhile Char.isDigit, cs.dropWhile Char.isDigit with
    | major@(_ :: _), '.' :: cs =>
      match cs.takeWhile Char.isDigit with
      | [] => none
      | minor => some (⟨major, minor⟩, cs.dropWhile Char.isDigit)
    | _, _ => none

/-- The versions that are understood are those of the first two generations. -/
def check (v : Version) : Except PartError Unit :=
  if v.major = ['1'] ∨ v.major = ['2'] then .ok () else .error .version

end Version

end SipAgent.Tokenizer
