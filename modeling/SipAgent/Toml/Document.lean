import SipAgent.Toml.Quoted
import SipAgent.Toml.Scalar

/-!
# TOML documents

A document is a sequence of sections: a header, which names a table or the next table of an array,
and the assignments below it. `readSections` reads the sections of a text and `build` puts the
tables together; `parse` does both.

The modules under `Toml` stand for the TOML library that the agent reads its settings with. They are
there so that the settings of an installation can be loaded, and no result is about them.
-/

namespace SipAgent.Toml

open Text

/-! ### Blanks, comments and keys -/

/-- The text after the blanks at its start. -/
def dropBlanks (cs : List Char) : List Char :=
  cs.dropWhile isLineBlank

/-- The text after the comment at its start, if there is one. -/
def dropComment : List Char → List Char
  | '#' :: rest => rest.dropWhile isPrintable
  | cs => cs

/-- The text after the end of a line, before which blanks and a comment may stand. The end of the
text ends a line too. -/
def dropLineRest (cs : List Char) : Option (List Char) :=
  match dropComment (dropBlanks cs) with
  | [] => some []
  | rest => dropLineEnd rest

/-- The text after blanks, line ends and comments; `inComment` says whether a comment is open. -/
def dropFiller : (inComment : Bool) → List Char → Option (List Char)
  | _, '\n' :: rest => dropFiller false rest
  | _, '\r' :: '\n' :: rest => dropFiller false rest
  | true, c :: rest => if isPrintable c then dropFiller true rest else none
  | true, [] => none
  | false, c :: rest =>
    if isLineBlank c then dropFiller false rest
    else if c = '#' then dropFiller true rest
    else some (c :: rest)
  | false, [] => some []

/-- A character of a bare key. -/
def isBareKeyChar (c : Char) : Bool :=
  c.isAlphanum || c == '-' || c == '_'

/-- Read one part of a key, and the rest of the text. -/
def readKeyPart (cs : List Char) : Option (String × List Char) :=
  match cs.takeWhile isBareKeyChar with
  | [] => readLineString cs
  | word => some (String.ofList word, cs.dropWhile isBareKeyChar)

/-- The greatest number of parts of a key, and the greatest depth of arrays and inline tables. -/
def maxDepth : Nat :=
  79

/-- Read a key of at most `n` parts, joined by points with blanks around them, and the rest of the
text. -/
def readKey : Nat → List Char → Option (List String × List Char)
  | 0, _ => none
  | n + 1, cs =>
    match readKeyPart (dropBlanks cs) with
    | none => none
    | some (part, rest) =>
      match dropBlanks rest with
      | '.' :: rest => (readKey n rest).map fun (parts, rest) => (part :: parts, rest)
      | rest => some ([part], rest)

/-! ### Values -/

/-- Read the items of an array up to its closing bracket, at most `n`, given how one is read. -/
def readItems (item : List Char → Option (Value × List Char)) :
    Nat → List Char → Option (List Value × List Char)
  | 0, _ => none
  | n + 1, cs =>
    match dropFiller false cs with
    | none => none
    | some (']' :: rest) => some ([], rest)
    | some cs =>
      match item cs with
      | none => none
      | some (value, rest) =>
        match dropFiller false rest with
        | some (',' :: rest) =>
          (readItems item n rest).map fun (values, rest) => (value :: values, rest)
        | some (']' :: rest) => some ([value], rest)
        | _ => none

/-- Read an assignment, given how a value is read, and the rest of the text. -/
def readAssignment (item : List Char → Option (Value × List Char)) (cs : List Char) :
    Option (Assignment × List Char) :=
  match readKey maxDepth cs with
  | some (parts@(_ :: _), '=' :: rest) =>
    (item (dropBlanks rest)).map fun (value, rest) =>
      (⟨parts.dropLast, parts.getLast?.getD "", value⟩, rest)
  | _ => none

/-- Read the assignments of an inline table up to its closing brace, at most `n` and at least one,
given how a value is read. -/
def readMembers (item : List Char → Option (Value × List Char)) :
    Nat → List Char → Option (List Assignment × List Char)
  | 0, _ => none
  | n + 1, cs =>
    match readAssignment item cs with
    | none => none
    | some (a, rest) =>
      match dropBlanks rest with
      | ',' :: rest => (readMembers item n rest).map fun (more, rest) => (a :: more, rest)
      | '}' :: rest => some ([a], rest)
      | _ => none

/-- Read an inline table after its opening brace, given how a value is read. -/
def readInlineTable (item : List Char → Option (Value × List Char)) (cs : List Char) :
    Option (Value × List Char) :=
  match dropBlanks cs with
  | '}' :: rest => some (.table .inline [], rest)
  | _ =>
    match readMembers item cs.length cs with
    | none => none
    | some (assignments, rest) => (inlineTable? assignments).map fun table => (table, rest)

/-- Read a value that holds arrays and inline tables up to a depth, and the rest of the text. -/
def readValue : Nat → List Char → Option (Value × List Char)
  | _, '"' :: rest => (readString ('"' :: rest)).map fun (s, rest) => (.string s, rest)
  | 0, '[' :: _ => none
  | depth + 1, '[' :: rest =>
    (readItems (readValue depth) (rest.length + 1) rest).map fun (values, rest) =>
      (.array false values, rest)
  | 0, '\x7b' :: _ => none
  | depth + 1, '\x7b' :: rest => readInlineTable (readValue depth) rest
  | _, c :: rest =>
    if c = tick then (readString (c :: rest)).map fun (s, rest) => (.string s, rest)
    else readScalar (c :: rest)
  | _, [] => none

/-! ### Sections -/

/-- What a section is about. -/
inductive Header where
  | root
  | table (path : List String)
  | item (path : List String)

/-- A header and the assignments below it. -/
structure Section where
  header : Header
  assignments : List Assignment

/-- Read a header, which stands alone on its line, and the rest of the text. -/
def readHeader (cs : List Char) : Option (Header × List Char) :=
  match cs with
  | '[' :: '[' :: rest =>
    match readKey maxDepth rest with
    | some (path, ']' :: ']' :: rest) => (dropLineRest rest).map fun rest => (.item path, rest)
    | _ => none
  | '[' :: rest =>
    match readKey maxDepth rest with
    | some (path, ']' :: rest) => (dropLineRest rest).map fun rest => (.table path, rest)
    | _ => none
  | _ => none

/-- Read the sections of a text with at most `n` lines: the first has the given header. -/
def readSections (header : Header) : Nat → List Char → Option (List Section)
  | 0, _ => none
  | n + 1, cs =>
    match dropBlanks cs with
    | [] => some [⟨header, []⟩]
    | '#' :: rest => (dropLineRest ('#' :: rest)).bind (readSections header n)
    | '[' :: rest =>
      match readHeader ('[' :: rest) with
      | none => none
      | some (next, rest) => (readSections next n rest).map (⟨header, []⟩ :: ·)
    | cs =>
      match dropLineEnd cs with
      | some rest => readSections header n rest
      | none =>
        match readAssignment (readValue maxDepth) cs with
        | none => none
        | some (a, rest) =>
          match (dropLineRest rest).bind (readSections header n) with
          | some (first :: more) =>
            some (⟨first.header, a :: first.assignments⟩ :: more)
          | _ => none

/-! ### Putting tables together -/

/-- The table that a header opens: a new one, or one that was only implied. -/
def openTable : Option Value → Option Entries
  | none => some []
  | some (.table .implied entries) => some entries
  | some _ => none

/-- The items of the array that a header extends: none yet, or those it has. -/
def openArray : Option Value → Option (List Value)
  | none => some []
  | some (.array true items) => some items
  | some _ => none

/-- Add a section to the document. A table that was implied comes last among its neighbours once it
has its header. -/
def addSection (root : Entries) (s : Section) : Option Entries :=
  let place (path : List String) (change : String → Entries → Option Entries) : Option Entries :=
    let key := path.getLast?.getD ""
    (alter false path.dropLast
      (fun (origin, entries) => (change key entries).map fun entries => (origin, entries))
      (.header, root)).map (·.2)
  match s.header with
  | .root => (assignAll s.assignments (.header, root)).map (·.2)
  | .table path =>
    place path fun key entries => do
      let old ← openTable (entries.get? key)
      let (_, inner) ← assignAll s.assignments (.header, old)
      return entries.filter (fun e => e.1 != key) ++ [(key, .table .header inner)]
  | .item path =>
    place path fun key entries => do
      let items ← openArray (entries.get? key)
      let (_, inner) ← assignAll s.assignments (.header, [])
      return entries.put key (.array true (items ++ [.table .header inner]))

/-- Put the sections of a document together. -/
def build : Entries → List Section → Option Entries
  | root, [] => some root
  | root, s :: more => (addSection root s).bind (build · more)

/-- A text without the byte order mark at its start. -/
def withoutMark (text : String) : String :=
  match text.toList with
  | c :: rest => if c.toNat = 0xfeff then String.ofList rest else text
  | [] => text

/-- The root table of a document; a byte order mark at its start does not count. -/
def parse (text : String) : Option Entries :=
  let cs := (withoutMark text).toList
  (readSections .root (cs.length + 1) cs).bind (build [])

end SipAgent.Toml
