import SipAgent.Text.Cut
import SipAgent.Text.Numeral

/-!
# TOML strings

The four ways to write a string: with escapes or literally, on one line or on several. Only
documents need them, and no result is about them.
-/

namespace SipAgent.Toml

open Text

/-- The character that delimits a literal string. -/
def tick : Char :=
  Char.ofNat 0x27

/-- A character that may stand in a string or a comment: no control character but the tab. -/
def isPrintable (c : Char) : Bool :=
  c == '\t' || (0x20 ≤ c.toNat && c.toNat != 0x7f)

/-- The character with a code of exactly `width` hexadecimal digits, and the rest of the text. -/
def readCode (width : Nat) (cs : List Char) : Option (Char × List Char) :=
  let digits := cs.take width
  if digits.length = width then
    match readInBase 16 hexDigit? 0 digits with
    | some n => if n.isValidChar then some (Char.ofNat n, cs.drop width) else none
    | none => none
  else none

/-- The character that an escape stands for, read after its backslash. -/
def readEscape : List Char → Option (Char × List Char)
  | 'b' :: rest => some (Char.ofNat 8, rest)
  | 't' :: rest => some ('\t', rest)
  | 'n' :: rest => some ('\n', rest)
  | 'f' :: rest => some (Char.ofNat 12, rest)
  | 'r' :: rest => some ('\r', rest)
  | '"' :: rest => some ('"', rest)
  | '\\' :: rest => some ('\\', rest)
  | 'u' :: rest => readCode 4 rest
  | 'U' :: rest => readCode 8 rest
  | _ => none

theorem length_of_readCode {width : Nat} {cs rest : List Char} {c : Char}
    (h : readCode width cs = some (c, rest)) : rest.length ≤ cs.length := by
  unfold readCode at h
  simp only at h
  split at h
  · split at h
    · split at h
      · simp only [Option.some.injEq, Prod.mk.injEq] at h
        simp [← h.2]
      · exact absurd h (by simp)
    · exact absurd h (by simp)
  · exact absurd h (by simp)

/-- An escape takes at least one character. -/
theorem length_of_readEscape {cs rest : List Char} {c : Char}
    (h : readEscape cs = some (c, rest)) : rest.length < cs.length := by
  unfold readEscape at h
  split at h
  all_goals first
    | (simp only [Option.some.injEq, Prod.mk.injEq] at h; simp [← h.2])
    | (have hcode := length_of_readCode h; simp only [List.length_cons]; omega)
    | exact absurd h (by simp)

/-- Read a string with escapes after its opening quote, and the rest of the text. -/
def readBasic : List Char → Option (List Char × List Char)
  | [] => none
  | '"' :: rest => some ([], rest)
  | '\\' :: cs =>
    match hescape : readEscape cs with
    | none => none
    | some (c, rest) =>
      have : rest.length < cs.length := length_of_readEscape hescape
      (readBasic rest).map fun (text, rest) => (c :: text, rest)
  | c :: rest =>
    if isPrintable c then (readBasic rest).map fun (text, rest) => (c :: text, rest) else none
termination_by cs => cs.length
decreasing_by all_goals (simp only [List.length_cons]; omega)

/-- Read a literal string after its opening quote, and the rest of the text. -/
def readLiteral (cs : List Char) : Option (List Char × List Char) :=
  match cut tick cs with
  | some (text, rest) => if text.all isPrintable then some (text, rest) else none
  | none => none

/-- The text without one line end at its start. -/
def dropLineEnd : List Char → Option (List Char)
  | '\n' :: rest => some rest
  | '\r' :: '\n' :: rest => some rest
  | _ => none

theorem length_of_dropLineEnd {cs rest : List Char} (h : dropLineEnd cs = some rest) :
    rest.length < cs.length := by
  unfold dropLineEnd at h
  split at h
  all_goals first
    | (simp only [Option.some.injEq] at h; simp only [← h, List.length_cons]; omega)
    | exact absurd h (by simp)

/-- The quotes that close a string on several lines: three, after up to two that belong to it. The
result is the quotes that belong to it, and the rest of the text. -/
def readClosing (quote : Char) (cs : List Char) : Option (List Char × List Char) :=
  let run := cs.takeWhile (· == quote)
  if run.length < 3 then none
  else
    let inside := min (run.length - 3) 2
    some (List.replicate inside quote, cs.drop (inside + 3))

/-- The text after the blanks and line ends at its start. -/
def dropBlankLines : List Char → List Char
  | '\n' :: rest => dropBlankLines rest
  | '\r' :: '\n' :: rest => dropBlankLines rest
  | c :: rest => if isLineBlank c then dropBlankLines rest else c :: rest
  | [] => []

theorem length_dropBlankLines_le (cs : List Char) : (dropBlankLines cs).length ≤ cs.length := by
  fun_induction dropBlankLines cs
  all_goals grind

/-- The text after the blanks that a backslash at the end of a line joins over. -/
def dropJoin (cs : List Char) : Option (List Char) :=
  (dropLineEnd (cs.dropWhile isLineBlank)).map dropBlankLines

theorem length_of_dropJoin {cs rest : List Char} (h : dropJoin cs = some rest) :
    rest.length < cs.length := by
  obtain ⟨more, hend, rfl⟩ := Option.map_eq_some_iff.1 h
  have h1 := length_of_dropLineEnd hend
  have h2 := length_dropWhile_le isLineBlank cs
  have h3 := length_dropBlankLines_le more
  omega

/-- Read a string on several lines after its opening quotes, and the rest of the text. `escapes`
says whether backslashes are escapes; line ends count as one character. -/
def readLines (quote : Char) (escapes : Bool) (cs : List Char) : Option (List Char × List Char) :=
  match readClosing quote cs with
  | some closing => some closing
  | none =>
    match hend : dropLineEnd cs with
    | some rest =>
      have : rest.length < cs.length := length_of_dropLineEnd hend
      (readLines quote escapes rest).map fun (text, rest) => ('\n' :: text, rest)
    | none =>
      match cs with
      | [] => none
      | c :: rest =>
        if escapes && c == '\\' then
          match hjoin : dropJoin rest with
          | some joined =>
            have : joined.length < rest.length := length_of_dropJoin hjoin
            readLines quote escapes joined
          | none =>
            match hescape : readEscape rest with
            | some (c, rest') =>
              have : rest'.length < rest.length := length_of_readEscape hescape
              (readLines quote escapes rest').map fun (text, rest) => (c :: text, rest)
            | none => none
        else if isPrintable c then
          (readLines quote escapes rest).map fun (text, rest) => (c :: text, rest)
        else none
termination_by cs.length
decreasing_by all_goals (first | assumption | (simp only [List.length_cons]; omega))

/-- Read a string on several lines; a line end right after the opening quotes does not count. -/
def readBlock (quote : Char) (escapes : Bool) (cs : List Char) : Option (List Char × List Char) :=
  readLines quote escapes ((dropLineEnd cs).getD cs)

/-- Read a string on one line, and the rest of the text. -/
def readLineString (cs : List Char) : Option (String × List Char) :=
  match cs with
  | [] => none
  | c :: rest =>
    let read :=
      if c = '"' then readBasic rest else if c = tick then readLiteral rest else none
    read.map fun (text, rest) => (String.ofList text, rest)

/-- Read a string in any way of writing, and the rest of the text. -/
def readString (cs : List Char) : Option (String × List Char) :=
  match dropWord ['"', '"', '"'] cs, dropWord [tick, tick, tick] cs with
  | some rest, _ => (readBlock '"' true rest).map fun (text, rest) => (String.ofList text, rest)
  | none, some rest =>
    (readBlock tick false rest).map fun (text, rest) => (String.ofList text, rest)
  | none, none => readLineString cs

end SipAgent.Toml
