import SipAgent.Proofs.Grammar.Message
import SipAgent.Proofs.Tokenizer.Header

/-!
# The tokenizer reads messages

The block of headers ends at the first empty line, whatever octets the body holds, and each line of
it is read as the header that the rules find there. So the tokenizer follows the rules for messages,
and it is an instance of everything that the agent asks of a grammar.
-/

namespace SipAgent

open Text Uri

namespace Tokenizer

variable {cs line rest block body : List Char} {h : Header} {headers : List Header}

/-! ### Headers -/

lemma readHeader_of_headerAt (header : HeaderAt line h) : readHeader line = some h := by
  obtain @⟨name, gap, spelled, value, hne, htoken, hblank, hstart, -, hdecodes⟩ := header
  have hcolon : StartsIn (fun c => !isTokenChar c) (':' :: (gap ++ spelled)) := by
    rw [startsIn_cons]
    decide +kernel
  have hvalue : (gap ++ spelled).dropWhile isLineBlank = spelled := dropWhile_append hblank hstart
  obtain ⟨c, more, rfl⟩ := List.exists_cons_of_ne_nil hne
  simp only [readHeader, takeWhile_append htoken hcolon, dropWhile_append htoken hcolon, hvalue,
    hdecodes, Option.map_some]

/-- A line is passed over by a search for an empty line. -/
lemma cutWord_line (hline : '\r' ∉ line) (rest : List Char) :
    cutWord (lineEnd ++ lineEnd) (line ++ rest) =
      (cutWord (lineEnd ++ lineEnd) rest).map fun split => (line ++ split.1, split.2) :=
  cutWord_append hline

/-- The end of a line is passed over by a search for an empty line if the next line is not empty. -/
lemma cutWord_lineEnd {c : Char} (hc : c ≠ '\r') (rest : List Char) :
    cutWord (lineEnd ++ lineEnd) (lineEnd ++ c :: rest) =
      (cutWord (lineEnd ++ lineEnd) (c :: rest)).map fun split =>
        (lineEnd ++ split.1, split.2) := by
  have hend : dropWord (lineEnd ++ lineEnd) ('\r' :: '\n' :: c :: rest) = none := by
    simp [lineEnd, dropWord, hc.symm]
  have hfeed : dropWord (lineEnd ++ lineEnd) ('\n' :: c :: rest) = none := rfl
  have htext : lineEnd ++ c :: rest = '\r' :: '\n' :: c :: rest := rfl
  rw [htext, cutWord, hend, cutWord, hfeed, Option.map_map]
  rfl

/-- A text without an end of a line belongs to the line that it is in front of. -/
lemma lines_append (hline : '\r' ∉ line) {first : List Char} {more : List (List Char)}
    (h : lines rest = first :: more) : lines (line ++ rest) = (line ++ first) :: more := by
  induction line with
  | nil => exact h
  | cons c line ih =>
    rw [List.mem_cons, not_or] at hline
    rw [List.cons_append, lines]
    · rw [ih hline.2]
      rfl
    · rintro _ rfl
      exact absurd rfl hline.1

/-- A line ends where it is ended. -/
lemma lines_line (hline : '\r' ∉ line) (rest : List Char) :
    lines (line ++ (lineEnd ++ rest)) = line :: lines rest := by
  have hend : lines (lineEnd ++ rest) = [] :: lines rest := rfl
  rw [lines_append hline hend, List.append_nil]

lemma lines_of_whole (hline : '\r' ∉ line) : lines line = [line] := by
  have hnil : lines [] = [[]] := rfl
  have hlines := lines_append hline hnil
  rwa [List.append_nil] at hlines

/-- The block of headers ends at the first empty line. Its lines are passed over one by one, and
what the body holds does not matter. -/
lemma exists_block (hheaders : HeadersAt cs headers body) :
    ∃ c block, cutWord (lineEnd ++ lineEnd) cs = some (c :: block, body) ∧
      (lines (c :: block)).mapM readHeader = some headers ∧ ∃ more, cs = c :: more ∧ c ≠ '\r' := by
  induction hheaders with
  | @last line h body header =>
    obtain ⟨hline, c, more, rfl⟩ := header.line_eq
    have hend : cutWord (lineEnd ++ lineEnd) (lineEnd ++ (lineEnd ++ body)) = some ([], body) := by
      rw [← List.append_assoc]
      exact cutWord_of_dropWord (dropWord_append _ body)
    refine ⟨c, more, ?_, ?_, _, rfl, fun hc => hline (hc ▸ List.mem_cons_self)⟩
    · rw [cutWord_line hline, hend, Option.map_some, List.append_nil]
    · rw [lines_of_whole hline, List.mapM_cons, readHeader_of_headerAt header]
      rfl
  | @next line rest body h headers header _ ih =>
    obtain ⟨hline, c, more, rfl⟩ := header.line_eq
    obtain ⟨d, block, hcut, hlines, rest, rfl, hd⟩ := ih
    refine ⟨c, more ++ (lineEnd ++ d :: block), ?_, ?_, _, rfl,
      fun hc => hline (hc ▸ List.mem_cons_self)⟩
    · rw [cutWord_line hline, cutWord_lineEnd hd, hcut]
      rfl
    · rw [← List.cons_append, lines_line hline, List.mapM_cons, readHeader_of_headerAt header,
        hlines]
      rfl

lemma readRest_of_headersAt (hheaders : HeadersAt cs headers body) :
    readRest cs = some (headers, Octets.ofChars body) := by
  obtain ⟨c, block, hcut, hlines, -⟩ := exists_block hheaders
  simp only [readRest, cutBody, hcut, readHeaders, List.isEmpty_cons, Bool.false_eq_true, if_false,
    hlines, Option.bind_eq_bind, Option.bind_some]
  rfl

/-! ### Requests -/

/-- Pieces of ASCII are text. -/
lemma isText_partsOf {x : Pieces} (hx : x.IsAscii) : isText (partsOf x) = true := by
  have hsome : ∀ cs, Octets.IsAscii cs → (Octets.decode? cs).isSome = true :=
    fun _ => Octets.isSome_decode?
  obtain ⟨scheme, info, place, port, params⟩ := x
  simp only [isText, partsOf, List.all_cons, List.all_nil, Bool.and_true, Bool.and_eq_true]
  refine ⟨?_, ?_, hsome place hx.place, ?_⟩
  · cases info with
    | none => rfl
    | some info =>
      have hinfo := hx.info info rfl
      rw [eq_append_cutOptional ':' info, Octets.isAscii_append] at hinfo
      exact hsome _ hinfo.1
  · cases info with
    | none => rfl
    | some info =>
      have hinfo := hx.info info rfl
      rw [eq_append_cutOptional ':' info, Octets.isAscii_append] at hinfo
      rw [Option.bind_some]
      split
      · next password hpassword =>
        rw [hpassword] at hinfo
        exact hsome _ (Octets.isAscii_cons.mp hinfo.2).2
      · rfl
  · cases scheme with
    | none => rfl
    | some scheme =>
      cases scheme with
      | sip => rfl
      | sips => rfl
      | other name => exact hsome name (hx.scheme name rfl)

lemma readVersion_versionText {rest : List Char} (hrest : StartsIn (fun c => !c.isDigit) rest) :
    readVersion (versionText ++ rest) = some (⟨['2'], ['0']⟩, rest) := by
  simp only [readVersion, read_versionText hrest]
  rfl

lemma readRequest_of_requestAt {data : Octets} {q : WireRequest} (h : RequestAt data.chars q) :
    readRequest data = some q := by
  obtain @⟨word, target, rest, body, method, headers, x, r, htext, htoken, hnamed, hpieces, hmeans,
    hascii, hbehind⟩ := h
  have hspace : StartsIn (fun c => !isTokenChar c) (' ' :: target) := by
    rw [startsIn_cons]
    decide +kernel
  have hword : ∀ cs, dropWord [' '] (' ' :: cs) = some cs := dropWord_append [' ']
  have htarget : readTarget target = some (' ' :: (versionText ++ (lineEnd ++ rest))) := by
    simp only [readTarget, read_of_pieces Param.separates_isTokenChar hpieces,
      check_partsOf_iff.mpr hmeans, isText_partsOf hascii, if_true]
  have hversion : readVersion (versionText ++ (lineEnd ++ rest)) =
      some (⟨['2'], ['0']⟩, lineEnd ++ rest) :=
    readVersion_versionText (startsIn_cons.mpr rfl)
  simp only [readRequest, readRequestLine, htext, takeWhile_append htoken hspace,
    dropWhile_append htoken hspace, hnamed, hword, htarget, hversion, dropWord_append,
    readRest_of_headersAt hbehind, Option.bind_eq_bind, Option.bind_some, Option.pure_def]

/-- What is read as a request begins with a method. -/
lemma exists_word_of_readRequest {data : Octets} {q : WireRequest} (h : readRequest data = some q) :
    ∃ word rest, data.chars = word ++ ' ' :: rest ∧ AllIn isTokenChar word ∧
      WireMethod.read word = some q.method := by
  simp only [readRequest, readRequestLine, Option.bind_eq_bind, Option.bind_eq_some_iff] at h
  obtain ⟨⟨method, cs⟩, ⟨method', hmethod, behind, hdrop, _, -, _, -, version, -, _, -,
    hsame⟩, hrest⟩ := h
  obtain ⟨⟨headers, body⟩, -, hq⟩ := hrest
  cases hsame
  cases hq
  refine ⟨data.chars.takeWhile isTokenChar, behind, ?_, fun c hc => List.mem_takeWhile_imp hc,
    hmethod⟩
  have htext := List.takeWhile_append_dropWhile (p := isTokenChar) (l := data.chars)
  rw [eq_append_of_dropWord hdrop] at htext
  exact htext.symm

/-! ### Responses -/

lemma isLineBlank_eq_false_of_isDigit {c : Char} (h : c.isDigit = true) :
    isLineBlank c = false := by
  simp only [isLineBlank, Bool.or_eq_false_iff, beq_eq_false_iff_ne]
  constructor
  · rintro rfl
    cases h
  · rintro rfl
    cases h

/-- The reason ends where its line does. -/
lemma cutWord_reason {reason : List Char} (hreason : '\r' ∉ reason) (rest : List Char) :
    cutWord lineEnd (reason ++ (lineEnd ++ rest)) = some (reason, rest) := by
  have hend : cutWord lineEnd (lineEnd ++ rest) = some ([], rest) :=
    cutWord_of_dropWord (dropWord_append lineEnd rest)
  rw [lineEnd] at hend ⊢
  rw [cutWord_append hreason, hend, Option.map_some, List.append_nil]

lemma readResponse_of_responseAt {data : Octets} {code : UInt16} {body : Octets}
    (h : ResponseAt data.chars code headers body) :
    ∃ printed, readResponse data = some ⟨code, printed, headers, body⟩ := by
  obtain @⟨digits, reason, rest, body, _, _, htext, hlength, hdigit, hnumber, hwhole, hdecodes,
    hbehind⟩ := h
  obtain ⟨reasonText, hdecodes⟩ := Option.isSome_iff_exists.mp hdecodes
  have hblank : (' ' :: (digits ++ ' ' :: (reason ++ (lineEnd ++ rest)))).dropWhile isLineBlank =
      digits ++ ' ' :: (reason ++ (lineEnd ++ rest)) := by
    have hstart : StartsIn (fun c => !isLineBlank c)
        (digits ++ ' ' :: (reason ++ (lineEnd ++ rest))) := by
      obtain ⟨d, ds, rfl⟩ : ∃ d ds, digits = d :: ds :=
        List.exists_cons_of_length_pos (by omega)
      have hd := isLineBlank_eq_false_of_isDigit (hdigit d List.mem_cons_self)
      simp [hd]
    exact dropWhile_append (w := [' ']) (by decide) hstart
  have hversion : readVersion data.chars =
      some (⟨['2'], ['0']⟩, ' ' :: (digits ++ ' ' :: (reason ++ (lineEnd ++ rest)))) := by
    rw [htext, readVersion_versionText (startsIn_cons.mpr rfl)]
  have hcode : (digits ++ ' ' :: (reason ++ (lineEnd ++ rest))).take 3 = digits :=
    List.take_left' hlength
  have hafter : (digits ++ ' ' :: (reason ++ (lineEnd ++ rest))).drop 3 =
      ' ' :: (reason ++ (lineEnd ++ rest)) :=
    List.drop_left' hlength
  have hlong : 3 ≤ (digits ++ ' ' :: (reason ++ (lineEnd ++ rest))).length := by
    rw [List.length_append, hlength]
    exact Nat.le_add_right 3 _
  have hword : ∀ cs, dropWord [' '] (' ' :: cs) = some cs := dropWord_append [' ']
  have hspace : isLineBlank ' ' = true := rfl
  refine ⟨printedStatus ⟨['2'], ['0']⟩ code reasonText, ?_⟩
  simp only [readResponse, readStatusLine, hversion, Option.bind_eq_bind, Option.bind_some,
    List.head?_cons, Option.any_some, hspace, hblank, guard, if_true, if_pos hlong, hcode, hafter,
    hnumber, Except.toOption, hword, cutWord_reason hwhole, hdecodes,
    readRest_of_headersAt hbehind, Option.pure_def]

end Tokenizer

/-- The tokenizer reads the messages that are written by the rules. -/
theorem Grammar.readsMessages_tokenizer : tokenizer.ReadsMessages where
  request _ _ h := Tokenizer.readRequest_of_requestAt h
  response _ _ _ _ h := Tokenizer.readResponse_of_responseAt h
  method _ _ h := Tokenizer.exists_word_of_readRequest h

end SipAgent
