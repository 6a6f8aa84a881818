import SipAgent.Message.Signal
import SipAgent.Proofs.Grammar.Header
import SipAgent.Proofs.Uri.Written

/-!
# Parties as they are written

The ways a party is written in a From, To or Contact field. By the rules each is read with the
address, the name and the parameters that were written.
-/

namespace SipAgent

open Text

variable {params : List Param}

/-! ### Addresses in a field -/

/-- An address in angle brackets, with parameters behind it. -/
lemma PartyAt.around {display : List Char} (s : Uri.Spelled) (hopen : '<' ∉ display)
    (hplain : ∀ p ∈ params, p.Plain isTextTokenChar) : ∃ r,
    PartyAt (display ++ '<' :: (s.text ++ '>' :: params.flatMap Param.text)) display r params ∧
      r.party = .ok s.uri := by
  obtain ⟨r, hfollows, hparty⟩ := s.follows_text isTextTokenChar
  exact ⟨r, .bracketed hopen (s.not_mem_text rfl (by decide) (by decide))
    (fun p hp => (hplain p hp).tokens) (fun p hp => (hplain p hp).known) hfollows, hparty⟩

/-- An address by itself, with parameters behind it. -/
lemma PartyAt.by_itself (s : Uri.Spelled) (hplain : ∀ p ∈ params, p.Plain isTextTokenChar) : ∃ r,
    PartyAt (s.text ++ params.flatMap Param.text) [] r params ∧ r.party = .ok s.uri := by
  have htokens : ∀ p ∈ params, p.Tokens isTextTokenChar := fun p hp => (hplain p hp).tokens
  have hat : '@' ∉ params.flatMap Param.text :=
    Param.not_mem_text (by decide +kernel) (by decide) (by decide) htokens
  have hbracket : '<' ∉ params.flatMap Param.text :=
    Param.not_mem_text (by decide +kernel) (by decide) (by decide) htokens
  have hopens : '<' ∉ s.text ++ params.flatMap Param.text := by
    rw [List.mem_append, not_or]
    exact ⟨s.not_mem_text rfl (by decide) (by decide), hbracket⟩
  have hpieces := s.piecesAt_text (Param.startsIn_text rfl params) (fun _ => hat)
    (Param.paramsAt_text Param.separates_isTextTokenChar htokens)
  obtain ⟨r, hmeans, hparty⟩ := s.legible.means_pieces fun p hp => (hplain p hp).known
  have hparams : (s.uri.pieces params).params = params := by
    unfold Uri.pieces
    split
    · rfl
    · split <;> rfl
  have hpartyAt := PartyAt.bare hopens hpieces hmeans
  rw [hparams] at hpartyAt
  exact ⟨r, hpartyAt, hparty⟩

/-- A party as it is written: any text that is one by the rules, and the parameters in it. -/
structure PartyForm where
  text : List Char
  params : List Param
  partyAt : ∃ display r, PartyAt text display r params

namespace PartyForm

/-- The tag of the party. -/
def tag (p : PartyForm) : Option Tag :=
  (Param.lookup "tag" p.params).map String.ofList

/-- A spelled address in angle brackets, with plain parameters behind it. -/
def around (display : List Char) (s : Uri.Spelled) (params : List Param) (hopen : '<' ∉ display)
    (hplain : ∀ p ∈ params, p.Plain isTextTokenChar) : PartyForm where
  text := display ++ '<' :: (s.text ++ '>' :: params.flatMap Param.text)
  params := params
  partyAt :=
    let ⟨r, hpartyAt, _⟩ := PartyAt.around s hopen hplain
    ⟨display, r, hpartyAt⟩

end PartyForm

/-! ### Display names -/

/-- A display name that stands in quotes, and the blanks after it. -/
structure QuotedName where
  name : List Char
  gap : List Char
  name_ne : name ≠ []
  name_trimmed : Trimmed isBlank name
  name_unquoted : Trimmed (· == '"') name
  name_bracket : '<' ∉ name
  gap_blank : AllIn isLineBlank gap

namespace QuotedName

/-- The text in front of the angle bracket. -/
def display (q : QuotedName) : List Char :=
  '"' :: (q.name ++ '"' :: q.gap)

lemma bracket_not_mem_display (q : QuotedName) : '<' ∉ q.display := by
  have hgap := not_mem_of_class (c := '<') q.gap_blank rfl
  simp [display, q.name_bracket, hgap]

lemma isBlank_of_isLineBlank {c : Char} (h : isLineBlank c = true) : isBlank c = true := by
  simp only [isLineBlank, Bool.or_eq_true, beq_iff_eq] at h
  rcases h with rfl | rfl <;> rfl

/-- The quotes stay when the blanks are gone. -/
lemma trim_display (q : QuotedName) : trim isBlank q.display = '"' :: (q.name ++ ['"']) := by
  have hgap : AllIn isBlank q.gap := fun c hc =>
    isBlank_of_isLineBlank (q.gap_blank c hc)
  have hquotes : Trimmed isBlank ('"' :: (q.name ++ ['"'])) := by
    refine ⟨?_, ?_⟩ <;> simp <;> rfl
  have h := trim_append [] nofun hgap hquotes nofun
  simpa [display] using h

/-- The name is found again between the quotes. -/
lemma displayName_eq (q : QuotedName) {display : String}
    (h : display.toList = trim isBlank q.display) :
    Message.displayName display = some (String.ofList q.name) := by
  have hname : trim (· == '"') ('"' :: (q.name ++ ['"'])) = q.name :=
    trim_append ['"'] (by decide) (by decide) q.name_unquoted q.name_ne
  simp only [Message.displayName, h, q.trim_display, hname, trim_of_trimmed q.name_trimmed]
  split
  · next h => exact absurd h q.name_ne
  · rfl

end QuotedName

/-- What stands in front of the address of a party: nothing, then parameters follow the address
itself, or an angle bracket, perhaps with a name in front of it. -/
inductive Front where
  | bare
  | bracket
  | quoted (q : QuotedName)

namespace Front

/-- The display name of a party. -/
def displayName : Front → Option String
  | .bare | .bracket => none
  | .quoted q => some (String.ofList q.name)

/-- The text in front of the angle bracket, if there is one. -/
def display : Front → List Char
  | .bare | .bracket => []
  | .quoted q => q.display

end Front

/-- Without a display name, there is no name. -/
lemma Message.bind_displayName (display : Option String) :
    display.bind displayName = displayName (display.getD "") := by
  cases display with
  | none => rfl
  | some display => rfl

/-- The name of a party is found again in what it says. -/
lemma Party.Says.displayName_eq {q : Party} {front : Front} {r : Uri.Reference}
    (h : q.Says front.display r params) :
    q.display.bind Message.displayName = front.displayName := by
  have hdisplay := h.display
  have hnone : trim isBlank [] = [] := rfl
  rw [Message.bind_displayName]
  cases front with
  | bare | bracket =>
    simp only [Message.displayName, hdisplay, Front.display, hnone, Front.displayName]
    rfl
  | quoted name => exact name.displayName_eq hdisplay

/-! ### Users at hosts -/

/-- A party as it is written: a user at a host. -/
structure WrittenParty where
  front : Front
  account : Uri.Account
  params : List Param
  params_plain : ∀ p ∈ params, p.Plain isTextTokenChar

namespace WrittenParty

variable (p : WrittenParty)

/-- The value of the field. -/
def text : List Char :=
  match p.front with
  | .bare => p.account.text ++ p.params.flatMap Param.text
  | .bracket => '<' :: (p.account.text ++ '>' :: p.params.flatMap Param.text)
  | .quoted q => q.display ++ '<' :: (p.account.text ++ '>' :: p.params.flatMap Param.text)

/-- The tag of the party. -/
def tag : Option Tag :=
  (Param.lookup "tag" p.params).map String.ofList

/-- The party as a peer. -/
def peer : Peer :=
  ⟨p.account.uri, p.front.displayName⟩

/-- By the rules the text of a party is that party. -/
lemma exists_partyAt : ∃ r, PartyAt p.text p.front.display r p.params ∧
    r.party = .ok p.account.uri := by
  unfold text
  rw [← p.account.text_spelled]
  cases p.front with
  | bare => exact PartyAt.by_itself p.account.spelled p.params_plain
  | bracket => exact PartyAt.around p.account.spelled List.not_mem_nil p.params_plain
  | quoted q => exact PartyAt.around p.account.spelled q.bracket_not_mem_display p.params_plain

end WrittenParty

end SipAgent
