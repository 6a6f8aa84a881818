import Mathlib.Data.List.TakeWhile
import SipAgent.Net.IPv6
import SipAgent.Proofs.Text.Cutting
import SipAgent.Proofs.Text.Numeral

/-!
# Network addresses that are read back

The canonical text of an address is read back as the address. In an IPv6 address the one place with
two colons is the mark for the zero groups that are left out, so the text falls into the groups in
front of the mark and those behind it.
-/

namespace SipAgent

open Text

namespace IPv4

/-- An octet is read back from its numeral. -/
lemma readOctet_decimal (b : UInt8) : readOctet (decimal b.toNat) = some b := by
  have hall : ∀ n < 256, readOctet (decimal n) = some (UInt8.ofNat n) := by decide +kernel
  rw [hall b.toNat b.toNat_lt, UInt8.ofNat_toNat]

lemma point_not_mem_decimal (n : Nat) : '.' ∉ decimal n :=
  not_mem_decimal n rfl

/-- An address is read back from its dotted decimal form. -/
theorem read_chars (ip : IPv4) : read ip.chars = some ip := by
  have hpieces : pieces '.' ip.chars =
      [decimal ip.a.toNat, decimal ip.b.toNat, decimal ip.c.toNat, decimal ip.d.toNat] := by
    have hd := pieces_of_not_mem (point_not_mem_decimal ip.d.toNat)
    have hc := pieces_append (decimal ip.d.toNat) (point_not_mem_decimal ip.c.toNat)
    have hb := pieces_append (decimal ip.c.toNat ++ '.' :: decimal ip.d.toNat)
      (point_not_mem_decimal ip.b.toNat)
    have ha := pieces_append
      (decimal ip.b.toNat ++ '.' :: (decimal ip.c.toNat ++ '.' :: decimal ip.d.toNat))
      (point_not_mem_decimal ip.a.toNat)
    rw [hb, hc, hd] at ha
    simpa [chars] using ha
  simp only [read, hpieces, List.mapM_cons, List.mapM_nil, readOctet_decimal]
  rfl

end IPv4

namespace IPv6

/-! ### Groups -/

lemma colon_not_mem_hex (n : Nat) : ':' ∉ hex n := fun h => by
  cases isSome_of_mem_hex h

lemma readGroup_hex (group : UInt16) : readGroup (hex group.toNat) = some group := by
  have hlt : group.toNat < 16 ^ 4 := group.toNat_lt
  have hlength : (hex group.toNat).length ≤ 4 :=
    (Nat.length_toDigits_le_iff (by decide) (by decide)).mpr hlt
  have hne : (hex group.toNat).length ≠ 0 := by
    simp [hex_ne_nil]
  rw [readGroup, if_neg (by omega), readInBase_hex, Option.map_some, UInt16.ofNat_toNat]

lemma pieces_groupChars {groups : List UInt16} (hne : groups ≠ []) :
    pieces ':' (groupChars groups) = groups.map fun group => hex group.toNat := by
  induction groups with
  | nil => exact absurd rfl hne
  | cons group more ih =>
    cases more with
    | nil => exact pieces_of_not_mem (colon_not_mem_hex group.toNat)
    | cons next more =>
      rw [groupChars, pieces_append _ (colon_not_mem_hex group.toNat), ih nofun]
      · rfl
      · nofun

lemma readPieces_hex (tailIPv4 : Bool) (groups : List UInt16) :
    readPieces tailIPv4 (groups.map fun group => hex group.toNat) = some groups := by
  induction groups with
  | nil => rfl
  | cons group more ih =>
    cases more with
    | nil => simp only [List.map_cons, List.map_nil, readPieces, readGroup_hex]
    | cons next more =>
      simp only [List.map_cons] at ih
      simp only [List.map_cons, readPieces, readGroup_hex, ih, Option.map_some]

/-- What is written for a group and those after it begins with the digits of the group. -/
lemma groupChars_cons (group : UInt16) (more : List UInt16) :
    ∃ later, groupChars (group :: more) = hex group.toNat ++ later := by
  cases more with
  | nil => exact ⟨[], (List.append_nil _).symm⟩
  | cons next more => exact ⟨_, rfl⟩

lemma startsIn_groupChars (group : UInt16) (more : List UInt16) (rest : List Char) :
    ∃ c later, groupChars (group :: more) ++ rest = c :: later ∧ c ≠ ':' := by
  obtain ⟨later, hlater⟩ := groupChars_cons group more
  obtain ⟨c, digits, hdigits⟩ := List.exists_cons_of_ne_nil (hex_ne_nil group.toNat)
  refine ⟨c, digits ++ later ++ rest, by rw [hlater, hdigits]; rfl, ?_⟩
  rintro rfl
  exact colon_not_mem_hex group.toNat (hdigits ▸ List.mem_cons_self)

/-- Groups joined by colons are read back, whether or not an IPv4 address may follow. -/
lemma readGroups_groupChars (tailIPv4 : Bool) (groups : List UInt16) :
    readGroups tailIPv4 (groupChars groups) = some groups := by
  cases groups with
  | nil => rfl
  | cons group more =>
    obtain ⟨c, later, hstart, -⟩ := startsIn_groupChars group more []
    rw [List.append_nil] at hstart
    have hne : (groupChars (group :: more)).isEmpty = false := by
      rw [hstart]
      rfl
    have hpieces := pieces_groupChars (List.cons_ne_nil group more)
    rw [readGroups, hne, hpieces]
    exact readPieces_hex tailIPv4 (group :: more)

/-! ### The mark for zero groups -/

/-- Groups joined by colons are passed over by a search for two colons. -/
lemma cutWord_groupChars (groups : List UInt16) (rest : List Char) :
    cutWord [':', ':'] (groupChars groups ++ rest) =
      (cutWord [':', ':'] rest).map fun split => (groupChars groups ++ split.1, split.2) := by
  induction groups with
  | nil => simp [groupChars]
  | cons group more ih =>
    cases more with
    | nil => exact cutWord_append (colon_not_mem_hex group.toNat)
    | cons next more =>
      -- The colon behind a group is followed by a digit of the next one, not by another colon.
      obtain ⟨c, later, hstart, hc⟩ := startsIn_groupChars next more rest
      have hcolon : cutWord [':', ':'] (':' :: (groupChars (next :: more) ++ rest)) =
          (cutWord [':', ':'] (groupChars (next :: more) ++ rest)).map fun split =>
            (':' :: split.1, split.2) := by
        have hdrop : dropWord [':', ':'] (':' :: c :: later) = none := by
          simp [dropWord, Ne.symm hc]
        rw [hstart, cutWord, hdrop]
      have htext : groupChars (group :: next :: more) ++ rest =
          hex group.toNat ++ ':' :: (groupChars (next :: more) ++ rest) := by
        simp [groupChars]
      rw [htext, cutWord_append (colon_not_mem_hex group.toNat), hcolon, ih, Option.map_map,
        Option.map_map]
      simp [groupChars, Function.comp_def]

/-- The run of zero groups that is left out stands where it is said to stand. -/
lemma longestZeroRun_spec (start : Nat) (groups : List UInt16) : ∃ front back,
    groups = front ++ (List.replicate (longestZeroRun start groups).2 0 ++ back) ∧
      (longestZeroRun start groups).1 = start + front.length := by
  induction groups generalizing start with
  | nil => exact ⟨[], [], rfl, rfl⟩
  | cons group rest ih =>
    obtain ⟨front, back, hrest, hstart⟩ := ih (start + 1)
    rw [longestZeroRun]
    dsimp only
    split
    · have hzeros : (group :: rest).takeWhile (· == 0) =
          List.replicate (zeroRun (group :: rest)) 0 := by
        rw [List.eq_replicate_iff]
        exact ⟨rfl, fun g hg => by simpa using List.mem_takeWhile_imp hg⟩
      refine ⟨[], (group :: rest).dropWhile (· == 0), ?_, rfl⟩
      dsimp only
      rw [← hzeros, List.nil_append, List.takeWhile_append_dropWhile]
    · refine ⟨group :: front, back, ?_, ?_⟩
      · dsimp only
        rw [List.cons_append, ← hrest]
      · dsimp only
        rw [hstart, List.length_cons]
        omega

lemma ofGroups?_groups (ip : IPv6) : ofGroups? ip.groups = some ip := by
  rw [ofGroups?, dif_pos ip.length_eq]

/-- An address in which zero groups are left out is read back. -/
lemma read_shortened {ip : IPv6} {front back : List UInt16} {length : Nat}
    (h : ip.groups = front ++ (List.replicate length 0 ++ back)) (hlength : 0 < length) :
    read (groupChars front ++ ':' :: ':' :: groupChars back) = some ip := by
  have hcut : cutWord [':', ':'] (groupChars front ++ ':' :: ':' :: groupChars back) =
      some (groupChars front, groupChars back) := by
    rw [cutWord_groupChars, cutWord]
    simp [dropWord]
  have hsum : front.length + (length + back.length) = 8 := by
    have := ip.length_eq
    simpa [h] using this
  have hmissing : 8 - (front.length + back.length) = length := by
    omega
  simp only [read, hcut, readGroups_groupChars, hmissing]
  rw [if_pos (by omega), List.append_assoc, ← h, ofGroups?_groups]

lemma read_groupChars (ip : IPv6) : read (groupChars ip.groups) = some ip := by
  have hcut : cutWord [':', ':'] (groupChars ip.groups) = none := by
    have h := cutWord_groupChars ip.groups []
    rwa [List.append_nil] at h
  simp only [read, hcut, readGroups_groupChars, Option.bind_some, ofGroups?_groups]

/-- The two groups that embed an IPv4 address are found again. -/
lemma groupsOfIPv4_eq (x y : UInt16) :
    groupsOfIPv4 ⟨UInt8.ofNat (x.toNat / 256), UInt8.ofNat x.toNat, UInt8.ofNat (y.toNat / 256),
      UInt8.ofNat y.toNat⟩ = [x, y] := by
  have hword : ∀ w : UInt16,
      (UInt8.ofNat (w.toNat / 256)).toNat * 256 + (UInt8.ofNat w.toNat).toNat = w.toNat := by
    intro w
    have hlt := w.toNat_lt
    rw [UInt8.toNat_ofNat', UInt8.toNat_ofNat']
    omega
  simp only [groupsOfIPv4, hword, UInt16.ofNat_toNat]

lemma readGroup_ipv4 (v4 : IPv4) : readGroup v4.chars = none := by
  have hlength : ∀ n, 0 < (decimal n).length := fun n => Nat.length_toDigits_pos
  have ha := hlength v4.a.toNat
  have hb := hlength v4.b.toNat
  have hc := hlength v4.c.toNat
  have hd := hlength v4.d.toNat
  rw [readGroup, if_pos]
  right
  simp only [IPv4.chars, List.length_append, List.length_cons]
  omega

lemma colon_not_mem_ipv4 (v4 : IPv4) : ':' ∉ v4.chars := by
  have hdecimal : ∀ n, ':' ∉ decimal n := fun n => not_mem_decimal n rfl
  simp [IPv4.chars, hdecimal]

/-- An address that shows the IPv4 address in it is read back. -/
lemma read_mapped (v4 : IPv4) : read ("::ffff:".toList ++ v4.chars) =
    ofGroups? ([0, 0, 0, 0, 0, 0xffff] ++ groupsOfIPv4 v4) := by
  have hpieces : pieces ':' ("ffff:".toList ++ v4.chars) = ["ffff".toList, v4.chars] := by
    have hfirst : pieces ':' ("ffff".toList ++ ':' :: v4.chars) =
        "ffff".toList :: pieces ':' v4.chars :=
      pieces_append v4.chars (by decide)
    rwa [pieces_of_not_mem (colon_not_mem_ipv4 v4)] at hfirst
  have hgroups : readGroups true ("ffff:".toList ++ v4.chars) =
      some (0xffff :: groupsOfIPv4 v4) := by
    have hfirst : readGroup "ffff".toList = some 0xffff := by decide
    have hlast : readPieces true [v4.chars] = some (groupsOfIPv4 v4) := by
      simp only [readPieces, readGroup_ipv4, IPv4.read_chars]
      rfl
    have hfull : ("ffff:".toList ++ v4.chars).isEmpty = false := rfl
    rw [readGroups, hfull, hpieces, if_neg Bool.false_ne_true, readPieces, hfirst]
    · dsimp only
      rw [hlast, Option.map_some]
    · nofun
  have hcut : cutWord [':', ':'] ("::ffff:".toList ++ v4.chars) =
      some ([], "ffff:".toList ++ v4.chars) := rfl
  have hnone : readGroups false [] = some [] := rfl
  simp only [read, hcut, hnone, hgroups]
  rfl

/-- An address is read back from its canonical text. -/
theorem read_chars (ip : IPv6) : read ip.chars = some ip := by
  unfold chars
  split
  · next v4 hv4 =>
    unfold mappedIPv4? at hv4
    split at hv4
    · next x y hgroups =>
      cases hv4
      rw [read_mapped, groupsOfIPv4_eq, List.cons_append, ← ofGroups?_groups ip, hgroups]
      rfl
    · cases hv4
  · obtain ⟨front, back, hgroups, hstart⟩ := longestZeroRun_spec 0 ip.groups
    generalize longestZeroRun 0 ip.groups = run at hgroups hstart ⊢
    obtain ⟨start, length⟩ := run
    dsimp only at hgroups hstart ⊢
    split
    · next hlong =>
      have hdrop : ip.groups.drop (start + length) = back := by
        rw [hgroups, hstart, Nat.zero_add, ← List.drop_drop, List.drop_left,
          List.drop_left' List.length_replicate]
      have htake : ip.groups.take start = front := by
        rw [hgroups, hstart, Nat.zero_add, List.take_left]
      rw [htake, hdrop]
      exact read_shortened hgroups (Nat.lt_of_succ_lt hlong)
    · exact read_groupChars ip

/-! ### What the text is made of -/

lemma isAlphanum_of_mem_hex {c : Char} {n : Nat} (h : c ∈ hex n) : c.isAlphanum = true := by
  have hdigit := isSome_of_mem_hex h
  unfold hexDigit? at hdigit
  delta Char.isAlphanum Char.isAlpha Char.isUpper Char.isLower Char.isDigit
  simp only [Bool.or_eq_true, Bool.and_eq_true, decide_eq_true_eq]
  split_ifs at hdigit with hdecimal hlower hupper
  · exact .inr hdecimal
  · exact .inl (.inr ⟨hlower.1, UInt32.le_trans hlower.2 (by decide)⟩)
  · exact .inl (.inl ⟨hupper.1, UInt32.le_trans hupper.2 (by decide)⟩)
  · cases hdigit

lemma mem_groupChars {c : Char} {groups : List UInt16} (h : c ∈ groupChars groups) :
    c.isAlphanum = true ∨ c = ':' := by
  induction groups with
  | nil => cases h
  | cons group more ih =>
    cases more with
    | nil => exact .inl (isAlphanum_of_mem_hex h)
    | cons next more =>
      rw [groupChars, List.mem_append, List.mem_cons] at h
      · rcases h with h | h | h
        · exact .inl (isAlphanum_of_mem_hex h)
        · exact .inr h
        · exact ih h
      · nofun

lemma mem_chars_ipv4 {c : Char} {v4 : IPv4} (h : c ∈ v4.chars) : c.isAlphanum = true ∨ c = '.' := by
  have hdecimal : ∀ n, c ∈ decimal n → c.isAlphanum = true := fun n hn => by
    rw [Char.isAlphanum, isDigit_of_mem_decimal hn, Bool.or_true]
  simp only [IPv4.chars, List.mem_append, List.mem_cons] at h
  rcases h with ((h | h | h) | h | h) | h | h
  · exact .inl (hdecimal _ h)
  · exact .inr h
  · exact .inl (hdecimal _ h)
  · exact .inr h
  · exact .inl (hdecimal _ h)
  · exact .inr h
  · exact .inl (hdecimal _ h)

/-- The text of an address is made of letters, digits, colons and points. -/
lemma mem_chars {ip : IPv6} {c : Char} (h : c ∈ ip.chars) :
    c.isAlphanum = true ∨ c = ':' ∨ c = '.' := by
  unfold chars at h
  split at h
  · have hmark : AllIn (fun c => c.isAlphanum || c == ':') "::ffff:".toList := by decide
    rcases List.mem_append.mp h with h | h
    · have hc := hmark c h
      simp only [Bool.or_eq_true, beq_iff_eq] at hc
      exact hc.imp_right .inl
    · exact (mem_chars_ipv4 h).imp_right .inr
  · dsimp only at h
    split at h
    · rw [List.mem_append, List.mem_cons, List.mem_cons] at h
      rcases h with h | h | h | h
      · exact (mem_groupChars h).imp_right .inl
      · exact .inr (.inl h)
      · exact .inr (.inl h)
      · exact (mem_groupChars h).imp_right .inl
    · exact (mem_groupChars h).imp_right .inl

/-- There is a colon in the text of every address. -/
lemma colon_mem_chars (ip : IPv6) : ':' ∈ ip.chars := by
  unfold chars
  split
  · exact List.mem_append_left _ List.mem_cons_self
  · dsimp only
    split
    · exact List.mem_append_right _ List.mem_cons_self
    · obtain ⟨groups, hlength⟩ := ip
      match groups, hlength with
      | group :: next :: more, _ => exact List.mem_append_right _ List.mem_cons_self

end IPv6

end SipAgent
