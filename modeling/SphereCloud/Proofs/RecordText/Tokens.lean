import SphereCloud.Proofs.Basic
import SphereCloud.RecordText.Integer

/-!
How tokens are told from what is around them: blanks in front, plain names, words and whole numbers
in front of other text.
-/

namespace SphereCloud.RecordText

def opensToken (c : Char) : Bool :=
  !isBlank c && c ≠ '/'

theorem skipBlank_of_opensToken {c : Char} (h : opensToken c) (s : Source) :
    skipBlank (c :: s) = .ok (c :: s) := by
  simp only [opensToken, Bool.and_eq_true, Bool.not_eq_true', decide_eq_true_eq] at h
  rw [skipBlank, skipBlankIn.eq_def]
  split <;> simp_all

theorem skipBlank_cons {c : Char} (h : isBlank c) (s : Source) :
    skipBlank (c :: s) = skipBlank s := by
  have hslash : c ≠ '/' := by
    rintro rfl
    revert h
    decide
  rw [skipBlank, skipBlankIn.eq_def]
  split <;> simp_all [skipBlank]

theorem skipBlank_append {blanks : List Char} (h : ∀ c ∈ blanks, isBlank c) (s : Source) :
    skipBlank (blanks ++ s) = skipBlank s := by
  induction blanks with
  | nil => rfl
  | cons c blanks ih =>
    obtain ⟨hc, hblanks⟩ := List.forall_mem_cons.mp h
    rw [List.cons_append, skipBlank_cons hc, ih hblanks]

theorem ne_of_isDigit {c d : Char} (hc : c.isDigit) (hd : d.isDigit = false) : c ≠ d := by
  rintro rfl
  simp [hd] at hc

theorem opensToken_of_isDigit {c : Char} (h : c.isDigit) : opensToken c := by
  have hne {d : Char} (hd : d.isDigit = false) : c ≠ d := ne_of_isDigit h hd
  simp (disch := decide) [opensToken, isBlank, hne]

theorem comma_cons {s r : Source} (h : skipBlank s = .ok r) : comma (',' :: s) = .ok (true, r) := by
  have hcomma : skipBlank (',' :: s) = .ok (',' :: s) := skipBlank_of_opensToken (by decide) s
  rw [comma, hcomma, ok_bind]
  simp only [h, ok_bind]
  rfl

theorem comma_of_ne {c : Char} (h : opensToken c) (hne : c ≠ ',') (s : Source) :
    comma (c :: s) = .ok (false, c :: s) := by
  rw [comma, skipBlank_of_opensToken h, ok_bind]
  split
  · simp_all
  · rfl

theorem after?_append (lead s : Source) : after? lead (lead ++ s) = some s := by
  induction lead with
  | nil => rfl
  | cons c lead ih => simpa [after?] using ih

/-- Whether no name goes on at the beginning of the text. -/
def endsWord (s : Source) : Bool :=
  !s.head?.any Text.isNameChar

def blankChars : List Char :=
  [' ', '\t', '\n', '\r', '\x0b', '\x0c', '\u0085', '\u200e', '\u200f', '\u2028', '\u2029']

theorem isNameChar_of_isBlank {c : Char} (h : isBlank c) : Text.isNameChar c = false := by
  have hmem : c ∈ blankChars := by simpa [isBlank, blankChars, or_assoc] using h
  have hall : blankChars.all fun d => !Text.isNameChar d := by decide +kernel
  simpa using List.all_eq_true.mp hall c hmem

/-- Blanks go on no name. -/
theorem endsWord_blanks {blanks s : List Char} (hblanks : ∀ c ∈ blanks, isBlank c)
    (hs : endsWord s) : endsWord (blanks ++ s) := by
  cases blanks with
  | nil => exact hs
  | cons c blanks => simp [endsWord, isNameChar_of_isBlank (hblanks c List.mem_cons_self)]

theorem afterWord?_append (w : String) {s : Source} (h : endsWord s) :
    afterWord? w (w.toList ++ s) = some s := by
  rw [afterWord?, after?_append]
  simpa [endsWord] using h

theorem afterWord?_of_ne {w : String} {c d : Char} {lead s : Source} (hw : w.toList = c :: lead)
    (hne : c ≠ d) : afterWord? w (d :: s) = none := by
  simp [afterWord?, hw, after?, hne]

/-- What a run of characters ends at is not one of them. -/
theorem span_append {p : Char → Bool} {run s : List Char} (hrun : ∀ c ∈ run, p c)
    (hs : s.head?.any p = false) : (run ++ s).takeWhile p = run ∧ (run ++ s).dropWhile p = s := by
  rw [List.takeWhile_append_of_pos hrun, List.dropWhile_append_of_pos hrun]
  cases s with
  | nil => simp
  | cons c s =>
    have hc : p c = false := by simpa using hs
    simp [hc]

/-- Whether a name can be taken neither for a raw one nor for a literal. -/
def isPlainName (name : String) : Bool :=
  match name.toList with
  | [] => false
  | c :: r => isNameStart c && c ≠ 'r' && c ≠ 'b' && r.all Text.isNameChar

theorem isNameChar_of_isNameStart {c : Char} (h : isNameStart c) : Text.isNameChar c := by
  rcases (Bool.or_eq_true _ _).mp h with h | h
  · obtain rfl : c = '_' := by simpa using h
    decide
  · exact Text.isNameChar_of_isLetter h

theorem readName_append {name : String} (h : isPlainName name) {s : Source}
    (hs : s.head?.any isRawNameChar = false) : readName (name.toList ++ s) = .ok (name, s) := by
  obtain ⟨c, r, htext⟩ : ∃ c r, name.toList = c :: r := by
    refine List.exists_cons_of_ne_nil fun hnil => ?_
    simp [isPlainName, hnil] at h
  simp only [isPlainName, htext, Bool.and_eq_true, decide_eq_true_eq, List.all_eq_true] at h
  obtain ⟨⟨⟨hstart, hraw⟩, hbyte⟩, hr⟩ := h
  have hname : ∀ d ∈ c :: r, Text.isNameChar d :=
    List.forall_mem_cons.mpr ⟨isNameChar_of_isNameStart hstart, hr⟩
  have hs' : s.head?.any Text.isNameChar = false := by
    cases s with
    | nil => rfl
    | cons d s => simp_all [isRawNameChar]
  have hliteral : startsLiteral (c :: (r ++ s)) = false := by
    have hquote : c ≠ '"' := by
      rintro rfl
      revert hstart
      decide
    rw [startsLiteral.eq_def]
    split <;> simp_all
  obtain ⟨htake, hdrop⟩ := span_append hname hs'
  have hrawName : ∀ d ∈ c :: r, isRawNameChar d := fun d hd => by simp [isRawNameChar, hname d hd]
  obtain ⟨htakeRaw, -⟩ := span_append hrawName hs
  rw [List.cons_append] at htake hdrop htakeRaw
  rw [htext, List.cons_append, readName, if_pos hstart, hliteral, if_neg Bool.false_ne_true,
    readWord.eq_def]
  split
  · simp_all
  · rw [htake, hdrop, htakeRaw, ← htext, if_neg (Nat.lt_irrefl _), String.ofList_toList]

theorem hexDigit?_of_isDigit {c : Char} (h : c.isDigit) :
    hexDigit? c = some (c.toNat - '0'.toNat) ∧ c.toNat - '0'.toNat < 10 := by
  obtain ⟨hlow, hhigh⟩ : 48 ≤ c.toNat ∧ c.toNat ≤ 57 := by
    simpa [Char.isDigit, UInt32.le_iff_toNat_le] using h
  refine ⟨if_pos ⟨?_, ?_⟩, by simp; omega⟩
  · rwa [Char.le_def, UInt32.le_iff_toNat_le]
  · rwa [Char.le_def, UInt32.le_iff_toNat_le]

theorem le_ofDigitChars (digits : List Char) (n : Nat) : n ≤ Nat.ofDigitChars 10 digits n := by
  induction digits generalizing n with
  | nil => simp
  | cons c digits ih =>
    rw [Nat.ofDigitChars_cons]
    have := ih (10 * n + (c.toNat - '0'.toNat))
    omega

theorem IntKind.holds_natCast {kind : IntKind} (h : kind.least ≤ 0) {n : Nat} :
    kind.holds n ↔ n < kind.reach := by
  simp only [holds, Bool.and_eq_true, decide_eq_true_eq]
  unfold greatest
  omega

/-- Digits are read to the number they make, if that is one of the kind. -/
theorem appendDigits_eq {kind : IntKind} (hleast : kind.least ≤ 0) {digits : List Char}
    (hdigits : ∀ c ∈ digits, c.isDigit) (n : Nat) (hn : n < kind.reach) :
    appendDigits kind 10 false n digits =
      if Nat.ofDigitChars 10 digits n < kind.reach then .ok (Nat.ofDigitChars 10 digits n : Int)
      else .error (.outOfBounds, []) := by
  induction digits generalizing n with
  | nil => simp [appendDigits, hn]
  | cons c digits ih =>
    obtain ⟨hc, hdigits⟩ := List.forall_mem_cons.mp hdigits
    have hne : c ≠ '_' := by
      rintro rfl
      revert hc
      decide
    obtain ⟨hvalue, hlt⟩ := hexDigit?_of_isDigit hc
    have hle := le_ofDigitChars digits (10 * n + (c.toNat - '0'.toNat))
    have hshift : (n : Int) * (10 : Nat) = ((10 * n : Nat) : Int) := by omega
    have hnext : ((10 * n : Nat) : Int) + ((c.toNat - '0'.toNat : Nat) : Int) =
        ((10 * n + (c.toNat - '0'.toNat) : Nat) : Int) := by omega
    rw [appendDigits, if_neg hne, Nat.ofDigitChars_cons]
    simp only [hvalue, Option.getD_some, hshift, hnext, Bool.not_eq_true', Bool.false_eq_true,
      if_false, if_neg (Nat.not_le.mpr hlt), ← Bool.not_eq_true, IntKind.holds_natCast hleast]
    split
    · rw [if_neg (by omega)]
    · split
      case isTrue hreach => exact ih hdigits _ hreach
      case isFalse => rw [if_neg (by omega)]

theorem range_of_hexDigit? {c : Char} (h : (hexDigit? c).isSome) :
    (48 ≤ c.toNat ∧ c.toNat ≤ 57) ∨ (97 ≤ c.toNat ∧ c.toNat ≤ 102) ∨
      (65 ≤ c.toNat ∧ c.toNat ≤ 70) := by
  unfold hexDigit? at h
  simp only [Char.le_def, UInt32.le_iff_toNat_le] at h
  split at h
  case isTrue hc => exact .inl hc
  case isFalse =>
    split at h
    case isTrue hc => exact .inr (.inl hc)
    case isFalse =>
      split at h
      case isTrue hc => exact .inr (.inr hc)
      case isFalse => cases h

theorem isNameChar_of_isDigitChar {c : Char} (h : isDigitChar c) : Text.isNameChar c := by
  by_cases hunderscore : c = '_'
  · subst hunderscore
    decide
  · have hdigit : (hexDigit? c).isSome := by simpa [isDigitChar, hunderscore] using h
    have hrange := range_of_hexDigit? hdigit
    have hascii : c.toNat < 128 := by omega
    have hclass : (65 ≤ c.toNat ∧ c.toNat ≤ 90 ∨ 97 ≤ c.toNat ∧ c.toNat ≤ 122) ∨
        48 ≤ c.toNat ∧ c.toNat ≤ 57 := by omega
    have halnum : c.isAlphanum = (decide (c.val ≥ 65 ∧ c.val ≤ 90) ||
        (decide (c.val ≥ 97) && decide (c.val ≤ 122)) ||
        (decide (c.val ≥ 48) && decide (c.val ≤ 57))) := rfl
    simp only [Text.isNameChar, if_pos hascii, halnum, ge_iff_le, UInt32.le_iff_toNat_le,
      Bool.or_eq_true, Bool.and_eq_true, decide_eq_true_eq]
    exact .inl hclass

theorem any_isDigitChar_of_endsWord {s : Source} (h : endsWord s) :
    s.head?.any isDigitChar = false := by
  cases s with
  | nil => rfl
  | cons c s =>
    have hc : Text.isNameChar c = false := by simpa [endsWord] using h
    exact Bool.eq_false_iff.mpr fun hdigit => by simp [isNameChar_of_isDigitChar hdigit] at hc

/-- No word begins where one has ended. -/
theorem afterWord?_of_endsWord {w : String} {c : Char} {lead s : Source} (hw : w.toList = c :: lead)
    (hc : Text.isNameChar c) (hs : endsWord s) : afterWord? w s = none := by
  cases s with
  | nil => simp [afterWord?, hw, after?]
  | cons d s =>
    refine afterWord?_of_ne hw ?_
    rintro rfl
    simp [endsWord, hc] at hs

/-- No kind is named where a word has ended. -/
theorem namedKind?_append {digits s : List Char} (hdigits : ∀ c ∈ digits, isDigitChar c)
    (hs : endsWord s) : namedKind? (digits ++ s) = none := by
  rw [namedKind?, (span_append hdigits (any_isDigitChar_of_endsWord hs)).2]
  refine List.findSome?_eq_none_iff.mpr fun kind _ => ?_
  obtain ⟨c, hword, hc⟩ : ∃ c, kind.suffix.toList = c :: (toString kind.bits).toList ∧
      Text.isNameChar c := by
    cases hsigned : kind.signed with
    | false => exact ⟨'u', by simp [IntKind.suffix, hsigned], by decide⟩
    | true => exact ⟨'i', by simp [IntKind.suffix, hsigned], by decide⟩
  have hsuffix : afterWord? kind.suffix s = none := afterWord?_of_endsWord hword hc hs
  simp [hsuffix]

/-- Decimal digits announce no other base. -/
theorem splitBase_digits {c : Char} {digits s : Source} (hdigits : ∀ d ∈ digits, d.isDigit)
    (hs : endsWord s) : splitBase (c :: (digits ++ s)) = (10, c :: (digits ++ s)) := by
  have hsecond {d : Char} (hd : (digits ++ s).head? = some d) : d ≠ 'b' ∧ d ≠ 'o' ∧ d ≠ 'x' := by
    have hclass : d.isDigit = true ∨ Text.isNameChar d = false := by
      cases digits with
      | nil =>
        cases s with
        | nil => cases hd
        | cons e s => exact .inr (by simp_all [endsWord])
      | cons e digits => exact .inl (by simp_all)
    refine ⟨?_, ?_, ?_⟩ <;>
    · rintro rfl
      revert hclass
      decide
  rw [splitBase.eq_def]
  split
  · exact absurd rfl (hsecond (by simp_all)).1
  · exact absurd rfl (hsecond (by simp_all)).2.1
  · exact absurd rfl (hsecond (by simp_all)).2.2
  · rfl

theorem isDigitChar_of_isDigit {c : Char} (h : c.isDigit) : isDigitChar c := by
  simp [isDigitChar, (hexDigit?_of_isDigit h).1]

theorem readDigits_append {kind : IntKind} (hunsigned : kind.signed = false) {c : Char}
    {digits s : Source} (hdigits : ∀ d ∈ c :: digits, d.isDigit) (hs : endsWord s) :
    readDigits kind false (c :: digits ++ s) =
      if Nat.ofDigitChars 10 (c :: digits) 0 < kind.reach then
        ⟨.ok (Nat.ofDigitChars 10 (c :: digits) 0), s⟩
      else ⟨.error .outOfBounds, s⟩ := by
  obtain ⟨hc, hrest⟩ := List.forall_mem_cons.mp hdigits
  obtain ⟨htake, hdrop⟩ := span_append (fun d hd => isDigitChar_of_isDigit (hdigits d hd))
    (any_isDigitChar_of_endsWord hs)
  have hleast : kind.least ≤ 0 := by simp [IntKind.least, hunsigned]
  have hreach : 0 < kind.reach := by
    rw [IntKind.reach, hunsigned, if_neg Bool.false_ne_true, Nat.one_shiftLeft]
    exact Nat.two_pow_pos kind.bits
  have happend : appendDigits kind 10 false 0 (c :: digits) = _ :=
    appendDigits_eq hleast hdigits 0 hreach
  rw [List.cons_append] at htake hdrop ⊢
  have hne : c ≠ '_' := ne_of_isDigit hc (by decide)
  rw [readDigits, splitBase_digits hrest hs]
  by_cases hfits : Nat.ofDigitChars 10 (c :: digits) 0 < kind.reach
  · rw [if_pos hfits] at happend ⊢
    simp only [htake, hdrop, if_neg hne, happend]
  · rw [if_neg hfits] at happend ⊢
    simp only [htake, hdrop, if_neg hne, happend, List.nil_append]

/-- A natural number as it is written in decimal digits, with or without zeros in front. -/
structure Numeral where
  digits : List Char
  digits_ne_nil : digits ≠ []
  isDigit_of_mem : ∀ c ∈ digits, c.isDigit

namespace Numeral

def value (n : Numeral) : Nat :=
  Nat.ofDigitChars 10 n.digits 0

def ofNat (n : Nat) : Numeral where
  digits := Nat.toDigits 10 n
  digits_ne_nil := Nat.toDigits_ne_nil
  isDigit_of_mem _ := Nat.isDigit_of_mem_toDigits (by decide) (by decide)

@[simp] theorem value_ofNat (n : Nat) : (ofNat n).value = n :=
  Nat.ofDigitChars_ten_toDigits

theorem exists_digits_eq (n : Numeral) : ∃ c r, n.digits = c :: r ∧ c.isDigit := by
  obtain ⟨c, r, h⟩ := List.exists_cons_of_ne_nil n.digits_ne_nil
  exact ⟨c, r, h, n.isDigit_of_mem c (h ▸ List.mem_cons_self)⟩

end Numeral

/-- A numeral is read to its number if that is one of the kind, and is out of bounds otherwise. -/
theorem readInt_numeral {kind : IntKind} (hunsigned : kind.signed = false) (n : Numeral)
    {s : Source} (hs : endsWord s) :
    readInt kind (n.digits ++ s) =
      if n.value < kind.reach then .ok (n.value, s) else .error .outOfBounds := by
  obtain ⟨c, digits, htext, hc⟩ := n.exists_digits_eq
  have hdigits : ∀ d ∈ c :: digits, d.isDigit := htext ▸ n.isDigit_of_mem
  have hnamed := namedKind?_append (fun d hd => isDigitChar_of_isDigit (hdigits d hd)) hs
  have hread := readDigits_append hunsigned hdigits hs
  have hattempt : readIntToken (fun _ => kind) (c :: digits ++ s) =
      readSigned kind false (c :: digits ++ s) (c :: digits ++ s) := by
    have hbyte : c ≠ 'b' := ne_of_isDigit hc (by decide)
    have hplus : c ≠ '+' := ne_of_isDigit hc (by decide)
    have hminus : c ≠ '-' := ne_of_isDigit hc (by decide)
    rw [List.cons_append, readIntToken.eq_def]
    split <;> simp_all
  rw [Numeral.value, htext, readInt, hattempt]
  by_cases hfits : Nat.ofDigitChars 10 (c :: digits) 0 < kind.reach
  · rw [if_pos hfits] at hread ⊢
    simp only [readSigned, hnamed, hread, Except.map, ok_bind, if_true]
    rfl
  · rw [if_neg hfits] at hread ⊢
    simp only [readSigned, hnamed, hread, Except.map, error_bind]

end SphereCloud.RecordText
