import SphereCloud.Proofs.RecordText.Tokens
import SphereCloud.RecordText.Value

/-!
Entries between brackets with commas and blanks between them, read one after the other.
-/

namespace SphereCloud.RecordText

/-- A character that closes entries: it begins a token, separates nothing and ends what is before
it. -/
structure IsCloser (close : Char) : Prop where
  opens : opensToken close
  ne_comma : close ≠ ','
  ends : Text.isNameChar close = false

theorem isCloser_parenthesis : IsCloser ')' := ⟨by decide, by decide, by decide⟩

theorem isCloser_bracket : IsCloser ']' := ⟨by decide, by decide, by decide⟩

theorem IsCloser.endsWord_cons {close : Char} (hclose : IsCloser close) (s : Source) :
    endsWord (close :: s) := by
  simp [endsWord, hclose.ends]

section Steps

variable {β : Type} {close : Char} {entry : β → Source → Except Fault (β × Source)}

theorem readEntriesFrom_close {s r : Source} (hs : skipBlank s = .ok (close :: r)) (n : Nat)
    (separated : Bool) (acc : β) :
    readEntriesFrom close entry (n + 1) separated acc s = .ok (acc, close :: r) := by
  rw [readEntriesFrom, hs, ok_bind, List.head?_cons, if_pos rfl]
  rfl

/-- Reads one entry and what is between it and the next one. -/
theorem readEntriesFrom_entry {s text behind rest : Source} {acc next : β} {separated : Bool}
    (hs : skipBlank s = .ok text) (hopen : text.head? ≠ some close)
    (hentry : entry acc text = .ok (next, behind)) (hcomma : comma behind = .ok (separated, rest))
    (n : Nat) :
    readEntriesFrom close entry (n + 1) true acc s =
      readEntriesFrom close entry n separated next rest := by
  rw [readEntriesFrom, hs, ok_bind, if_neg hopen, if_pos rfl, hentry, ok_bind]
  simp only [hcomma, ok_bind]

theorem readEntriesFrom_error {s text : Source} {acc : β} {fault : Fault}
    (hs : skipBlank s = .ok text) (hopen : text.head? ≠ some close)
    (hentry : entry acc text = .error fault) (n : Nat) :
    readEntriesFrom close entry (n + 1) true acc s = .error fault := by
  rw [readEntriesFrom, hs, ok_bind, if_neg hopen, if_pos rfl, hentry, error_bind]

theorem expectColon_cons {s r : Source} (h : skipBlank s = .ok r) :
    expectColon (':' :: s) = .ok r := by
  have hcolon : skipBlank (':' :: s) = .ok (':' :: s) := skipBlank_of_opensToken (by decide) s
  rw [expectColon, hcolon, ok_bind]
  exact h

end Steps

/-- Whether a text begins a token other than a closing bracket. -/
def OpensEntry (close : Char) (text : Source) : Prop :=
  ∃ c r, text = c :: r ∧ opensToken c ∧ c ≠ close

namespace OpensEntry

variable {close : Char} {text : Source}

theorem skipBlank_append (h : OpensEntry close text) (s : Source) :
    skipBlank (text ++ s) = .ok (text ++ s) := by
  obtain ⟨c, r, htext, hc, -⟩ := h
  rw [htext, List.cons_append, skipBlank_of_opensToken hc]

theorem head?_append_ne (h : OpensEntry close text) (s : Source) :
    (text ++ s).head? ≠ some close := by
  obtain ⟨c, r, htext, -, hne⟩ := h
  simpa [htext] using hne

end OpensEntry

theorem Numeral.opensEntry_digits (n : Numeral) {close : Char} (h : close.isDigit = false) :
    OpensEntry close n.digits := by
  obtain ⟨c, r, htext, hc⟩ := n.exists_digits_eq
  exact ⟨c, r, htext, opensToken_of_isDigit hc, ne_of_isDigit hc h⟩

/-- How entries are set out: what stands behind the opening bracket, in front of every entry, behind
every comma and in front of the closing bracket, and whether a comma follows the last entry. -/
structure Spacing where
  lead : List Char
  before : List Char
  after : List Char
  last : List Char
  trailing : Bool
  blank_lead : ∀ c ∈ lead, isBlank c
  blank_before : ∀ c ∈ before, isBlank c
  blank_after : ∀ c ∈ after, isBlank c
  blank_last : ∀ c ∈ last, isBlank c

namespace Spacing

variable {ι : Type} (spacing : Spacing) (render : ι → List Char)

def separator (items : List ι) : List Char :=
  if items.isEmpty && !spacing.trailing then [] else ',' :: spacing.after

def series : List ι → Source
  | [] => spacing.last
  | i :: items => spacing.before ++ render i ++ spacing.separator items ++ series items

def inside (items : List ι) : Source :=
  spacing.lead ++ spacing.series render items

theorem series_eq_flatMap (h : spacing.trailing) (items : List ι) :
    spacing.series render items =
      items.flatMap (fun i => spacing.before ++ render i ++ ',' :: spacing.after) ++
        spacing.last := by
  induction items with
  | nil => rfl
  | cons i items ih => simp [series, separator, h, ih]

theorem length_le_series {close : Char} (items : List ι)
    (hopen : ∀ i ∈ items, OpensEntry close (render i)) :
    items.length ≤ (spacing.series render items).length := by
  induction items with
  | nil => exact Nat.zero_le _
  | cons i items ih =>
    obtain ⟨⟨c, r, htext, -⟩, hitems⟩ := List.forall_mem_cons.mp hopen
    have hrest := ih hitems
    simp only [series, htext, List.length_cons, List.length_append]
    omega

variable {render} {close : Char} (rest : Source)

theorem skipBlank_series_nil (hclose : IsCloser close) :
    skipBlank (spacing.series render [] ++ close :: rest) = .ok (close :: rest) := by
  rw [series, skipBlank_append spacing.blank_last, skipBlank_of_opensToken hclose.opens]

theorem skipBlank_series_cons {i : ι} (hopen : OpensEntry close (render i)) (items : List ι) :
    skipBlank (spacing.series render (i :: items) ++ close :: rest) =
      .ok (render i ++
        (spacing.separator items ++ (spacing.series render items ++ close :: rest))) := by
  simp only [series, List.append_assoc]
  rw [skipBlank_append spacing.blank_before, hopen.skipBlank_append]

/-- Behind the blanks in front of the entries no blank is left. -/
theorem exists_skipBlank_series (hclose : IsCloser close) {items : List ι}
    (hopen : ∀ i ∈ items, OpensEntry close (render i)) :
    ∃ s, skipBlank (spacing.series render items ++ close :: rest) = .ok s ∧
      skipBlank s = .ok s := by
  cases items with
  | nil =>
    exact ⟨_, spacing.skipBlank_series_nil rest hclose,
      skipBlank_of_opensToken hclose.opens rest⟩
  | cons i items =>
    have hi := hopen i List.mem_cons_self
    exact ⟨_, spacing.skipBlank_series_cons rest hi items, hi.skipBlank_append _⟩

theorem endsWord_separator (hclose : IsCloser close) (items : List ι) :
    endsWord (spacing.separator items ++ (spacing.series render items ++ close :: rest)) := by
  by_cases hlast : items.isEmpty && !spacing.trailing
  · obtain ⟨hnil, -⟩ := (Bool.and_eq_true _ _).mp hlast
    obtain rfl : items = [] := List.isEmpty_iff.mp hnil
    rw [separator, if_pos hlast, List.nil_append, series]
    exact endsWord_blanks spacing.blank_last (hclose.endsWord_cons rest)
  · rw [separator, if_neg hlast]
    rfl

/-- Behind an entry a comma is found, unless it is the last one, and then the entries left. -/
theorem comma_separator (hclose : IsCloser close) {items : List ι}
    (hopen : ∀ i ∈ items, OpensEntry close (render i)) :
    ∃ separated s,
      comma (spacing.separator items ++ (spacing.series render items ++ close :: rest)) =
        .ok (separated, s) ∧
      skipBlank s = skipBlank (spacing.series render items ++ close :: rest) ∧
      (separated ∨ items = []) := by
  by_cases hlast : items.isEmpty && !spacing.trailing
  · obtain ⟨hnil, -⟩ := (Bool.and_eq_true _ _).mp hlast
    obtain rfl : items = [] := List.isEmpty_iff.mp hnil
    have hend : skipBlank (spacing.series render [] ++ close :: rest) = .ok (close :: rest) :=
      spacing.skipBlank_series_nil rest hclose
    have hstop : skipBlank (close :: rest) = .ok (close :: rest) :=
      skipBlank_of_opensToken hclose.opens rest
    have hcomma := comma_of_ne hclose.opens hclose.ne_comma rest
    refine ⟨false, close :: rest, ?_, hstop.trans hend.symm, .inr rfl⟩
    rw [separator, if_pos hlast, List.nil_append, ← hcomma, comma, comma, hend, hstop]
  · obtain ⟨next, hnext, hstop⟩ : ∃ t,
        skipBlank (spacing.series render items ++ close :: rest) = .ok t ∧ skipBlank t = .ok t :=
      spacing.exists_skipBlank_series rest hclose hopen
    refine ⟨true, next, ?_, hstop.trans hnext.symm, .inl rfl⟩
    rw [separator, if_neg hlast]
    exact comma_cons ((skipBlank_append spacing.blank_after _).trans hnext)

variable {spacing rest}
variable {β : Type} {entry : β → Source → Except Fault (β × Source)} {step : β → ι → Except Fault β}

/-- Entries are read one by one, up to the first that is refused, if `step` is what reading an entry
does in any state. -/
theorem readEntriesFrom_series (hclose : IsCloser close) {items : List ι} {acc : β}
    (hopen : ∀ i ∈ items, OpensEntry close (render i))
    (hentry : ∀ acc, ∀ i ∈ items, ∀ r, endsWord r →
      entry acc (render i ++ r) = (step acc i).map (·, r))
    {s : Source} (hs : skipBlank s = skipBlank (spacing.series render items ++ close :: rest))
    {separated : Bool} (hseparated : separated ∨ items = []) {n : Nat} (hn : items.length < n) :
    readEntriesFrom close entry n separated acc s =
      (items.foldlM step acc).map (·, close :: rest) := by
  induction items generalizing acc s separated n with
  | nil =>
    obtain ⟨n, rfl⟩ := Nat.exists_eq_succ_of_ne_zero (Nat.ne_zero_of_lt hn)
    rw [spacing.skipBlank_series_nil rest hclose] at hs
    exact readEntriesFrom_close hs n separated acc
  | cons i items ih =>
    obtain ⟨n, rfl⟩ := Nat.exists_eq_succ_of_ne_zero (Nat.ne_zero_of_lt hn)
    obtain rfl : separated = true := hseparated.resolve_right (List.cons_ne_nil i items)
    obtain ⟨hi, hitems⟩ := List.forall_mem_cons.mp hopen
    have hend :
        endsWord (spacing.separator items ++ (spacing.series render items ++ close :: rest)) :=
      spacing.endsWord_separator rest hclose items
    have hfirst := hentry acc i List.mem_cons_self _ hend
    rw [spacing.skipBlank_series_cons rest hi] at hs
    rw [List.foldlM_cons]
    cases hstep : step acc i with
    | error fault =>
      rw [hstep] at hfirst
      exact readEntriesFrom_error hs (hi.head?_append_ne _) hfirst n
    | ok next =>
      rw [hstep] at hfirst
      obtain ⟨separated, t, hcomma, ht, hseparated⟩ := spacing.comma_separator rest hclose hitems
      rw [readEntriesFrom_entry hs (hi.head?_append_ne _) hfirst hcomma, ok_bind]
      exact ih hitems (fun acc j hj => hentry acc j (List.mem_cons_of_mem i hj)) ht hseparated
        (Nat.lt_of_succ_lt_succ hn)

theorem readEntries_inside (hclose : IsCloser close) {items : List ι} {acc : β}
    (hopen : ∀ i ∈ items, OpensEntry close (render i))
    (hentry : ∀ acc, ∀ i ∈ items, ∀ r, endsWord r →
      entry acc (render i ++ r) = (step acc i).map (·, r)) :
    readEntries close entry acc (spacing.inside render items ++ close :: rest) =
      (items.foldlM step acc).map (·, close :: rest) := by
  have hlead : skipBlank (spacing.inside render items ++ close :: rest) =
      skipBlank (spacing.series render items ++ close :: rest) := by
    rw [inside, List.append_assoc, skipBlank_append spacing.blank_lead]
  refine readEntriesFrom_series hclose hopen hentry hlead (.inl rfl) ?_
  have hlength := spacing.length_le_series render items hopen
  simp only [inside, List.length_append]
  omega

end Spacing

end SphereCloud.RecordText
