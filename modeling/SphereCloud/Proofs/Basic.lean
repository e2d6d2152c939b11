/-!
Computations that can fail, taken apart at their first step, and lists without their repeats, in the
order of the first occurrences.
-/

namespace SphereCloud

section Outcome

variable {ε α β : Type}

@[simp] theorem ok_bind (a : α) (f : α → Except ε β) : (Except.ok a >>= f) = f a := rfl

@[simp] theorem error_bind (e : ε) (f : α → Except ε β) :
    ((Except.error e : Except ε α) >>= f) = .error e := rfl

theorem bind_eq_ok {x : Except ε α} {f : α → Except ε β} {b : β} :
    x >>= f = .ok b ↔ ∃ a, x = .ok a ∧ f a = .ok b := by
  cases x with
  | error e => simp
  | ok a => simp

/-- A fold that every item must pass is the fold if all of them do, and fails otherwise. -/
theorem foldlM_ite {p : α → Prop} [DecidablePred p] (f : β → α → β) (e : ε) (items : List α)
    (acc : β) :
    items.foldlM (fun acc a => if p a then Except.ok (f acc a) else .error e) acc =
      if ∀ a ∈ items, p a then .ok (items.foldl f acc) else .error e := by
  induction items generalizing acc with
  | nil => simp [pure, Except.pure]
  | cons a items ih =>
    rw [List.foldlM_cons]
    by_cases ha : p a
    · rw [if_pos ha, ok_bind, ih]
      simp [ha]
    · rw [if_neg ha, error_bind]
      simp [ha]

end Outcome

section Distinct

variable {α : Type} [BEq α] [LawfulBEq α]

/-- Taking elements out does not change which of two others comes first. -/
theorem idxOf_lt_of_filter {p : α → Bool} {a b : α} (ha : p a) (hb : p b) (l : List α)
    (h : (l.filter p).idxOf a < (l.filter p).idxOf b) : l.idxOf a < l.idxOf b := by
  induction l with
  | nil => simp at h
  | cons c l ih =>
    by_cases hc : p c
    · rw [List.filter_cons_of_pos hc] at h
      grind
    · rw [List.filter_cons_of_neg hc] at h
      grind

/-- What is left stands in the order in which it occurs first. -/
theorem pairwise_eraseDups (l : List α) :
    l.eraseDups.Pairwise fun a b => l.idxOf a < l.idxOf b := by
  -- Not on the list itself: what is left behind the first element is filtered.
  match l with
  | [] => exact .nil
  | a :: l =>
    rw [List.eraseDups_cons, List.pairwise_cons]
    have hne (b : α) (hb : b ∈ (l.filter fun b => !b == a).eraseDups) : (!b == a) = true :=
      (List.mem_filter.mp (List.mem_eraseDups.mp hb)).2
    constructor
    · intro b hb
      have := hne b hb
      grind
    · refine (pairwise_eraseDups (l.filter fun b => !b == a)).imp_of_mem fun {b c} hb hc h => ?_
      have hlt := idxOf_lt_of_filter (p := fun b => !b == a) (hne b hb) (hne c hc) l h
      have := hne b hb
      grind
termination_by l.length
decreasing_by exact Nat.lt_succ_of_le (List.length_filter_le _ _)

theorem nodup_eraseDups (l : List α) : l.eraseDups.Nodup :=
  (pairwise_eraseDups l).imp fun h heq => by simp [heq] at h

end Distinct

end SphereCloud
