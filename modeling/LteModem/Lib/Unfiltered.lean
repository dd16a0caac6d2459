import Mathlib.Data.List.Basic

/-!
# A filter that was forgotten

The entries of a list that fail a test are all mapped to one value `c`. When does it make no difference, among the
first `n`, that they were not left out?
-/

namespace Unfiltered

open List (replicate)

variable {α β : Type} {ok : α → Bool} {f : α → β} {c : β}

theorem eq_replicate_of_shifted (hc : ∀ x, ok x = false → f x = c) (l : List α) {j n : Nat} (hj : 0 < j)
    (h : (replicate j c ++ l.map f).take n = ((l.filter ok).map f).take n) :
    ((l.filter ok).map f).take n = replicate n c := by
  induction l generalizing j n with
  | nil =>
    have hl := congrArg List.length h
    simp only [List.filter_nil, List.map_nil, List.append_nil, List.length_take, List.length_replicate,
      List.length_nil] at hl
    have hn : n = 0 := by omega
    rw [hn]
    rfl
  | cons x l ih =>
    have hgap : replicate j c ++ c :: l.map f = replicate (j + 1) c ++ l.map f := by
      rw [List.replicate_succ', List.append_assoc, List.singleton_append]
    cases hx : ok x with
    | false =>
      rw [List.filter_cons_of_neg (by simp [hx])] at h ⊢
      rw [List.map_cons, hc x hx, hgap] at h
      exact ih (Nat.succ_pos j) h
    | true =>
      rw [List.filter_cons_of_pos hx, List.map_cons, List.map_cons] at h
      rw [List.filter_cons_of_pos hx, List.map_cons]
      cases n with
      | zero => rfl
      | succ n =>
        obtain ⟨j, rfl⟩ : ∃ k, j = k + 1 := ⟨j - 1, by omega⟩
        rw [List.replicate_succ, List.cons_append, List.take_succ_cons, List.take_succ_cons, List.cons.injEq] at h
        obtain ⟨hfx, h⟩ := h
        have hshift : replicate j c ++ f x :: l.map f = replicate (j + 1) c ++ l.map f := by
          rw [← hfx, List.replicate_succ', List.append_assoc, List.singleton_append]
        rw [hshift] at h
        rw [List.take_succ_cons, ih (Nat.succ_pos j) h, ← hfx, List.replicate_succ]

theorem map_eq_replicate (hc : ∀ x, ok x = false → f x = c) (l : List α) {n : Nat}
    (h : ((l.filter ok).map f).take n = replicate n c) : (l.map f).take n = replicate n c := by
  induction l generalizing n with
  | nil => exact h
  | cons x l ih =>
    cases n with
    | zero => rfl
    | succ n =>
      have htail : f x = c ∧ ((l.filter ok).map f).take n = replicate n c := by
        cases hx : ok x with
        | false =>
          rw [List.filter_cons_of_neg (by simp [hx])] at h
          have ht := congrArg (List.take n) h
          rw [List.take_take, List.take_replicate, Nat.min_eq_left (Nat.le_succ n)] at ht
          exact ⟨hc x hx, ht⟩
        | true =>
          rw [List.filter_cons_of_pos hx, List.map_cons, List.take_succ_cons, List.replicate_succ,
            List.cons.injEq] at h
          exact h
      rw [List.map_cons, List.take_succ_cons, htail.1, ih htail.2, List.replicate_succ]

theorem take_map_eq_iff (hc : ∀ x, ok x = false → f x = c) (l : List α) (n : Nat) :
    (l.map f).take n = ((l.filter ok).map f).take n ↔ (∀ x ∈ l, ok x = true) ∨
      (((l.filter ok).map f).take n).drop (l.takeWhile ok).length = replicate (n - (l.takeWhile ok).length) c := by
  induction l generalizing n with
  | nil => simp
  | cons x l ih =>
    cases n with
    | zero => simp
    | succ n =>
      cases hx : ok x with
      | false =>
        have hfirst : ¬ ∀ y ∈ x :: l, ok y = true := fun h => by
          have := h x List.mem_cons_self
          simp [hx] at this
        rw [List.filter_cons_of_neg (by simp [hx]), List.takeWhile_cons_of_neg (by simp [hx]), List.map_cons,
          hc x hx, List.length_nil, List.drop_zero, Nat.sub_zero, or_iff_right hfirst]
        constructor
        · intro h
          exact eq_replicate_of_shifted hc l Nat.one_pos h
        · intro h
          have ht := congrArg (List.take n) h
          rw [List.take_take, List.take_replicate, Nat.min_eq_left (Nat.le_succ n)] at ht
          rw [h, List.take_succ_cons, map_eq_replicate hc l ht, List.replicate_succ]
      | true =>
        rw [List.filter_cons_of_pos hx, List.takeWhile_cons_of_pos hx, List.map_cons, List.map_cons,
          List.take_succ_cons, List.take_succ_cons, List.cons.injEq, and_iff_right rfl, ih, List.length_cons,
          List.drop_succ_cons, Nat.succ_sub_succ, List.forall_mem_cons, and_iff_right hx]

end Unfiltered
