import Mathlib.Logic.Basic

/-!
# Records

A record as its fields under their names. What a sequence of assignments leaves in a field is the last value
that was assigned to it.
-/

/-- The fields of `σ`, each with its own type. -/
structure Record (κ : Type) (V : κ → Type) (σ : Type) where
  get : (k : κ) → σ → V k
  put : (k : κ) → V k → σ → σ
  get_put : ∀ k v s, get k (put k v s) = v
  get_other : ∀ k j v s, k ≠ j → get j (put k v s) = get j s

namespace Record

variable {κ : Type} {V : κ → Type} {σ : Type}

/-- The assignments, one after the other. -/
def assign (R : Record κ V σ) (l : List (Σ k, V k)) (s : σ) : σ := l.foldl (fun s a => R.put a.1 a.2 s) s

theorem assign_keeps {α : Type} (R : Record κ V σ) {f : σ → α} (h : ∀ k v s, f (R.put k v s) = f s)
    (l : List (Σ k, V k)) (s : σ) : f (R.assign l s) = f s := by
  induction l generalizing s with
  | nil => rfl
  | cons a l ih => exact (ih (R.put a.1 a.2 s)).trans (h a.1 a.2 s)

variable [DecidableEq κ]

/-- The last value that is assigned to `k`. -/
def last (k : κ) : List (Σ k, V k) → Option (V k)
  | [] => none
  | ⟨j, v⟩ :: l => (last k l).or (if h : j = k then some (h ▸ v) else none)

theorem get_assign (R : Record κ V σ) (k : κ) (l : List (Σ k, V k)) (s : σ) :
    R.get k (R.assign l s) = (last k l).getD (R.get k s) := by
  induction l generalizing s with
  | nil => rfl
  | cons a l ih =>
    obtain ⟨j, v⟩ := a
    change R.get k (R.assign l (R.put j v s)) = _
    rw [ih, last]
    cases last k l with
    | some w => rfl
    | none =>
      rw [Option.getD_none, Option.none_or]
      by_cases h : j = k
      · subst h
        rw [dif_pos rfl, R.get_put]
        rfl
      · rw [dif_neg h, R.get_other j k v s h]
        rfl

end Record
