import Mathlib.Data.List.Basic
import Mathlib.Logic.Function.Basic

/-!
# One list kept as a queue for each key and the order of the keys

`Splits` is the invariant that lets the parts stand for the whole list.
-/

namespace Keyed

variable {α κ γ : Type} [DecidableEq γ] {key : α → γ} {tag : κ → γ}

/-- `order` names the queue of each element of `l`, and each queue has its elements of `l`. -/
structure Splits (key : α → γ) (tag : κ → γ) (queues : κ → List α) (order : List κ) (l : List α) : Prop where
  order_eq : order.map tag = l.map key
  queues_eq : ∀ k, queues k = l.filter (key · = tag k)

theorem filter_eraseP (key : α → γ) (l : List α) (c : γ) :
    l.filter (key · = c) = (l.find? (key · = c)).toList ++ (l.eraseP (key · = c)).filter (key · = c) := by
  induction l with
  | nil => rfl
  | cons a l ih =>
    by_cases h : key a = c
    · simp [h]
    · simp [h, ih]

theorem filter_eraseP_of_ne (l : List α) {b c : γ} (h : b ≠ c) :
    (l.eraseP (key · = c)).filter (key · = b) = l.filter (key · = b) := by
  induction l with
  | nil => rfl
  | cons a l ih =>
    by_cases hc : key a = c
    · simp [hc, Ne.symm h]
    · simp [hc, List.filter_cons, ih]

theorem map_eraseP (l : List α) (c : γ) : (l.eraseP (key · = c)).map key = (l.map key).erase c := by
  induction l with
  | nil => rfl
  | cons a l ih =>
    by_cases h : key a = c
    · simp [h]
    · simp [h, ih]

namespace Splits

variable {queues : κ → List α} {order : List κ} {l : List α}

theorem length_order (h : Splits key tag queues order l) : order.length = l.length := by
  simpa using congrArg List.length h.order_eq

theorem length_queue_le (h : Splits key tag queues order l) (k : κ) : (queues k).length ≤ l.length := by
  rw [h.queues_eq]
  exact List.length_filter_le _ _

theorem push [DecidableEq κ] (htag : Function.Injective tag) (h : Splits key tag queues order l) {a : α} {k : κ}
    (ha : key a = tag k) :
    Splits key tag (Function.update queues k (queues k ++ [a])) (order ++ [k]) (l ++ [a]) where
  order_eq := by simp [h.order_eq, ha]
  queues_eq j := by
    by_cases hj : j = k
    · subst hj
      simp [h.queues_eq, ha]
    · have hne : tag k ≠ tag j := fun hk => hj (htag hk).symm
      simp [h.queues_eq, ha, hj, hne]

theorem pop [DecidableEq κ] (htag : Function.Injective tag) (h : Splits key tag queues order l) {a : α} {k : κ}
    {rest : List α} (hk : queues k = a :: rest) :
    l.find? (key · = tag k) = some a ∧
      Splits key tag (Function.update queues k rest) (order.erase k) (l.eraseP (key · = tag k)) := by
  have hsplit := filter_eraseP key l (tag k)
  rw [← h.queues_eq, hk] at hsplit
  obtain hnone | ⟨b, hfind⟩ := Option.eq_none_or_eq_some (l.find? (key · = tag k))
  · -- without a first element the whole queue would be empty
    have hempty : queues k = [] := by
      rw [h.queues_eq, List.filter_eq_nil_iff]
      exact List.find?_eq_none.mp hnone
    rw [hempty] at hk
    contradiction
  · rw [hfind] at hsplit
    obtain ⟨rfl, hrest⟩ := List.cons.inj hsplit
    refine ⟨hfind, ?_, fun j => ?_⟩
    · rw [map_eraseP, ← h.order_eq, List.map_erase htag]
    · by_cases hj : j = k
      · subst hj
        simpa using hrest
      · rw [Function.update_of_ne hj, h.queues_eq, filter_eraseP_of_ne]
        exact fun he => hj (htag he)

theorem find_none (h : Splits key tag queues order l) {k : κ} (hk : queues k = []) :
    l.find? (key · = tag k) = none := by
  rw [h.queues_eq, List.filter_eq_nil_iff] at hk
  exact List.find?_eq_none.mpr hk

theorem next [DecidableEq κ] (htag : Function.Injective tag) {k : κ} (h : Splits key tag queues (k :: order) l) :
    ∃ a rest, queues k = a :: rest ∧ ∃ l', l = a :: l' ∧
      Splits key tag (Function.update queues k rest) order l' := by
  cases l with
  | nil => simpa using h.order_eq
  | cons a l =>
    obtain ⟨ha, horder⟩ := List.cons.inj h.order_eq
    have hk : queues k = a :: l.filter (key · = tag k) := by simp [h.queues_eq, ha]
    refine ⟨a, _, hk, l, rfl, horder, fun j => ?_⟩
    by_cases hj : j = k
    · subst hj
      simp
    · have hne : key a ≠ tag j := fun he => hj (htag (ha.trans he)).symm
      simp [hj, h.queues_eq, hne]

end Splits

end Keyed
