import Mathlib.Data.List.Basic
import Mathlib.Logic.Function.Basic

/-! # Ring buffers: `count` elements from `head`, in an array of `n` cells -/

namespace Ring

variable {α : Type} {n : Nat}

/-- The elements in the order in which they were put in. -/
def window (n : Nat) (buffer : Nat → α) (head count : Nat) : List α :=
  (List.range count).map fun i => buffer ((head + i) % n)

@[simp] theorem length_window (buffer : Nat → α) (head count : Nat) :
    (window n buffer head count).length = count := by
  simp [window]

theorem add_mod_ne {head i count : Nat} (hi : i < count) (hcount : count < n) :
    (head + i) % n ≠ (head + count) % n := by
  intro h
  have hsub : (head + count - (head + i)) % n = 0 := Nat.sub_mod_eq_zero_of_mod_eq h.symm
  rw [show head + count - (head + i) = count - i by omega, Nat.mod_eq_of_lt (by omega)] at hsub
  omega

theorem window_push (buffer : Nat → α) {head count : Nat} (a : α) (hcount : count < n) :
    window n (Function.update buffer ((head + count) % n) a) head (count + 1) =
      window n buffer head count ++ [a] := by
  simp only [window, List.range_succ, List.map_append, List.map_singleton, Function.update_self]
  congr 1
  apply List.map_congr_left
  intro i hi
  rw [Function.update_of_ne (add_mod_ne (List.mem_range.mp hi) hcount)]

theorem window_pop (buffer : Nat → α) {head : Nat} (count : Nat) (hhead : head < n) :
    window n buffer head (count + 1) = buffer head :: window n buffer ((head + 1) % n) count := by
  simp only [window, List.range_succ_eq_map, List.map_cons, List.map_map, Nat.add_zero, Nat.mod_eq_of_lt hhead]
  congr 1
  apply List.map_congr_left
  intro i _
  simp only [Function.comp]
  rw [Nat.mod_add_mod, Nat.add_assoc, Nat.add_comm 1 i]

theorem window_overwrite (buffer : Nat → α) {head : Nat} (a : α) (hhead : head < n) :
    window n (Function.update buffer head a) ((head + 1) % n) n = (window n buffer head n).tail ++ [a] := by
  obtain ⟨m, rfl⟩ : ∃ m, n = m + 1 := ⟨n - 1, by omega⟩
  have hplace : ((head + 1) % (m + 1) + m) % (m + 1) = head := by
    rw [Nat.mod_add_mod, Nat.add_assoc, Nat.add_comm 1 m, Nat.add_mod_right, Nat.mod_eq_of_lt hhead]
  have hpush : window (m + 1) (Function.update buffer (((head + 1) % (m + 1) + m) % (m + 1)) a)
      ((head + 1) % (m + 1)) (m + 1) = window (m + 1) buffer ((head + 1) % (m + 1)) m ++ [a] :=
    window_push buffer a (Nat.lt_succ_self m)
  rw [hplace] at hpush
  rw [hpush, window_pop buffer m hhead, List.tail_cons]

end Ring
