import LteModem.Lib.Strings
import Mathlib.Data.List.TakeDrop

/-! # Fixed-capacity strings (`hal/fixed_string.h`)

The text of a `FixedString` never exceeds the capacity, by its type. What does not fit is cut off
without a sign, as in the source.
-/

open Strings

namespace LteModem

theorem take_append_take {α : Type} (n : Nat) (x y : List α) :
    (x.take n ++ y).take n = (x ++ y).take n := by
  rw [List.take_append, List.take_append, List.take_take, min_self, List.length_take]
  by_cases h : x.length ≤ n
  · rw [min_eq_right h]
  · rw [min_eq_left (by omega), Nat.sub_self, Nat.sub_eq_zero_of_le (by omega)]

structure FixedString (capacity : Nat) where
  view : Str
  fits : view.length ≤ capacity
deriving DecidableEq

namespace FixedString

variable {n : Nat}

/-- Construction and assignment from a `string_view`. -/
def ofView (n : Nat) (s : Str) : FixedString n := ⟨s.take n, List.length_take_le n s⟩

def empty (n : Nat) : FixedString n := ⟨[], Nat.zero_le n⟩

instance : Inhabited (FixedString n) := ⟨empty n⟩

def size (f : FixedString n) : Nat := f.view.length

def append (f : FixedString n) (s : Str) : FixedString n :=
  ⟨f.view ++ s.take (n - f.view.length), by
    have := f.fits
    simp only [List.length_append, List.length_take]
    omega⟩

/-- `erase(pos, count)`, for a `pos + count` that does not overflow. -/
def erase (f : FixedString n) (pos count : Nat) : FixedString n :=
  if f.view.length ≤ pos then f
  else ⟨f.view.take pos ++ f.view.drop (pos + count), by
    have := f.fits
    simp only [List.length_append, List.length_take, List.length_drop]
    omega⟩

/-- `substr(pos)`. -/
def substr (f : FixedString n) (pos : Nat) : FixedString n :=
  ⟨f.view.drop pos, le_trans (by simp) f.fits⟩

@[ext]
theorem ext {f g : FixedString n} (h : f.view = g.view) : f = g := by
  cases f; cases g; simp_all

@[simp] theorem ofView_view (s : Str) : (ofView n s).view = s.take n := rfl
@[simp] theorem empty_view : (empty n).view = [] := rfl

theorem append_view (f : FixedString n) (s : Str) : (f.append s).view = (f.view ++ s).take n := by
  have := f.fits
  rw [List.take_append, List.take_of_length_le this]
  rfl

theorem empty_append_view (s : Str) (h : s.length ≤ n) : ((empty n).append s).view = s := by
  rw [append_view, empty_view, List.nil_append, List.take_of_length_le h]

theorem erase_zero_view (f : FixedString n) (count : Nat) (h : 0 < f.view.length) :
    (f.erase 0 count).view = f.view.drop count := by
  rw [erase, if_neg (by omega)]
  simp

end FixedString

end LteModem
