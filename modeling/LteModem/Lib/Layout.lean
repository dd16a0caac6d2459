import Mathlib.Init

/-!
# Object layouts

Sizes and alignments of C structures on LP64. The size of a layout is a multiple of its alignment, by
its type, so the elements of an array follow each other without padding.
-/

structure Layout where
  size : Nat
  align : Nat
  align_pos : 0 < align
  align_dvd : align ∣ size

namespace Layout

/-- The next multiple of `a`. -/
def roundUp (a n : Nat) : Nat := (n + a - 1) / a * a

def scalar (size : Nat) (h : 0 < size) : Layout := ⟨size, size, h, Nat.dvd_refl size⟩

def u8 : Layout := scalar 1 (by decide)
def u16 : Layout := scalar 2 (by decide)
def u32 : Layout := scalar 4 (by decide)
def u64 : Layout := scalar 8 (by decide)
def pointer : Layout := scalar 8 (by decide)

def array (n : Nat) (l : Layout) : Layout :=
  ⟨n * l.size, l.align, l.align_pos, Nat.dvd_mul_left_of_dvd l.align_dvd n⟩

/-- The end of the last field and the largest alignment. -/
def place (fields : List Layout) : Nat × Nat :=
  fields.foldl (fun acc f => (roundUp f.align acc.1 + f.size, max acc.2 f.align)) (0, 1)

theorem place_align_pos (fields : List Layout) : 0 < (place fields).2 := by
  have : ∀ (fs : List Layout) (acc : Nat × Nat), 0 < acc.2 →
      0 < (fs.foldl (fun acc f => (roundUp f.align acc.1 + f.size, max acc.2 f.align)) acc).2 := by
    intro fs
    induction fs with
    | nil => exact fun _ h => h
    | cons f fs ih => exact fun acc h => ih _ (Nat.lt_of_lt_of_le h (Nat.le_max_left _ _))
  exact this fields (0, 1) Nat.one_pos

/-- A structure with these fields in this order. -/
def struct (fields : List Layout) : Layout :=
  ⟨roundUp (place fields).2 (place fields).1, (place fields).2, place_align_pos fields,
    Nat.dvd_mul_left _ _⟩

/-- Where a field starts that comes after these. -/
def offset (before : List Layout) (field : Layout) : Nat := roundUp field.align (place before).1

example : (struct [u8, u32, u8, u64, u8]).size = 32 := by decide

end Layout
