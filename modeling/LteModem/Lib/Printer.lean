import LteModem.Lib.Strings

/-!
# Printing piece by piece

`pos += snprintf(buffer + pos, size - pos, ...)`. The offset counts what was to be printed, so it may pass the
buffer, and then the next size is not the space that is left.
-/

namespace Strings

/-- A buffer of `size` bytes and the offset. -/
structure Line (size : Nat) where
  text : Str
  pos : Nat
  held : text.length = min pos (size - 1)

namespace Line

variable {size : Nat}

def start (size : Nat) (piece : Str) : Line size :=
  ⟨snprintf size piece, piece.length, by rw [snprintf, List.length_take, min_comm]⟩

/-- `none` where the offset lies behind the buffer: `size - pos` is not negative, it wraps. -/
def print (piece : Str) (l : Line size) : Option (Line size) :=
  if h : size < l.pos then none
  else some ⟨l.text ++ snprintf (size - l.pos) piece, l.pos + piece.length, by
    rw [snprintf, List.length_append, List.length_take, l.held]
    omega⟩

/-- These pieces were printed, in one. -/
structure Holds (l : Line size) (s : Str) : Prop where
  text : l.text = snprintf size s
  pos : l.pos = s.length

theorem start_holds (size : Nat) (piece : Str) : (start size piece).Holds piece := ⟨rfl, rfl⟩

theorem Holds.print {l : Line size} {s : Str} (h : l.Holds s) (piece : Str) (hs : s.length ≤ size) :
    ∃ m, l.print piece = some m ∧ m.Holds (s ++ piece) := by
  have hl : ¬ size < l.pos := by
    rw [h.pos]
    omega
  refine ⟨_, dif_neg hl, ?_, ?_⟩
  · change l.text ++ snprintf (size - l.pos) piece = snprintf size (s ++ piece)
    rw [h.text, h.pos, snprintf, snprintf, snprintf, List.take_append]
    congr 2
    omega
  · change l.pos + piece.length = (s ++ piece).length
    rw [h.pos, List.length_append]

theorem Holds.whole {l : Line size} {s : Str} (h : l.Holds s) (hs : s.length < size) : l.text = s := by
  rw [h.text, snprintf, List.take_of_length_le (by omega)]

end Line

end Strings
