import Mathlib.Algebra.Group.Nat.Defs
import Mathlib.Data.List.Basic

/-! # Copies into byte arrays, and length-prefixed slots -/

namespace Bytes

section Copy

variable {α : Type} {dst src : List α} {offset : Nat}

/-- `std::memcpy(dst + offset, src, n)` for a `src` of `n` bytes. -/
def memcpy (dst : List α) (offset : Nat) (src : List α) : List α :=
  dst.take offset ++ src ++ dst.drop (offset + src.length)

theorem length_memcpy (h : offset + src.length ≤ dst.length) : (memcpy dst offset src).length = dst.length := by
  simp only [memcpy, List.length_append, List.length_take, List.length_drop]
  omega

theorem take_memcpy (h : offset ≤ dst.length) : (memcpy dst offset src).take offset = dst.take offset := by
  have hlen : (dst.take offset).length = offset := by
    rw [List.length_take]
    omega
  rw [memcpy, List.append_assoc, List.take_append_of_le_length (by omega), List.take_take, Nat.min_self]

theorem drop_memcpy (h : offset ≤ dst.length) :
    (memcpy dst offset src).drop offset = src ++ dst.drop (offset + src.length) := by
  have hlen : (dst.take offset).length = offset := by
    rw [List.length_take]
    omega
  rw [memcpy, List.append_assoc, List.drop_append_of_le_length (by omega), List.drop_of_length_le (by omega)]
  rfl

theorem read_memcpy (h : offset ≤ dst.length) :
    ((memcpy dst offset src).drop offset).take src.length = src := by
  rw [drop_memcpy h, List.take_left]

end Copy

/-! ## `uint16_t` -/

def ofUint16 (n : Nat) : List Char := [Char.ofNat (n % 256), Char.ofNat (n / 256 % 256)]

def toUint16 : List Char → Nat
  | low :: high :: _ => low.toNat + 256 * high.toNat
  | _ => 0

theorem toNat_ofNat_byte {n : Nat} (h : n < 256) : (Char.ofNat n).toNat = n := by
  have hvalid : n.isValidChar := .inl (by omega)
  rw [Char.ofNat, dif_pos hvalid]
  rfl

theorem toUint16_take {s : List Char} {n : Nat} (h : s.take 2 = ofUint16 n) (hn : n < 2 ^ 16) :
    toUint16 s = n := by
  obtain ⟨rest, hs⟩ : ∃ rest, s = Char.ofNat (n % 256) :: Char.ofNat (n / 256 % 256) :: rest :=
    ⟨s.drop 2, by rw [← List.take_append_drop 2 s, h]; simp [ofUint16]⟩
  rw [hs, toUint16, toNat_ofNat_byte (Nat.mod_lt _ (by omega)), toNat_ofNat_byte (Nat.mod_lt _ (by omega))]
  omega

/-! ## Slots with the length in front -/

/-- A payload behind its length as a `uint16_t`, written into `slot`. -/
def prefixed (slot data : List Char) : List Char := memcpy (memcpy slot 0 (ofUint16 data.length)) 2 data

section Prefixed

variable {slot data : List Char} (hslot : data.length + 2 ≤ slot.length)

include hslot

theorem length_header : (memcpy slot 0 (ofUint16 data.length)).length = slot.length := by
  apply length_memcpy
  simp only [ofUint16, List.length_cons, List.length_nil]
  omega

theorem toUint16_prefixed (hdata : data.length < 2 ^ 16) : toUint16 (prefixed slot data) = data.length := by
  have hlen := length_header hslot
  refine toUint16_take ?_ hdata
  rw [prefixed, take_memcpy (by omega)]
  exact @read_memcpy _ slot (ofUint16 data.length) 0 (Nat.zero_le _)

theorem read_prefixed : ((prefixed slot data).drop 2).take data.length = data := by
  have hlen := length_header hslot
  exact read_memcpy (by omega)

end Prefixed

end Bytes
