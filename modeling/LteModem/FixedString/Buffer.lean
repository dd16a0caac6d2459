import LteModem.FixedString
import LteModem.Lib.Bytes
import LteModem.Lib.Machine

/-!
# The bytes of a fixed-capacity string (`hal/fixed_string.h`)

The array and the size as the source writes them, against texts that are cut at the capacity.
-/

open Strings Bytes Machine

namespace LteModem.FixedString

def NPOS : Nat := 2 ^ 64 - 1

/-- The array has room for the capacity and a NUL. -/
structure Buffer (capacity : Nat) where
  buf_ : List Char := List.replicate (capacity + 1) '\x00'
  size_ : Nat := 0

namespace Buffer

variable {n : Nat} (f : Buffer n)

def view : Str := f.buf_.take f.size_

/-- `buf_[size_] = '\0'`. -/
def terminate : Buffer n := { f with buf_ := f.buf_.set f.size_ '\x00' }

/-! ## The operations -/

/-- Assignment of the `len` characters at `s`. -/
def assign (s : Str) : Buffer n :=
  let size := min s.length n
  terminate { buf_ := memcpy f.buf_ 0 (s.take size), size_ := size }

/-- Assignment from a `const char*`, which is null or points to `s`. -/
def assign_cstr : Option Str → Buffer n
  | none => terminate { f with size_ := 0 }
  | some s =>
    let size := min (cstr s).length n
    terminate { buf_ := memcpy f.buf_ 0 (s.take size), size_ := size }

def construct (s : Str) : Buffer n := assign {} s

def construct_cstr (s : Option Str) : Buffer n := assign_cstr {} s

def clear : Buffer n := terminate { f with size_ := 0 }

/-- Also `+=` of a text. -/
def append (s : Str) : Buffer n :=
  let to_copy := min s.length (n - f.size_)
  terminate { buf_ := memcpy f.buf_ f.size_ (s.take to_copy), size_ := f.size_ + to_copy }

/-- `+=` of a character. -/
def add_char (c : Char) : Buffer n :=
  if f.size_ < n then terminate { buf_ := f.buf_.set f.size_ c, size_ := f.size_ + 1 } else f

/-- The sum of the arguments is one of `size_t`. -/
def erase (pos count : Nat) : Buffer n :=
  if f.size_ ≤ pos then f
  else if count = NPOS ∨ f.size_ ≤ (pos + count) % 2 ^ 64 then terminate { f with size_ := pos }
  else terminate {
    buf_ := memcpy f.buf_ pos ((f.buf_.drop (pos + count)).take (f.size_ - pos - count))
    size_ := f.size_ - count }

def substr (pos count : Nat) : Buffer n :=
  if f.size_ ≤ pos then terminate {}
  else
    let len := if count = NPOS then f.size_ - pos else min count (f.size_ - pos)
    construct ((f.buf_.drop pos).take len)

def set_size (k : Nat) : Buffer n := terminate { f with size_ := min k n }

/-- The object that is worked on is replaced by `construct` and by `substr`. -/
inductive Op where
  | construct (s : Str) | construct_cstr (s : Option Str)
  | assign (s : Str) | assign_cstr (s : Option Str)
  | append (s : Str) | add_char (c : Char)
  | erase (pos count : Nat) | substr (pos count : Nat)
  | clear | set_size (k : Nat)

/-- The object after the operation, and its text. -/
def step (op : Op) (f : Buffer n) : Str × Buffer n :=
  let g :=
    match op with
    | .construct s => construct s
    | .construct_cstr s => construct_cstr s
    | .assign s => f.assign s
    | .assign_cstr s => f.assign_cstr s
    | .append s => f.append s
    | .add_char c => f.add_char c
    | .erase pos count => f.erase pos count
    | .substr pos count => f.substr pos count
    | .clear => f.clear
    | .set_size k => f.set_size k
  (g.view, g)

/-- The sum in `erase` does not overflow, and a size that is set is no larger than the one before. -/
def Allowed (op : Op) (f : Buffer n) : Prop :=
  match op with
  | .erase pos count => count = NPOS ∨ pos + count < 2 ^ 64
  | .set_size k => k ≤ f.size_
  | _ => True

/-! ## Texts -/

/-- What the operation does to a text without a bound. -/
def Op.meaning : Op → Str → Str
  | .construct s, _ | .assign s, _ => s
  | .construct_cstr s, _ | .assign_cstr s, _ => (s.map cstr).getD []
  | .append s, t => t ++ s
  | .add_char c, t => t ++ [c]
  | .erase pos count, t => if count = NPOS then t.take pos else t.take pos ++ t.drop (pos + count)
  | .substr pos count, t => if count = NPOS then t.drop pos else (t.drop pos).take count
  | .clear, _ => []
  | .set_size k, t => t.take k

/-- Every result is cut. -/
def cutStep (n : Nat) (op : Op) (t : Str) : Str × Str := ((op.meaning t).take n, (op.meaning t).take n)

/-! ### The operations of the model -/

theorem append_meaning (g : FixedString n) (s : Str) : (g.append s).view = ((Op.append s).meaning g.view).take n :=
  append_view g s

theorem erase_meaning (g : FixedString n) (pos count : Nat) (hcount : count ≠ NPOS) :
    (g.erase pos count).view = ((Op.erase pos count).meaning g.view).take n := by
  rw [List.take_of_length_le]
  · simp only [Op.meaning, if_neg hcount, FixedString.erase]
    split_ifs with hpos
    · rw [List.take_of_length_le hpos, List.drop_of_length_le (by omega), List.append_nil]
    · rfl
  · have hfits := g.fits
    simp only [Op.meaning, if_neg hcount, List.length_append, List.length_take, List.length_drop]
    omega

theorem substr_meaning (g : FixedString n) (pos : Nat) :
    (g.substr pos).view = ((Op.substr pos NPOS).meaning g.view).take n := by
  have hfits := g.fits
  rw [List.take_of_length_le]
  · rfl
  · simp only [Op.meaning, if_pos, List.length_drop]
    omega

/-! ## The bytes hold the text -/

/-- The text fits, and a NUL stands behind it. -/
structure Sound (f : Buffer n) : Prop where
  length : f.buf_.length = n + 1
  size_le : f.size_ ≤ n
  nul : f.buf_[f.size_]? = some '\x00'

/-- The bytes hold `t`. -/
structure Holds (f : Buffer n) (t : Str) : Prop where
  sound : f.Sound
  view : f.view = t

theorem Sound.length_view {f : Buffer n} (h : f.Sound) : f.view.length = f.size_ := by
  have hlen := h.length
  have hsize := h.size_le
  rw [Buffer.view, List.length_take]
  omega

theorem Holds.length {f : Buffer n} {t : Str} (h : Holds f t) : t.length = f.size_ := by
  rw [← h.view, h.sound.length_view]

theorem terminate_holds {buf : List Char} (size : Nat) (hlen : buf.length = n + 1) (hsize : size ≤ n) :
    Holds (terminate ⟨buf, size⟩ : Buffer n) (buf.take size) := by
  refine ⟨⟨?_, hsize, ?_⟩, ?_⟩
  · simp [terminate, hlen]
  · simp only [terminate]
    rw [List.getElem?_set_self (by omega)]
  · simp only [terminate, Buffer.view, List.take_set_of_le (Nat.le_refl size)]

theorem store_holds {buf : List Char} (offset : Nat) (s : Str) (hlen : buf.length = n + 1)
    (hs : offset + s.length ≤ n) :
    Holds (terminate ⟨memcpy buf offset s, offset + s.length⟩ : Buffer n) (buf.take offset ++ s) := by
  have hcopy : (memcpy buf offset s).length = n + 1 := by rw [length_memcpy (by omega), hlen]
  have htake : (memcpy buf offset s).take (offset + s.length) = buf.take offset ++ s := by
    have hfirst : (buf.take offset ++ s).length = offset + s.length := by
      rw [List.length_append, List.length_take]
      omega
    rw [memcpy, ← hfirst, List.take_left]
  rw [← htake]
  exact terminate_holds _ hcopy hs

theorem new_holds : Holds ({} : Buffer n) [] := ⟨⟨by simp, Nat.zero_le _, by simp⟩, rfl⟩

section Steps

variable {f : Buffer n} {t : Str}

theorem Sound.assign (h : f.Sound) (s : Str) : Holds (f.assign s) (s.take n) := by
  have hsize : (s.take (min s.length n)).length = min s.length n := by
    rw [List.length_take]
    omega
  have hstore := store_holds 0 (s.take (min s.length n)) h.length (by omega)
  rw [hsize, Nat.zero_add, List.take_zero, List.nil_append] at hstore
  rwa [show s.take n = s.take (min s.length n) by rw [Nat.min_comm, ← List.take_take, List.take_length]]

theorem Sound.assign_cstr (h : f.Sound) (s : Option Str) :
    Holds (f.assign_cstr s) (((s.map cstr).getD []).take n) := by
  cases s with
  | none =>
    have hnew := terminate_holds 0 h.length (Nat.zero_le n)
    rw [List.take_zero] at hnew
    simpa [Buffer.assign_cstr] using hnew
  | some s =>
    -- The characters before the NUL are those of the text.
    have hcut (k : Nat) (hk : k ≤ (cstr s).length) : s.take k = (cstr s).take k := by
      have hp : cstr s <+: s := List.takeWhile_prefix _
      rw [List.prefix_iff_eq_take.mp hp, List.take_take, Nat.min_eq_left hk]
    have hstore := h.assign (cstr s)
    simp only [Buffer.assign, ← hcut _ (Nat.min_le_left _ _)] at hstore
    exact hstore

theorem Holds.append (h : Holds f t) (s : Str) : Holds (f.append s) ((t ++ s).take n) := by
  have hlen := h.length
  have hsize := h.sound.size_le
  have hcopy : (s.take (min s.length (n - f.size_))).length = min s.length (n - f.size_) := by
    rw [List.length_take]
    omega
  have hstore := store_holds f.size_ (s.take (min s.length (n - f.size_))) h.sound.length (by omega)
  have htext : (t ++ s).take n = f.buf_.take f.size_ ++ s.take (min s.length (n - f.size_)) := by
    have hs : s.take (n - t.length) = s.take (min s.length (n - f.size_)) := by
      rw [hlen, Nat.min_comm, ← List.take_take, List.take_length]
    rw [List.take_append, List.take_of_length_le (by omega), hs, ← h.view]
    rfl
  rw [htext]
  rwa [hcopy] at hstore

theorem Holds.appends (h : Holds f t) (texts : List Str) :
    Holds (texts.foldl Buffer.append f) ((t ++ texts.flatten).take n) := by
  have hlen := h.length
  have hsize := h.sound.size_le
  induction texts generalizing f t with
  | nil => rwa [List.flatten_nil, List.append_nil, List.take_of_length_le (by omega)]
  | cons s texts ih =>
    have hs := h.append s
    have hnext := ih hs hs.length hs.sound.size_le
    rw [take_append_take, List.append_assoc] at hnext
    exact hnext

theorem Holds.add_char (h : Holds f t) (c : Char) : Holds (f.add_char c) ((t ++ [c]).take n) := by
  have hlen := h.length
  have hsize := h.sound.size_le
  have hbuf := h.sound.length
  unfold Buffer.add_char
  split_ifs with hroom
  · have hset : (f.buf_.set f.size_ c).take (f.size_ + 1) = (t ++ [c]).take n := by
      rw [List.take_of_length_le (l := t ++ [c]) (by simp; omega), ← h.view, Buffer.view,
        List.take_succ_eq_append_getElem (by simp; omega), List.getElem_set_self, List.take_set_of_le (Nat.le_refl _)]
    rw [← hset]
    exact terminate_holds _ (by simp [hbuf]) hroom
  · have hfull : (t ++ [c]).take n = t := List.take_left' (by omega)
    rwa [hfull]

theorem Holds.erase (h : Holds f t) {pos count : Nat} (hok : count = NPOS ∨ pos + count < 2 ^ 64) :
    Holds (f.erase pos count) (((Op.erase pos count).meaning t).take n) := by
  have hlen := h.length
  have hsize := h.sound.size_le
  have hbuf := h.sound.length
  have hcut : ((Op.erase pos count).meaning t).take n = (Op.erase pos count).meaning t := by
    apply List.take_of_length_le
    simp only [Op.meaning]
    split_ifs <;> simp <;> omega
  have hfront {k : Nat} (hk : k ≤ f.size_) : f.buf_.take k = t.take k := by
    rw [← h.view, Buffer.view, List.take_take, Nat.min_eq_left hk]
  rw [hcut]
  simp only [Buffer.erase, Op.meaning]
  by_cases hpos : f.size_ ≤ pos
  · have hall : t.take pos = t := List.take_of_length_le (by omega)
    have hnone : t.drop (pos + count) = [] := List.drop_of_length_le (by omega)
    simpa [hpos, hall, hnone] using h
  rw [if_neg hpos]
  by_cases hcount : count = NPOS
  · rw [if_pos (.inl hcount), if_pos hcount, ← hfront (by omega)]
    exact terminate_holds _ hbuf (by omega)
  have hsum : (pos + count) % 2 ^ 64 = pos + count := Nat.mod_eq_of_lt (hok.resolve_left hcount)
  rw [if_neg hcount, hsum]
  by_cases hrest : f.size_ ≤ pos + count
  · rw [if_pos (.inr hrest), List.drop_of_length_le (by omega), List.append_nil, ← hfront (by omega)]
    exact terminate_holds _ hbuf (by omega)
  · -- The characters behind the gap, as far as the text goes.
    have hback : (f.buf_.drop (pos + count)).take (f.size_ - pos - count) = t.drop (pos + count) := by
      rw [← h.view, Buffer.view, List.drop_take]
      congr 1
      omega
    have hlast : (t.drop (pos + count)).length = f.size_ - pos - count := by
      rw [List.length_drop, hlen]
      omega
    have hstore := store_holds pos (t.drop (pos + count)) hbuf (by omega)
    rw [hfront (by omega), hlast, show pos + (f.size_ - pos - count) = f.size_ - count by omega] at hstore
    rw [if_neg (by simp [hcount, hrest]), hback]
    exact hstore

theorem Holds.substr (h : Holds f t) (pos count : Nat) :
    Holds (f.substr pos count) (((Op.substr pos count).meaning t).take n) := by
  have hlen := h.length
  have hempty (k : Nat) (hk : f.size_ ≤ pos) : (t.drop pos).take k = [] := by
    rw [List.drop_of_length_le (by omega), List.take_nil]
  have hpart (k : Nat) (hk : k ≤ f.size_ - pos) : (f.buf_.drop pos).take k = (t.drop pos).take k := by
    rw [← h.view, Buffer.view, List.drop_take, List.take_take, Nat.min_eq_left hk]
  simp only [Buffer.substr, Op.meaning]
  split_ifs with hpos hcount hcount
  · rw [List.drop_of_length_le (by omega), List.take_nil]
    exact terminate_holds 0 (by simp) (Nat.zero_le n)
  · rw [hempty _ hpos, List.take_nil]
    exact terminate_holds 0 (by simp) (Nat.zero_le n)
  · rw [hpart _ (Nat.le_refl _), List.take_of_length_le (l := t.drop pos) (by rw [List.length_drop]; omega)]
    exact new_holds.sound.assign _
  · have hall : (t.drop pos).take (min count (f.size_ - pos)) = (t.drop pos).take count := by
      rw [← List.take_take, List.take_of_length_le (l := t.drop pos) (by rw [List.length_drop]; omega)]
    rw [hpart _ (Nat.min_le_right _ _), hall]
    exact new_holds.sound.assign _

theorem Holds.set_size (h : Holds f t) {k : Nat} (hk : k ≤ f.size_) : Holds (f.set_size k) ((t.take k).take n) := by
  have hsize := h.sound.size_le
  have htake : (t.take k).take n = f.buf_.take (min k n) := by
    rw [← h.view, Buffer.view, List.take_take, List.take_take]
    congr 1
    omega
  rw [htake]
  exact terminate_holds _ h.sound.length (Nat.min_le_right _ _)

end Steps

theorem buffer_simulates : Simulates (step (n := n)) (cutStep n) Allowed Holds := by
  intro op f t hok h
  have hstep : Holds (step op f).2 ((op.meaning t).take n) := by
    cases op with
    | construct s => exact new_holds.sound.assign s
    | construct_cstr s => exact new_holds.sound.assign_cstr s
    | assign s => exact h.sound.assign s
    | assign_cstr s => exact h.sound.assign_cstr s
    | append s => exact h.append s
    | add_char c => exact h.add_char c
    | erase pos count => exact h.erase hok
    | substr pos count => exact h.substr pos count
    | clear => exact h.sound.assign_cstr none
    | set_size k => exact h.set_size hok
  exact ⟨hstep.view, hstep⟩

/-- After any operations the size is in bounds, the NUL stands behind the text, and the text is the one of the same
operations on strings, each cut at the capacity. Appends in a row are one append. -/
theorem bounded_string (ops : List Op) (hops : Along Allowed (step (n := n)) ops {}) :
    let f := final (step (n := n)) ops {}
    (f.buf_.length = n + 1 ∧ f.size_ ≤ n ∧ f.buf_[f.size_]? = some '\x00') ∧
      f.view = final (cutStep n) ops [] ∧
      answers (step (n := n)) ops {} = answers (cutStep n) ops [] ∧
      ∀ texts : List Str, (texts.foldl Buffer.append f).view = (f.append texts.flatten).view := by
  obtain ⟨ha, hf⟩ := buffer_simulates.run hops new_holds
  refine ⟨⟨hf.sound.length, hf.sound.size_le, hf.sound.nul⟩, hf.view, ha, fun texts => ?_⟩
  rw [(hf.append texts.flatten).view, (hf.appends texts).view]

/-- A report that does not fit, without its head and with a line feed. -/
def report : List Op :=
  [.construct "+CSQ: 15,99".toList, .erase 0 6, .append "\r\n".toList, .set_size 3, .add_char '\n']

theorem bounded_string_report :
    (final (step (n := 8)) report {}).view = "15\r\n".toList ∧ (final (step (n := 8)) report {}).size_ ≤ 8 := by
  have hok : Along Allowed (step (n := 8)) report {} :=
    ⟨trivial, .inr (by decide), trivial, Nat.le_of_ble_eq_true rfl, trivial, trivial⟩
  exact ⟨(bounded_string report hok).2.1, (bounded_string report hok).1.2.1⟩

end Buffer

end LteModem.FixedString
