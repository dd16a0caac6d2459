import Mathlib.Data.List.Infix

/-!
# Stream sockets

`recv` gives what is there, at most what was asked for, and `send` takes what there is room for. A loop
around `recv` fills a buffer.
-/

/-- The bytes that are still to be read, up to the end of the connection, and what each call meets:
`none` where it fails, else how many bytes beyond the first have arrived by then. -/
structure Inflow (α : Type) where
  unread : List α
  meets : List (Option Nat) := []

namespace Inflow

variable {α : Type}

/-- What a call has read, `none` when it failed. At the end of the connection it reads nothing. -/
def recv (n : Nat) (s : Inflow α) : Option (List α) × Inflow α :=
  match s.meets with
  | none :: meets => (none, ⟨s.unread, meets⟩)
  | some k :: meets => (some (s.unread.take (min n (k + 1))), ⟨s.unread.drop (min n (k + 1)), meets⟩)
  | [] => (some (s.unread.take n), ⟨s.unread.drop n, []⟩)

/-- A call that waits for all it asked for (`MSG_WAITALL`). -/
def recvAll (n : Nat) (s : Inflow α) : Option (List α) × Inflow α :=
  match s.meets with
  | none :: meets => (none, ⟨s.unread, meets⟩)
  | meets => (some (s.unread.take n), ⟨s.unread.drop n, meets.tail⟩)

/-- Reads on until `buf` holds `n` bytes, `none` when the connection ends or a call fails before. -/
def fill : Nat → Nat → List α → Inflow α → Option (List α) × Inflow α
  | 0, _, _, s => (none, s)
  | fuel + 1, n, buf, s =>
    if buf.length < n then
      match s.recv (n - buf.length) with
      | (some (a :: as), s) => fill fuel n (buf ++ a :: as) s
      | (_, s) => (none, s)
    else (some buf, s)

/-- No call fails. -/
def Calm (s : Inflow α) : Prop := none ∉ s.meets

/-- Reading `got` leads from `s` to `t`. -/
structure Reads (got : List α) (s t : Inflow α) : Prop where
  unread : s.unread = got ++ t.unread
  calm : s.Calm → t.Calm

theorem Reads.refl (s : Inflow α) : Reads [] s s := ⟨rfl, id⟩

theorem Reads.trans {a b : List α} {s t u : Inflow α} (h : Reads a s t) (h' : Reads b t u) : Reads (a ++ b) s u :=
  ⟨by rw [h.unread, h'.unread, List.append_assoc], fun hs => h'.calm (h.calm hs)⟩

theorem recv_spec {n : Nat} (hn : 0 < n) (s : Inflow α) :
    (∃ got t, s.recv n = (some got, t) ∧ Reads got s t ∧ got.length ≤ n ∧ (got = [] → s.unread = [])) ∨
      ((s.recv n).1 = none ∧ ¬ s.Calm) := by
  have taken : ∀ k, 0 < k → k ≤ n →
      (s.unread.take k).length ≤ n ∧ (s.unread.take k = [] → s.unread = []) := by
    intro k hk hkn
    refine ⟨Nat.le_trans (List.length_take_le _ _) hkn, fun h => ?_⟩
    exact (List.take_eq_nil_iff.mp h).resolve_left (by omega)
  obtain ⟨unread, meets⟩ := s
  match meets with
  | none :: meets => exact .inr ⟨rfl, fun h => h List.mem_cons_self⟩
  | some k :: meets =>
    refine .inl ⟨_, _, rfl, ⟨(List.take_append_drop _ _).symm, ?_⟩, taken (min n (k + 1)) (by omega) (by omega)⟩
    exact fun h hm => h (List.mem_cons_of_mem _ hm)
  | [] => exact .inl ⟨_, _, rfl, ⟨(List.take_append_drop _ _).symm, id⟩, taken n hn (Nat.le_refl n)⟩

theorem recvAll_spec (n : Nat) (s : Inflow α) :
    (∃ got t, s.recvAll n = (some got, t) ∧ Reads got s t ∧ got = s.unread.take n) ∨
      ((s.recvAll n).1 = none ∧ ¬ s.Calm) := by
  obtain ⟨unread, meets⟩ := s
  match meets with
  | none :: meets => exact .inr ⟨rfl, fun h => h List.mem_cons_self⟩
  | some k :: meets =>
    exact .inl ⟨_, _, rfl, ⟨(List.take_append_drop _ _).symm, fun h hm => h (List.mem_cons_of_mem _ hm)⟩, rfl⟩
  | [] => exact .inl ⟨_, _, rfl, ⟨(List.take_append_drop _ _).symm, id⟩, rfl⟩

/-- However the bytes arrive, a filled buffer holds the next ones. It stays unfilled only where the
connection ends before that or a call fails. -/
theorem fill_spec {fuel n : Nat} (buf : List α) {s : Inflow α} (hb : buf.length ≤ n) (hf : n - buf.length < fuel) :
    (∃ got t, fill fuel n buf s = (some (buf ++ got), t) ∧ Reads got s t ∧ buf.length + got.length = n) ∨
      ((fill fuel n buf s).1 = none ∧ (s.Calm → buf.length + s.unread.length < n)) := by
  induction fuel generalizing buf s with
  | zero => omega
  | succ fuel ih =>
    by_cases hlt : buf.length < n
    swap
    · rw [fill, if_neg hlt]
      exact .inl ⟨[], s, by rw [List.append_nil], .refl s, by rw [List.length_nil]; omega⟩
    · rw [fill, if_pos hlt]
      rcases recv_spec (n := n - buf.length) (by omega) s with ⟨got, t, hr, hreads, hlen, hnil⟩ | ⟨hr, hcalm⟩
      · rw [hr]
        cases got with
        | nil =>
          refine .inr ⟨rfl, fun _ => ?_⟩
          rw [hnil rfl, List.length_nil]
          omega
        | cons a as =>
          have hlen' : (buf ++ a :: as).length = buf.length + (a :: as).length := List.length_append
          rw [List.length_cons] at hlen hlen'
          rcases ih (buf ++ a :: as) (s := t) (by omega) (by omega) with
            ⟨more, u, hfill, hmore, htotal⟩ | ⟨hfill, hend⟩
          · refine .inl ⟨a :: as ++ more, u, ?_, hreads.trans hmore, ?_⟩
            · simp only [hfill, List.append_assoc]
            · rw [List.length_append, List.length_cons]
              omega
          · refine .inr ⟨hfill, fun hs => ?_⟩
            have := hend (hreads.calm hs)
            rw [hreads.unread, List.length_append, List.length_cons]
            omega
      · refine .inr ⟨?_, fun hs => absurd hs hcalm⟩
        rcases hs : s.recv (n - buf.length) with ⟨got, t⟩
        rw [hs] at hr
        obtain rfl : got = none := hr
        rfl

end Inflow

/-- The bytes that went out, and how many each call takes: `none` where it fails. -/
structure Outflow (α : Type) where
  wire : List α := []
  takes : List (Option Nat) := []

namespace Outflow

variable {α : Type}

/-- The number of bytes taken, `none` when the call failed. -/
def send (bytes : List α) (c : Outflow α) : Option Nat × Outflow α :=
  match c.takes with
  | none :: takes => (none, ⟨c.wire, takes⟩)
  | some k :: takes => (some (min k bytes.length), ⟨c.wire ++ bytes.take k, takes⟩)
  | [] => (some bytes.length, ⟨c.wire ++ bytes, []⟩)

theorem send_spec (bytes : List α) (c : Outflow α) :
    ∃ sent, sent <+: bytes ∧ (c.send bytes).2.wire = c.wire ++ sent ∧
      ((c.send bytes).1 = some bytes.length → sent = bytes) := by
  obtain ⟨wire, takes⟩ := c
  match takes with
  | none :: takes => exact ⟨[], List.nil_prefix, (List.append_nil wire).symm, nofun⟩
  | some k :: takes =>
    refine ⟨bytes.take k, List.take_prefix k bytes, rfl, fun h => List.take_of_length_le ?_⟩
    have := Option.some.inj h
    omega
  | [] => exact ⟨bytes, List.prefix_refl bytes, rfl, fun _ => rfl⟩

end Outflow
