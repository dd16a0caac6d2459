import LteModem.ModemController
import Mathlib.Order.MinMax

/-!
# Room in the URC buffer

`poll_urc` cuts the buffer when it is longer than 1024 characters, which is its capacity. So the cut
never happens, and a full buffer without a line feed stays as it is for good.
-/

open Strings

namespace LteModem.UrcBuffer

open ModemController

variable {σ : Type} (u : Uart σ)

/-! ## One poll -/

theorem erase_line {buf : FixedString URC_RX_BUFFER_MAX} {stop : Nat} (hf : find ['\n'] buf.view = some stop) :
    ∃ a b, buf.view = a ++ '\n' :: b ∧ a.length = stop ∧ '\n' ∉ a ∧ (buf.erase 0 (stop + 1)).view = b ∧
      (buf.erase 0 (stop + 1)).size < buf.size := by
  obtain ⟨a, b, hab, hstop, ha⟩ := find_eq_some hf
  have hlen := congrArg List.length hab
  simp only [List.length_append, List.length_cons] at hlen
  have hv : (buf.erase 0 (stop + 1)).view = b := by
    rw [FixedString.erase_zero_view buf _ (by omega), hab, ← hstop]
    simp
  refine ⟨a, b, hab, hstop, ha, hv, ?_⟩
  unfold FixedString.size
  rw [hv]
  omega

theorem drainLines_spec (fuel : Nat) (buf : FixedString URC_RX_BUFFER_MAX)
    (urcs : List (FixedString URC_LINE_MAX)) (h : buf.size < fuel) :
    ∃ a, buf.view = a ++ (drainLines fuel buf urcs).2.view ∧
      (a = [] ∨ '\n' ∈ a) ∧ '\n' ∉ (drainLines fuel buf urcs).2.view := by
  induction fuel generalizing buf urcs with
  | zero => omega
  | succ fuel ih =>
    unfold drainLines
    rcases hf : find ['\n'] buf.view with _ | stop
    · exact ⟨[], rfl, .inl rfl, find_eq_none hf⟩
    · obtain ⟨a, b, hab, -, -, hv, hs⟩ := erase_line hf
      have hs : (buf.erase 0 (stop + 1)).size < fuel := by omega
      obtain ⟨a', h1, -, h3⟩ := ih _ _ hs
      refine ⟨a ++ '\n' :: a', ?_, .inr (by simp), h3⟩
      rw [List.append_assoc, List.cons_append, ← h1, hv]
      exact hab

theorem trimBuffer_eq (buf : FixedString URC_RX_BUFFER_MAX) : trimBuffer buf = buf := by
  unfold trimBuffer
  rw [if_neg]
  have := buf.fits
  unfold FixedString.size
  unfold URC_RX_BUFFER_MAX at this
  omega

theorem parseBuffer_room (buf : FixedString URC_RX_BUFFER_MAX) :
    (parseBuffer buf).2.size < URC_RX_BUFFER_MAX ↔
      buf.size < URC_RX_BUFFER_MAX ∨ '\n' ∈ buf.view := by
  obtain ⟨a, h1, h2, h3⟩ := drainLines_spec (buf.size + 1) buf [] (by omega)
  have hfit := buf.fits
  have hlen := congrArg List.length h1
  rw [List.length_append] at hlen
  unfold parseBuffer
  simp only [trimBuffer_eq]
  unfold FixedString.size at *
  constructor
  · intro h
    rcases h2 with rfl | h2
    · left
      simp only [List.length_nil] at hlen
      omega
    · right
      rw [h1]
      exact List.mem_append_left _ h2
  · rintro (h | h)
    · omega
    · have ha : a ≠ [] := by
        rintro rfl
        rw [h1] at h
        exact h3 h
      have := List.length_pos_iff.mpr ha
      omega

/-- The bytes a poll adds to the buffer, or `none` when it returns before it looks at it. -/
def polled (timeout_ms : Nat) (m : ModemController σ) : Option Str :=
  let s := (u.lock m.uart_).2
  if (u.lock m.uart_).1 = false ∨ u.is_open s = false then none
  else
    match (u.read READ_MAX timeout_ms s).1 with
    | (.ok, bytes) => some bytes
    | (.timeout, _) => some []
    | _ => none

/-- The poll does not end with a full buffer that has no line feed in it. -/
def Fits (timeout_ms : Nat) (m : ModemController σ) : Prop :=
  match polled u timeout_ms m with
  | none => m.urc_rx_buffer_.size < URC_RX_BUFFER_MAX
  | some bytes =>
    (m.urc_rx_buffer_.view ++ bytes).length < URC_RX_BUFFER_MAX ∨
      '\n' ∈ (m.urc_rx_buffer_.view ++ bytes).take URC_RX_BUFFER_MAX

/-- The lines and the buffer that a poll ends with. -/
def afterPoll (buf : FixedString URC_RX_BUFFER_MAX) :
    Option Str → List (FixedString URC_LINE_MAX) × FixedString URC_RX_BUFFER_MAX
  | none => ([], buf)
  | some bytes => parseBuffer (buf.append bytes)

theorem poll_urc_spec (timeout_ms : Nat) (m : ModemController σ) :
    (poll_urc u timeout_ms m).1 = some (afterPoll m.urc_rx_buffer_ (polled u timeout_ms m)).1 ∧
      (poll_urc u timeout_ms m).2.urc_rx_buffer_ =
        (afterPoll m.urc_rx_buffer_ (polled u timeout_ms m)).2 := by
  unfold polled poll_urc
  simp only [Prog.bind_run, onUart]
  by_cases hl : (u.lock m.uart_).1 = false
  · simp [hl, afterPoll]
  · by_cases ho : u.is_open (u.lock m.uart_).2 = false
    · simp [hl, ho, Prog.bind_run, afterPoll]
    · simp only [hl, ho, or_self, Prog.ite_run, Prog.bind_run, onUart]
      rcases hr : (u.read READ_MAX timeout_ms (u.lock m.uart_).2).1 with ⟨err, bytes⟩
      cases err <;> simp [ho, hr, afterPoll]

theorem poll_urc_room (timeout_ms : Nat) (m : ModemController σ) :
    (poll_urc u timeout_ms m).2.urc_rx_buffer_.size < URC_RX_BUFFER_MAX ↔ Fits u timeout_ms m := by
  rw [(poll_urc_spec u timeout_ms m).2]
  unfold Fits
  rcases polled u timeout_ms m with _ | bytes
  · exact Iff.rfl
  · simp only [afterPoll, parseBuffer_room, FixedString.append_view]
    unfold FixedString.size
    rw [FixedString.append_view, List.length_take, min_lt_iff]
    simp

/-! ## Runs -/

inductive Call where
  | poll_urc (timeout_ms : Nat)
  | send_command (cmd : AtCommand) (response : AtResponse)

def Call.exec (fuel : Nat) : Call → ModemController σ → ModemController σ
  | .poll_urc timeout_ms, m => (ModemController.poll_urc u timeout_ms m).2
  | .send_command cmd response, m => (ModemController.send_command u fuel cmd response m).2

/-- After every poll of the run the buffer has room. -/
def AlwaysRoom (fuel : Nat) : List Call → ModemController σ → Prop
  | [], _ => True
  | c :: calls, m =>
    (∀ timeout_ms, c = .poll_urc timeout_ms →
      (c.exec u fuel m).urc_rx_buffer_.size < URC_RX_BUFFER_MAX) ∧
    AlwaysRoom fuel calls (c.exec u fuel m)

/-- Every poll of the run fits. -/
def AlwaysFits (fuel : Nat) : List Call → ModemController σ → Prop
  | [], _ => True
  | c :: calls, m =>
    (∀ timeout_ms, c = .poll_urc timeout_ms → Fits u timeout_ms m) ∧
    AlwaysFits fuel calls (c.exec u fuel m)

/-- A run of polls and commands keeps room in the buffer exactly when no poll finds a full buffer
that has no line feed. -/
theorem always_room_iff (fuel : Nat) (calls : List Call) (m : ModemController σ) :
    AlwaysRoom u fuel calls m ↔ AlwaysFits u fuel calls m := by
  induction calls generalizing m with
  | nil => exact Iff.rfl
  | cons c calls ih =>
    unfold AlwaysRoom AlwaysFits
    refine and_congr (forall_congr' fun timeout_ms => ?_) (ih _)
    constructor
    · rintro h rfl
      exact (poll_urc_room u timeout_ms m).mp (h rfl)
    · rintro h rfl
      exact (poll_urc_room u timeout_ms m).mpr (h rfl)

/-! ## A wedged buffer -/

def Wedged (b : FixedString URC_RX_BUFFER_MAX) : Prop :=
  b.size = URC_RX_BUFFER_MAX ∧ '\n' ∉ b.view

variable {u} {b : FixedString URC_RX_BUFFER_MAX}

theorem append_wedged (hb : Wedged b) (s : Str) : b.append s = b := by
  apply FixedString.ext
  have h := hb.1
  unfold FixedString.size at h
  rw [FixedString.append_view, List.take_append_of_le_length (by omega), List.take_of_length_le (by omega)]

theorem parseBuffer_wedged (hb : Wedged b) : parseBuffer b = ([], b) := by
  have hn : find ['\n'] b.view = none := by
    rcases hf : find ['\n'] b.view with _ | i
    · rfl
    · obtain ⟨x, y, hxy, -⟩ := find_eq_some hf
      exact absurd (hxy ▸ by simp) hb.2
  unfold parseBuffer drainLines
  simp only [hn, trimBuffer_eq]

instance onUart_keeps_buffer {α : Type} (f : σ → α × σ) :
    Prog.Preserves (fun m : ModemController σ => m.urc_rx_buffer_ = b) (onUart f) :=
  ⟨fun _ h => h⟩

theorem append_keeps_wedged (hb : Wedged b) (t : Str) :
    Prog.Preserves (fun m : ModemController σ => m.urc_rx_buffer_ = b)
      (.modify fun c => { c with urc_rx_buffer_ := c.urc_rx_buffer_.append t }) := by
  apply Prog.Preserves.modify
  rintro m rfl
  exact append_wedged hb t

theorem wedged_run (fuel : Nat) (calls : List Call) (m : ModemController σ)
    (hb : Wedged m.urc_rx_buffer_) :
    let m' := calls.foldl (fun m c => c.exec u fuel m) m
    m'.urc_rx_buffer_ = m.urc_rx_buffer_ ∧
      ∀ timeout_ms, (ModemController.poll_urc u timeout_ms m').1 = some [] := by
  have poll : ∀ timeout_ms (m : ModemController σ), Wedged m.urc_rx_buffer_ →
      (ModemController.poll_urc u timeout_ms m).1 = some [] ∧
        (ModemController.poll_urc u timeout_ms m).2.urc_rx_buffer_ = m.urc_rx_buffer_ := by
    intro timeout_ms m hb
    have hp := poll_urc_spec u timeout_ms m
    rcases hr : polled u timeout_ms m with _ | bytes <;> rw [hr] at hp
    · exact hp
    · simp only [afterPoll, append_wedged hb, parseBuffer_wedged hb] at hp
      exact hp
  induction calls generalizing m with
  | nil => exact ⟨rfl, fun t => (poll t m hb).1⟩
  | cons c calls ih =>
    have hc : (c.exec u fuel m).urc_rx_buffer_ = m.urc_rx_buffer_ := by
      rcases c with t | ⟨cmd, response⟩
      · exact (poll t m hb).2
      · have := append_keeps_wedged (σ := σ) hb
        have hs : Prog.Preserves (fun n : ModemController σ => n.urc_rx_buffer_ = m.urc_rx_buffer_)
            (ModemController.send_command u fuel cmd response) := by
          unfold ModemController.send_command
          infer_instance
        exact hs.final rfl
    have hi := ih (c.exec u fuel m) (by rw [hc]; exact hb)
    rw [hc] at hi
    exact hi

/-- A kilobyte without a line feed, then a URC: the third poll leaves the buffer full. -/
theorem room_lost :
    let chunk := List.replicate 511 'x'
    ¬ AlwaysRoom scripted 0 [.poll_urc 50, .poll_urc 50, .poll_urc 50]
      { uart_ := [chunk, chunk, "xx\r\nRING\r\n".toList] } := by
  intro chunk h
  have := h.2.2.1 50 rfl
  revert this
  decide +kernel

end LteModem.UrcBuffer
