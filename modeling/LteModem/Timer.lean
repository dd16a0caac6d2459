import Mathlib.Algebra.Group.Nat.Defs

/-!
# One-shot timers (`hal/posix_timer.cpp`)

The timer thread is a separate step, `expire`: it clears `running` and hands out the callback, which
the surroundings run later. `stop` does not take back a callback that is already out.
-/

namespace LteModem

def UINT32_MAX : Nat := 2 ^ 32 - 1

inductive TimerError where
  | ok | already_running | not_running
deriving DecidableEq, Repr

structure Timer (κ : Type) where
  running : Bool := false
  cb : Option κ := none
  timeout_ms : Nat := 0
  start_ : Option Nat := none

namespace Timer

variable {κ : Type}

def start (now timeout_ms : Nat) (cb : κ) (t : Timer κ) : TimerError × Timer κ :=
  if t.running then (.already_running, t)
  else (.ok, { running := true, cb := some cb, timeout_ms, start_ := some now })

/-- `start` with a callback that may be `nullptr`. -/
def start_with (now timeout_ms : Nat) (cb : Option κ) (t : Timer κ) : TimerError × Timer κ :=
  if t.running then (.already_running, t)
  else (.ok, { running := true, cb, timeout_ms, start_ := some now })

def stop (t : Timer κ) : TimerError × Timer κ :=
  if t.running then (.ok, { t with running := false }) else (.not_running, t)

/-- A running timer gets a new deadline, a stopped one starts again with the callback it has. -/
def reset (now timeout_ms : Nat) (t : Timer κ) : TimerError × Timer κ :=
  if t.running = false ∧ t.cb.isNone then (.not_running, t)
  else (.ok, { t with running := true, timeout_ms, start_ := some now })

def elapsed_ms (now : Nat) (t : Timer κ) : Nat :=
  match t.start_ with
  | none => 0
  | some s => (now - s) % 2 ^ 32

/-- The deadline passes: the callback that `run` is about to invoke, if the timer was running. -/
def expire (t : Timer κ) : Option κ × Timer κ :=
  if t.running then (t.cb, { t with running := false }) else (none, t)

@[simp] theorem stop_running (t : Timer κ) : t.stop.2.running = false := by
  unfold stop
  cases h : t.running <;> simp [h]

@[simp] theorem expire_running (t : Timer κ) : t.expire.2.running = false := by
  unfold expire
  cases h : t.running <;> simp [h]

theorem start_of_stopped (now timeout_ms : Nat) (cb : κ) (t : Timer κ) (h : t.running = false) :
    t.start now timeout_ms cb = (.ok, { running := true, cb := some cb, timeout_ms, start_ := some now }) := by
  simp [start, h]

end Timer

end LteModem
