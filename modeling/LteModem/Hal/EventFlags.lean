import LteModem.Lib.Machine
import Mathlib.Data.BitVec

/-!
# Event flags (`hal/posix_event_flags.cpp`, `hal/zephyr_event_flags.cpp`)

The kernel's `k_event` is a parameter, with the documented effect of its functions as hypotheses.
-/

open Machine

namespace LteModem

abbrev Flags := BitVec 32

/-- The calls of `EventFlagsInterface`. The timeout of `wait` is 0. -/
inductive FlagsOp where
  | set (flags : Flags)
  | clear (flags : Flags)
  | get
  | wait (flags : Flags) (fClear : Bool)

/-- The state is `flags_`; `set` and `clear` return nothing. -/
def PosixEventFlags : FlagsOp → Flags → Option Flags × Flags
  | .set flags, flags_ => (none, flags_ ||| flags)
  | .clear flags, flags_ => (none, flags_ &&& ~~~flags)
  | .get, flags_ => (some flags_, flags_)
  | .wait flags fClear, flags_ =>
    if flags_ &&& flags = 0 then (some 0, flags_)
    else
      let matched := flags_ &&& flags
      (some matched, if fClear then flags_ &&& ~~~matched else flags_)

/-- The functions of the kernel on a `k_event`. `wait` is `k_event_wait` with `K_NO_WAIT`. -/
structure KEvent where
  E : Type
  init : E
  post : Flags → E → E
  clear : Flags → E → E
  test : Flags → E → Flags
  wait : Flags → Bool → E → Flags × E

/-- What the kernel documents: `events` are the tracked events, and `reset` clears all of them before
the wait and none after it. -/
structure KEvent.Documented (K : KEvent) (events : K.E → Flags) : Prop where
  init : events K.init = 0
  post : ∀ flags e, events (K.post flags e) = events e ||| flags
  clear : ∀ flags e, events (K.clear flags e) = events e &&& ~~~flags
  test : ∀ flags e, K.test flags e = events e &&& flags
  waited : ∀ flags reset e, (K.wait flags reset e).1 = (if reset then 0 else events e) &&& flags
  left : ∀ flags reset e, events (K.wait flags reset e).2 = if reset then 0 else events e

/-- `get`, with the mask `~0U`. -/
def KEvent.get (K : KEvent) (event_ : K.E) : Flags := K.test (~~~0) event_

def ZephyrEventFlags (K : KEvent) : FlagsOp → K.E → Option Flags × K.E
  | .set flags, event_ => (none, K.post flags event_)
  | .clear flags, event_ => (none, K.clear flags event_)
  | .get, event_ => (some (K.get event_), event_)
  | .wait flags fClear, event_ => (some (K.wait flags fClear event_).1, (K.wait flags fClear event_).2)

/-! ## Agreement -/

/-- A wait that clears reports the bits of its mask that are set, and clears these only. -/
def Reports (K : KEvent) (op : FlagsOp) (event_ : K.E) : Prop :=
  ∀ flags, op = .wait flags true →
    (ZephyrEventFlags K op event_).1 = some (K.get event_ &&& flags) ∧
      K.get (ZephyrEventFlags K op event_).2 = K.get event_ &&& ~~~(K.get event_ &&& flags)

def FlagsAgree (K : KEvent) (ops : List FlagsOp) : Prop :=
  answers PosixEventFlags ops 0 = answers (ZephyrEventFlags K) ops K.init ∧
    Along (Reports K) (ZephyrEventFlags K) ops K.init

def Quiet (op : FlagsOp) (flags_ : Flags) : Prop := ∀ flags, op = .wait flags true → flags_ = 0

section Documented

variable {K : KEvent} {events : K.E → Flags} (hK : K.Documented events)

include hK

theorem get_eq (event_ : K.E) : K.get event_ = events event_ := by
  rw [KEvent.get, hK.test]
  exact BitVec.and_allOnes

theorem flags_simulates :
    Simulates PosixEventFlags (ZephyrEventFlags K) Quiet (fun flags_ event_ => events event_ = flags_) := by
  rintro op flags_ event_ hquiet rfl
  cases op with
  | set flags => exact ⟨rfl, hK.post flags event_⟩
  | clear flags => exact ⟨rfl, hK.clear flags event_⟩
  | get => exact ⟨congrArg some (get_eq hK event_).symm, rfl⟩
  | wait flags fClear =>
    simp only [ZephyrEventFlags, PosixEventFlags]
    rw [hK.waited, hK.left]
    cases fClear with
    | false =>
      by_cases h : events event_ &&& flags = 0
      · rw [if_pos h]
        exact ⟨congrArg some h.symm, rfl⟩
      · rw [if_neg h]
        exact ⟨rfl, rfl⟩
    | true =>
      have h : events event_ = 0 := hquiet flags rfl
      simp [h]

theorem reports_of_quiet {op : FlagsOp} {event_ : K.E} (h : Quiet op (events event_)) :
    Reports K op event_ := by
  rintro flags rfl
  have h : events event_ = 0 := h flags rfl
  simp [ZephyrEventFlags, get_eq hK, hK.waited, hK.left, h]

theorem quiet_of_reports {op : FlagsOp} {event_ : K.E} (h : Reports K op event_) :
    Quiet op (events event_) := by
  rintro flags rfl
  obtain ⟨hw, hl⟩ := h flags rfl
  simp only [ZephyrEventFlags, get_eq hK, hK.waited, hK.left, if_true, Option.some.injEq] at hw hl
  have hnone : (0 : Flags) &&& flags = 0 := BitVec.zero_and
  rw [← hw, hnone] at hl
  exact (hl.trans BitVec.and_allOnes).symm

theorem along_reports_iff (ops : List FlagsOp) (event_ : K.E) :
    Along (Reports K) (ZephyrEventFlags K) ops event_ ↔ Along Quiet PosixEventFlags ops (events event_) := by
  induction ops generalizing event_ with
  | nil => exact Iff.rfl
  | cons op ops ih =>
    have hnext (hq : Quiet op (events event_)) :
        events (ZephyrEventFlags K op event_).2 = (PosixEventFlags op (events event_)).2 :=
      (flags_simulates hK op _ event_ hq rfl).2
    constructor
    · rintro ⟨hr, hrest⟩
      have hq := quiet_of_reports hK hr
      exact ⟨hq, hnext hq ▸ (ih _).mp hrest⟩
    · rintro ⟨hq, hrest⟩
      exact ⟨reports_of_quiet hK hq, (ih _).mpr (hnext hq ▸ hrest)⟩

theorem flags_agree_iff (ops : List FlagsOp) : FlagsAgree K ops ↔ Along Quiet PosixEventFlags ops 0 := by
  have hreports := along_reports_iff hK ops K.init
  rw [hK.init] at hreports
  constructor
  · exact fun h => hreports.mp h.2
  · exact fun h => ⟨((flags_simulates hK).run h hK.init).1, hreports.mpr h⟩

end Documented

/-- A `k_event` that is just its word. -/
def wordEvent : KEvent where
  E := Flags
  init := 0
  post flags e := e ||| flags
  clear flags e := e &&& ~~~flags
  test flags e := e &&& flags
  wait flags reset e := ((if reset then 0 else e) &&& flags, if reset then 0 else e)

theorem wordEvent_documented : wordEvent.Documented id where
  init := rfl
  post _ _ := rfl
  clear _ _ := rfl
  test _ _ := rfl
  waited _ _ _ := rfl
  left _ _ _ := rfl

theorem flags_agree_response :
    Along Quiet PosixEventFlags [.set 1, .wait 1 false, .clear 1, .wait 2 true, .get] 0 ∧
      FlagsAgree wordEvent [.set 1, .wait 1 false, .clear 1, .wait 2 true, .get] := by
  have h : Along Quiet PosixEventFlags [.set 1, .wait 1 false, .clear 1, .wait 2 true, .get] 0 := by
    simp [Along, Quiet, PosixEventFlags]
  exact ⟨h, (flags_agree_iff wordEvent_documented _).mpr h⟩

/-- The response bit is posted before the client waits for it. The wait reports nothing, and the other
bit is lost with it. -/
theorem zephyr_wait_drops_posted_bit :
    ¬ FlagsAgree wordEvent [.set 3, .wait 1 true, .get] ∧
      answers PosixEventFlags [.set 3, .wait 1 true, .get] 0 = [none, some 1, some 2] ∧
      answers (ZephyrEventFlags wordEvent) [.set 3, .wait 1 true, .get] (0 : Flags) = [none, some 0, some 0] := by
  refine ⟨fun h => ?_, by decide, by decide⟩
  have := h.1
  revert this
  decide

end LteModem
