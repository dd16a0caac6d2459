import LteModem.Lib.Machine
import LteModem.Timer

/-!
# The timers of the platforms (`hal/posix_timer.cpp`, `hal/win32_timer.cpp`, `hal/zephyr_timer.cpp`)

`ModemController` and `NetworkLte` each ask `create_platform_timer` for a timer. A handle that other
code uses too is no timer of one's own.
-/

open Machine

namespace LteModem

/-! ## The Zephyr class -/

/-- `timer_` is the time that the `k_timer` counts down, while it does. -/
structure ZephyrTimer (κ : Type) where
  timer_ : Option Nat := none
  cb_ : Option κ := none
  running_ : Bool := false
  start_ms_ : Option Nat := none

namespace ZephyrTimer

variable {κ : Type}

def start (now timeout_ms : Nat) (cb : Option κ) (t : ZephyrTimer κ) : TimerError × ZephyrTimer κ :=
  if t.running_ then (.already_running, t)
  else (.ok, { timer_ := some timeout_ms, cb_ := cb, running_ := true, start_ms_ := some now })

def stop (t : ZephyrTimer κ) : TimerError × ZephyrTimer κ :=
  if !t.running_ then (.not_running, t)
  else (.ok, { t with timer_ := none, running_ := false })

/-- Unlike the desktop class, a running timer without a callback is refused too. -/
def reset (now timeout_ms : Nat) (t : ZephyrTimer κ) : TimerError × ZephyrTimer κ :=
  if t.cb_.isNone then (.not_running, t)
  else (.ok, { t with timer_ := some timeout_ms, running_ := true, start_ms_ := some now })

/-- The kernel calls this when the `k_timer` has counted down. -/
def expiry_fn (t : ZephyrTimer κ) : Option κ × ZephyrTimer κ := (t.cb_, { t with running_ := false })

def expire (t : ZephyrTimer κ) : Option κ × ZephyrTimer κ :=
  match t.timer_ with
  | none => (none, t)
  | some _ => expiry_fn { t with timer_ := none }

theorem stop_start_expire (now total_ms : Nat) (t : ZephyrTimer κ) :
    (t.stop.2.start now total_ms none).2.expire.1 = none := by
  unfold stop
  cases h : t.running_ <;> simp [start, expire, expiry_fn, h]

end ZephyrTimer

/-! ## Steps on a handle -/

inductive TimerOp (κ : Type) where
  | start (now timeout_ms : Nat) (cb : Option κ)
  | stop
  | reset (now timeout_ms : Nat)
  | expire

def TimerOp.isStart {κ : Type} : TimerOp κ → Bool
  | .start .. => true
  | _ => false

/-- What a call returns, or the callback that an expiry runs. -/
inductive TimerResult (κ : Type) where
  | returned (err : TimerError)
  | ran (cb : Option κ)
deriving DecidableEq

/-- `TimerInterface`, as one class implements it. -/
structure TimerClass (κ : Type) where
  T : Type
  new : T
  start : Nat → Nat → Option κ → T → TimerError × T
  stop : T → TimerError × T
  reset : Nat → Nat → T → TimerError × T
  is_running : T → Bool
  expire : T → Option κ × T

def TimerClass.step {κ : Type} (C : TimerClass κ) : TimerOp κ → C.T → TimerResult κ × C.T
  | .start now timeout_ms cb, t => (.returned (C.start now timeout_ms cb t).1, (C.start now timeout_ms cb t).2)
  | .stop, t => (.returned (C.stop t).1, (C.stop t).2)
  | .reset now timeout_ms, t => (.returned (C.reset now timeout_ms t).1, (C.reset now timeout_ms t).2)
  | .expire, t => (.ran (C.expire t).1, (C.expire t).2)

variable {κ : Type}

/-- `PosixTimer`, and `Win32Timer`, which has the same text. -/
def desktopTimer (κ : Type) : TimerClass κ where
  T := Timer κ
  new := {}
  start := Timer.start_with
  stop := Timer.stop
  reset := Timer.reset
  is_running := Timer.running
  expire := Timer.expire

def zephyrTimer (κ : Type) : TimerClass κ where
  T := ZephyrTimer κ
  new := {}
  start := ZephyrTimer.start
  stop := ZephyrTimer.stop
  reset := ZephyrTimer.reset
  is_running := ZephyrTimer.running_
  expire := ZephyrTimer.expire

/-! ## Factories -/

inductive Platform where
  | posix | windows | zephyr
deriving DecidableEq, Repr

def Platform.timers (κ : Type) : Platform → TimerClass κ
  | .posix | .windows => desktopTimer κ
  | .zephyr => zephyrTimer κ

/-- The timer objects of a program: how many there are, and the one that is a local static. -/
structure Heap (T : Type) where
  objects : Nat → T
  count : Nat := 0
  timer_instance : Option Nat := none

def Heap.allocate {T : Type} (new : T) (h : Heap T) : Nat × Heap T :=
  (h.count, { h with objects := Function.update h.objects h.count new, count := h.count + 1 })

/-- The desktop factories allocate, the Zephyr one hands out its `static ZephyrTimer`. -/
def create_platform_timer {T : Type} (p : Platform) (new : T) (h : Heap T) : Nat × Heap T :=
  match p with
  | .posix | .windows => h.allocate new
  | .zephyr =>
    match h.timer_instance with
    | some i => (i, h)
    | none => ((h.allocate new).1, { (h.allocate new).2 with timer_instance := some (h.allocate new).1 })

inductive Handle where
  | cmd_timer_ | st_timer
deriving DecidableEq, Repr

/-- The constructors of `ModemController` and `NetworkLte`: where the handles point and the objects. -/
def construct (κ : Type) (p : Platform) : (Handle → Nat) × Heap (p.timers κ).T :=
  let new := (p.timers κ).new
  let first := create_platform_timer p new { objects := fun _ => new }
  let second := create_platform_timer p new first.2
  (fun | .cmd_timer_ => first.1 | .st_timer => second.1, second.2)

/-! ## Independence -/

def timerStep (p : Platform) :
    Handle × TimerOp κ → (Nat → (p.timers κ).T) → TimerResult κ × (Nat → (p.timers κ).T) :=
  call (construct κ p).1 (p.timers κ).step

/-- What a handle shows after `steps`: the results of its own ones, and `is_running`. -/
def shows (p : Platform) (h : Handle) (steps : List (Handle × TimerOp κ)) : List (TimerResult κ) × Bool :=
  (answersTo (·.1 = h) (timerStep p) steps (construct κ p).2.objects,
    (p.timers κ).is_running (final (timerStep p) steps (construct κ p).2.objects ((construct κ p).1 h)))

/-- At every point of a run each handle shows what it would without the steps on the other one. -/
def Independent (p : Platform) (steps : List (Handle × TimerOp κ)) : Prop :=
  ∀ pre, pre <+: steps → ∀ h, shows p h pre = shows p h (pre.filter (·.1 = h))

theorem construct_desktop (p : Platform) (hp : p ≠ .zephyr) : Function.Injective (construct κ p).1 := by
  intro a b h
  cases p <;> cases a <;> cases b <;> simp_all [construct, create_platform_timer, Heap.allocate]

theorem construct_objects (p : Platform) : (construct κ p).2.objects = fun _ => (p.timers κ).new := by
  cases p <;> simp [construct, create_platform_timer, Heap.allocate]

theorem construct_zephyr (h : Handle) : (construct κ .zephyr).1 h = 0 := by
  cases h <;> rfl

theorem zephyr_step_new {op : TimerOp κ} (h : op.isStart = false) :
    ((Platform.zephyr.timers κ).step op (Platform.zephyr.timers κ).new).2 = (Platform.zephyr.timers κ).new := by
  cases op with
  | start => contradiction
  | stop | reset | expire => rfl

theorem timerStep_new {steps : List (Handle × TimerOp κ)} (h : ∀ c ∈ steps, c.2.isStart = false) :
    ∀ c ∈ steps, (timerStep .zephyr c fun _ => (Platform.zephyr.timers κ).new).2 =
      fun _ => (Platform.zephyr.timers κ).new := by
  intro c hc
  simp only [timerStep, call]
  rw [zephyr_step_new (h c hc)]
  exact Function.update_eq_self _ _

theorem shows_zephyr (h : Handle) {steps : List (Handle × TimerOp κ)} (hs : ∀ c ∈ steps, c.2.isStart = false) :
    shows .zephyr h steps =
      ((steps.filter (·.1 = h)).map fun c => (timerStep .zephyr c fun _ => (Platform.zephyr.timers κ).new).1,
        false) := by
  simp only [shows, construct_objects]
  rw [answersTo_of_fixed (timerStep_new hs), final_of_fixed (timerStep_new hs)]
  rfl

theorem shows_zephyr_start (h k : Handle) {pre : List (Handle × TimerOp κ)}
    (hs : ∀ c ∈ pre, c.2.isStart = false) {op : TimerOp κ} (hop : op.isStart = true) :
    (shows .zephyr h (pre ++ [(k, op)])).2 = true := by
  cases op with
  | stop | reset | expire => contradiction
  | start now timeout_ms cb =>
    simp only [shows, construct_objects, final_append]
    rw [final_of_fixed (timerStep_new hs)]
    simp only [final, timerStep, call, construct_zephyr, Function.update_self]
    rfl

theorem independent_desktop {p : Platform} (hp : p ≠ .zephyr) (steps : List (Handle × TimerOp κ)) :
    Independent p steps := by
  intro pre _ h
  have hframe : Framed (·.1 = h) (fun s => s ((construct κ p).1 h)) (timerStep (κ := κ) p) :=
    call_framed (construct_desktop p hp) h
  obtain ⟨hanswers, hview⟩ := hframe.run pre (rfl : (construct κ p).2.objects _ = _)
  simp only [shows]
  rw [hanswers, hview]

theorem independent_idle {steps : List (Handle × TimerOp κ)} (hs : ∀ c ∈ steps, c.2.isStart = false) :
    Independent .zephyr steps := by
  intro pre hpre h
  have hidle : ∀ c ∈ pre, c.2.isStart = false := fun c hc => hs c (hpre.subset hc)
  rw [shows_zephyr h hidle, shows_zephyr h fun c hc => hidle c (List.mem_of_mem_filter hc)]
  simp

theorem not_independent_zephyr {steps : List (Handle × TimerOp κ)} (hs : ∃ c ∈ steps, c.2.isStart = true) :
    ¬ Independent .zephyr steps := by
  intro hind
  obtain ⟨⟨k, op⟩, hfind⟩ := List.find?_isSome.mpr hs |> Option.isSome_iff_exists.mp
  obtain ⟨hop, pre, rest, rfl, hpre⟩ := List.find?_eq_some_iff_append.mp hfind
  obtain ⟨h, hk⟩ : ∃ h : Handle, k ≠ h := by
    cases k with
    | cmd_timer_ => exact ⟨.st_timer, by decide⟩
    | st_timer => exact ⟨.cmd_timer_, by decide⟩
  have hidle : ∀ c ∈ pre, c.2.isStart = false := fun c hc => by simpa using hpre c hc
  have hown : (pre ++ [(k, op)]).filter (·.1 = h) = pre.filter (·.1 = h) := by simp [hk]
  have hboth := congrArg Prod.snd (hind (pre ++ [(k, op)]) ⟨rest, by simp⟩ h)
  rw [shows_zephyr_start h k hidle hop, hown, shows_zephyr h fun c hc => hidle c (List.mem_of_mem_filter hc)] at hboth
  contradiction

theorem timers_independent_iff (p : Platform) (steps : List (Handle × TimerOp κ)) :
    Independent p steps ↔ p ≠ .zephyr ∨ ∀ c ∈ steps, c.2.isStart = false := by
  constructor
  · intro hind
    by_cases hp : p = .zephyr
    · subst hp
      refine .inr fun c hc => ?_
      by_contra hstart
      exact not_independent_zephyr ⟨c, hc, by simpa using hstart⟩ hind
    · exact .inl hp
  · rintro (hp | hs)
    · exact independent_desktop hp steps
    · by_cases hp : p = .zephyr
      · exact hp ▸ independent_idle hs
      · exact independent_desktop hp steps

/-! ## The state timeout during an AT exchange -/

/-- What `ModemController::send_command` does with its timer. -/
def at_exchange (now total_ms : Nat) : List (Handle × TimerOp κ) :=
  [(.cmd_timer_, .stop), (.cmd_timer_, .start now total_ms none)]

/-- What happens when the state timer expires after `steps`. -/
def state_timeout (p : Platform) (steps : List (Handle × TimerOp κ)) : TimerResult κ :=
  (timerStep p (.st_timer, .expire) (final (timerStep p) steps (construct κ p).2.objects)).1

theorem state_timeout_exchange (p : Platform) (steps : List (Handle × TimerOp κ)) (now total_ms : Nat) :
    state_timeout p (steps ++ at_exchange now total_ms) =
      if p = .zephyr then .ran none else state_timeout p steps := by
  simp only [state_timeout, final_append]
  generalize final (timerStep p) steps (construct κ p).2.objects = s
  cases p with
  | posix | windows => rfl
  | zephyr =>
    simp only [at_exchange, final, timerStep, call, construct_zephyr, Function.update_self]
    exact congrArg TimerResult.ran (ZephyrTimer.stop_start_expire now total_ms (s 0))

/-- The state timer is armed, then a command is sent: the callback is gone. -/
theorem zephyr_exchange_disarms :
    ¬ Independent .zephyr ((.st_timer, .start 0 1000 (some ())) :: at_exchange 5 300) ∧
      state_timeout .zephyr ((.st_timer, .start 0 1000 (some ())) :: at_exchange 5 300) = .ran none ∧
      state_timeout .posix ((.st_timer, .start 0 1000 (some ())) :: at_exchange 5 300) = .ran (some ()) :=
  ⟨not_independent_zephyr ⟨_, List.mem_cons_self, rfl⟩, by decide, by decide⟩

end LteModem
