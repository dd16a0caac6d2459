import LteModem.Hal.Timers
import Mathlib.Logic.Relation

/-!
# The thread behind a timer (`hal/posix_timer.cpp`, `hal/win32_timer.cpp`)

`start` makes a thread that waits for the deadline. Each step below is one critical section, of the caller or of one
of the threads, so that they come in any order, and `wait_until` may return at any time. The caller sees the timer of
`Timer.lean`, and the deadline has passed whenever that one expires.
-/

namespace LteModem.TimerThread

variable {κ : Type}

/-! ## The class -/

/-- Where `run` is. -/
inductive Run (κ : Type) where
  /-- In front of the mutex. -/
  | starting
  /-- In `wait_until`, with the deadline that it waits for. -/
  | waiting (snap : Nat) (notified : Bool)
  /-- Past the mutex, in front of the callback. -/
  | expired (cb : Option κ)
  | ended
deriving DecidableEq

def Run.notify : Run κ → Run κ
  | .waiting snap _ => .waiting snap true
  | r => r

inductive CvStatus where
  | no_timeout | timeout
deriving DecidableEq

structure PosixTimer (κ : Type) where
  /-- The thread that can be joined. -/
  thread_ : Option Nat := none
  cb_ : Option κ := none
  running_ : Bool := false
  cancelled_ : Bool := false
  start_ : Option Nat := none
  deadline_ : Nat := 0

inductive Op (κ : Type) where
  | start (timeout_ms : Nat) (cb : Option κ)
  | stop
  | reset (timeout_ms : Nat)
  | is_running
  | elapsed_ms

inductive Answer where
  | error (e : TimerError)
  | flag (b : Bool)
  | ms (n : Nat)
deriving DecidableEq

inductive Event (κ : Type) where
  | called (op : Op κ) (a : Answer)
  | ran (cb : κ)

/-- A timer with its threads, numbered in the order in which they were made. -/
structure Sys (κ : Type) where
  now : Nat := 0
  timer : PosixTimer κ := {}
  threads : List (Run κ) := []
  /-- What `stop` waits for. -/
  joining : Option Nat := none
  /-- `std::terminate` was called. -/
  terminated : Bool := false
  trace : List (Event κ) := []

namespace Sys

variable (s : Sys κ)

def notify_all : Sys κ := { s with threads := s.threads.map Run.notify }

/-- `thread_ = std::thread(&PosixTimer::run, this)`, which must not replace a thread that can be joined. -/
def spawn : Sys κ :=
  { s with
    timer.thread_ := some s.threads.length
    threads := s.threads ++ [.starting]
    terminated := s.terminated || s.timer.thread_.isSome }

def start (timeout_ms : Nat) (cb : Option κ) : TimerError × Sys κ :=
  if s.timer.running_ then (.already_running, s)
  else
    (.ok, { s with timer := { s.timer with
      cb_ := cb
      running_ := true
      cancelled_ := false
      start_ := some s.now
      deadline_ := s.now + timeout_ms } }.spawn)

/-- Up to the `join`. -/
def stop : TimerError × Sys κ :=
  if s.timer.running_ then
    (.ok, { { s with timer := { s.timer with running_ := false, cancelled_ := true } }.notify_all with
      timer.thread_ := none
      joining := s.timer.thread_ })
  else (.not_running, s)

def reset (timeout_ms : Nat) : TimerError × Sys κ :=
  if s.timer.running_ then
    (.ok, { s with timer := { s.timer with start_ := some s.now, deadline_ := s.now + timeout_ms } }.notify_all)
  else if s.timer.cb_.isNone then (.not_running, s)
  else
    (.ok, { s with timer := { s.timer with
      running_ := true
      cancelled_ := false
      start_ := some s.now
      deadline_ := s.now + timeout_ms } }.spawn)

def elapsed_ms : Nat :=
  match s.timer.start_ with
  | none => 0
  | some start => (s.now - start) % 2 ^ 32

/-- The head of the loop of `run`. -/
def loop (i : Nat) : Sys κ :=
  if s.timer.cancelled_ then { s with threads := s.threads.set i .ended }
  else { s with threads := s.threads.set i (.waiting s.timer.deadline_ false) }

/-- `run` from the return of `wait_until` on. Detaching a thread that `thread_` does not hold is an error. -/
def wake (i snap : Nat) (status : CvStatus) : Sys κ :=
  if s.timer.cancelled_ then { s with threads := s.threads.set i .ended }
  else if status = .timeout ∧ s.timer.deadline_ = snap then
    { s with
      timer := { s.timer with running_ := false, thread_ := none }
      threads := s.threads.set i (.expired s.timer.cb_)
      terminated := s.terminated || s.timer.thread_.isNone }
  else s.loop i

def callback (i : Nat) (cb : Option κ) : Sys κ :=
  { s with threads := s.threads.set i .ended, trace := s.trace ++ (cb.map .ran).toList }

end Sys

def Op.locked : Op κ → Sys κ → Answer × Sys κ
  | .start timeout_ms cb, s => (.error (s.start timeout_ms cb).1, (s.start timeout_ms cb).2)
  | .stop, s => (.error s.stop.1, s.stop.2)
  | .reset timeout_ms, s => (.error (s.reset timeout_ms).1, (s.reset timeout_ms).2)
  | .is_running, s => (.flag s.timer.running_, s)
  | .elapsed_ms, s => (.ms s.elapsed_ms, s)

/-! ## Steps -/

/-- What `wait_until` may return by itself. -/
inductive Woken (now snap : Nat) (notified : Bool) : CvStatus → Prop
  | notified (h : notified = true) : Woken now snap notified .no_timeout
  | timeout (h : snap ≤ now) : Woken now snap notified .timeout

/-- The next step of a thread, which nothing else has to come before. -/
inductive Due (i : Nat) : Sys κ → Sys κ → Prop
  | enter {s} (h : s.threads[i]? = some .starting) : Due i s (s.loop i)
  | wake {s snap notified status} (h : s.threads[i]? = some (.waiting snap notified))
      (hw : Woken s.now snap notified status) : Due i s (s.wake i snap status)
  | callback {s cb} (h : s.threads[i]? = some (.expired cb)) : Due i s (s.callback i cb)

inductive Step : Sys κ → Sys κ → Prop
  | time {s} (ms : Nat) : Step s { s with now := s.now + ms }
  | call {s} (op : Op κ) (h : s.joining = none) :
      Step s { (op.locked s).2 with trace := s.trace ++ [.called op (op.locked s).1] }
  | joined {s i} (h : s.joining = some i) (hover : s.threads[i]? = some .ended) : Step s { s with joining := none }
  | thread {s s'} (i : Nat) (h : Due i s s') : Step s s'
  | spurious {s snap notified} (i : Nat) (h : s.threads[i]? = some (.waiting snap notified)) :
      Step s (s.wake i snap .no_timeout)

def Reachable (s : Sys κ) : Prop := Relation.ReflTransGen Step {} s

/-! ## What the caller sees -/

def Op.exec (now : Nat) : Op κ → Timer κ → Answer × Timer κ
  | .start timeout_ms cb, t => (.error (t.start_with now timeout_ms cb).1, (t.start_with now timeout_ms cb).2)
  | .stop, t => (.error t.stop.1, t.stop.2)
  | .reset timeout_ms, t => (.error (t.reset now timeout_ms).1, (t.reset now timeout_ms).2)
  | .is_running, t => (.flag t.running, t)
  | .elapsed_ms, t => (.ms (t.elapsed_ms now), t)

/-- The calls and callbacks are those of a `Timer` that expires at its deadline or later. `out` are the callbacks that
are still to run. -/
inductive Explains : List (Event κ) → Nat → Timer κ → List κ → Prop
  | new : Explains [] 0 {} []
  | time {l now t out} (ms : Nat) : Explains l now t out → Explains l (now + ms) t out
  | call {l now t out} (op : Op κ) : Explains l now t out →
      Explains (l ++ [.called op (op.exec now t).1]) now (op.exec now t).2 out
  | expire {l now t out} (hrun : t.running = true) (hdue : t.start_.getD 0 + t.timeout_ms ≤ now) :
      Explains l now t out → Explains l now t.expire.2 (out ++ t.expire.1.toList)
  | ran {l now t out} (i : Nat) (c : κ) (h : out[i]? = some c) : Explains l now t out →
      Explains (l ++ [.ran c]) now t (out.eraseIdx i)

/-! ## The invariant -/

/-- Past the mutex for good. -/
def Run.gone : Run κ → Bool
  | .expired _ | .ended => true
  | _ => false

def Run.pending : Run κ → Option κ
  | .expired cb => cb
  | _ => none

/-- The thread will see the deadline `d`. -/
def Run.Awaits (d : Nat) : Run κ → Prop
  | .starting => True
  | .waiting snap notified => snap = d ∨ notified = true
  | _ => False

/-- The thread will see that it is cancelled. -/
def Run.Leaves : Run κ → Prop
  | .starting | .ended => True
  | .waiting _ notified => notified = true
  | .expired _ => False

namespace Sys

def view (s : Sys κ) : Timer κ where
  running := s.timer.running_
  cb := s.timer.cb_
  timeout_ms := s.timer.deadline_ - s.timer.start_.getD 0
  start_ := s.timer.start_

def pending (s : Sys κ) : List κ := s.threads.filterMap Run.pending

end Sys

/-- All threads but the newest one are past the mutex. -/
structure Newest (threads before : List (Run κ)) (r : Run κ) : Prop where
  eq : threads = before ++ [r]
  gone : ∀ r ∈ before, r.gone = true

/-- The flags, the handle and the threads go together. -/
inductive Phase (t : PosixTimer κ) (threads : List (Run κ)) : Option Nat → Prop
  | idle (hrun : t.running_ = false) (hthread : t.thread_ = none) (hgone : ∀ r ∈ threads, r.gone = true) :
      Phase t threads none
  | running {before r} (hrun : t.running_ = true) (hcancel : t.cancelled_ = false)
      (hthread : t.thread_ = some before.length) (hnew : Newest threads before r) (hr : r.Awaits t.deadline_) :
      Phase t threads none
  | joining {before r} (hrun : t.running_ = false) (hcancel : t.cancelled_ = true) (hthread : t.thread_ = none)
      (hnew : Newest threads before r) (hr : r.Leaves) : Phase t threads (some before.length)

structure Inv (s : Sys κ) : Prop where
  alive : s.terminated = false
  deadline : s.timer.start_.getD 0 ≤ s.timer.deadline_
  phase : Phase s.timer s.threads s.joining
  explained : Explains s.trace s.now s.view s.pending

/-! ## The calls -/

@[simp] theorem Run.notify_pending (r : Run κ) : r.notify.pending = r.pending := by
  cases r <;> rfl

theorem locked_exec (op : Op κ) (s : Sys κ) :
    (op.locked s).1 = (op.exec s.now s.view).1 ∧ (op.locked s).2.view = (op.exec s.now s.view).2 ∧
      (op.locked s).2.now = s.now ∧ (op.locked s).2.pending = s.pending := by
  cases op with
  | start timeout_ms cb =>
    unfold Op.locked Op.exec Sys.start Timer.start_with
    cases hrun : s.timer.running_ <;> simp [Sys.view, hrun, Sys.spawn, Sys.pending, Run.pending]
  | stop =>
    unfold Op.locked Op.exec Sys.stop Timer.stop
    cases hrun : s.timer.running_
    · simp [Sys.view, hrun]
    · simp [Sys.view, hrun, Sys.notify_all, Sys.pending]
  | reset timeout_ms =>
    unfold Op.locked Op.exec Sys.reset Timer.reset
    cases hrun : s.timer.running_
    · cases hcb : s.timer.cb_ <;> simp [Sys.view, hrun, hcb, Sys.spawn, Sys.pending, Run.pending]
    · simp [Sys.view, hrun, Sys.notify_all, Sys.pending]
  | is_running | elapsed_ms => exact ⟨rfl, rfl, rfl, rfl⟩

theorem Run.notify_gone {r : Run κ} (h : r.gone = true) : r.notify = r := by
  cases r <;> first | rfl | cases h

theorem Run.notify_awaits {d e : Nat} {r : Run κ} (h : r.Awaits d) : r.notify.Awaits e := by
  cases r <;> first | exact h | exact .inr rfl

theorem Run.notify_leaves {d : Nat} {r : Run κ} (h : r.Awaits d) : r.notify.Leaves := by
  cases r <;> first | exact h | exact rfl | exact h.elim

variable {s : Sys κ} {before : List (Run κ)} {r : Run κ}

theorem Newest.notify {threads : List (Run κ)} (h : Newest threads before r) :
    Newest (threads.map Run.notify) before r.notify where
  eq := by
    have hsame : before.map Run.notify = before :=
      (List.map_congr_left fun r hr => Run.notify_gone (h.gone r hr)).trans (List.map_id _)
    rw [h.eq, List.map_append, hsame]
    rfl
  gone := h.gone

theorem spawn_phase {t : PosixTimer κ} (hrun : t.running_ = true) (hcancel : t.cancelled_ = false)
    (hjoin : s.joining = none) (hgone : ∀ r ∈ s.threads, r.gone = true) :
    Phase { s with timer := t }.spawn.timer { s with timer := t }.spawn.threads s.joining := by
  rw [hjoin]
  exact .running hrun hcancel rfl ⟨rfl, hgone⟩ trivial

theorem Inv.call (op : Op κ) (h : Inv s) (hjoin : s.joining = none) :
    Inv { (op.locked s).2 with trace := s.trace ++ [.called op (op.locked s).1] } := by
  obtain ⟨ha, hv, hn, hp⟩ := locked_exec op s
  have hexplained : Explains (s.trace ++ [.called op (op.locked s).1]) (op.locked s).2.now (op.locked s).2.view
      (op.locked s).2.pending := by
    rw [ha, hv, hn, hp]
    exact .call op h.explained
  suffices hs : (op.locked s).2.terminated = false ∧
      (op.locked s).2.timer.start_.getD 0 ≤ (op.locked s).2.timer.deadline_ ∧
      Phase (op.locked s).2.timer (op.locked s).2.threads (op.locked s).2.joining by
    exact ⟨hs.1, hs.2.1, hs.2.2, hexplained⟩
  have hsame : s.terminated = false ∧ s.timer.start_.getD 0 ≤ s.timer.deadline_ ∧
      Phase s.timer s.threads s.joining := ⟨h.alive, h.deadline, h.phase⟩
  have hphase := h.phase
  rw [hjoin] at hphase
  cases hphase with
  | idle hrun hthread hgone =>
    have halive : (s.terminated || s.timer.thread_.isSome) = false := by rw [h.alive, hthread]; rfl
    cases op with
    | start timeout_ms cb =>
      simp only [Op.locked, Sys.start, hrun, Bool.false_eq_true, if_false]
      exact ⟨halive, Nat.le_add_right _ _, spawn_phase rfl rfl hjoin hgone⟩
    | stop => simpa only [Op.locked, Sys.stop, hrun, Bool.false_eq_true, if_false] using hsame
    | reset timeout_ms =>
      simp only [Op.locked, Sys.reset, hrun, Bool.false_eq_true, if_false]
      split
      · exact hsame
      · exact ⟨halive, Nat.le_add_right _ _, spawn_phase rfl rfl hjoin hgone⟩
    | is_running | elapsed_ms => exact hsame
  | running hrun hcancel hthread hnew hr =>
    cases op with
    | start timeout_ms cb => simpa only [Op.locked, Sys.start, hrun, if_true] using hsame
    | stop =>
      simp only [Op.locked, Sys.stop, hrun, if_true, hthread]
      exact ⟨h.alive, h.deadline, .joining rfl rfl rfl hnew.notify (Run.notify_leaves hr)⟩
    | reset timeout_ms =>
      simp only [Op.locked, Sys.reset, hrun, if_true]
      refine ⟨h.alive, Nat.le_add_right _ _, ?_⟩
      change Phase _ _ s.joining
      rw [hjoin]
      exact .running rfl hcancel hthread hnew.notify (Run.notify_awaits hr)
    | is_running | elapsed_ms => exact hsame

/-! ## The threads -/

theorem Newest.last {threads : List (Run κ)} (h : Newest threads before r) {i : Nat} {x : Run κ}
    (hi : threads[i]? = some x) (hx : x.gone = false) : i = before.length ∧ x = r := by
  rw [h.eq, List.getElem?_append] at hi
  split at hi
  · have := h.gone x (List.mem_of_getElem? hi)
    rw [hx] at this
    cases this
  · obtain ⟨hlt, hget⟩ := List.getElem?_eq_some_iff.mp hi
    have hzero : i - before.length = 0 := Nat.lt_one_iff.mp hlt
    refine ⟨by omega, ?_⟩
    simpa only [hzero, List.getElem_cons_zero] using hget.symm

theorem Newest.set {threads : List (Run κ)} (h : Newest threads before r) (x : Run κ) :
    Newest (threads.set before.length x) before x :=
  ⟨by rw [h.eq]; simp, h.gone⟩

theorem Newest.pending {threads : List (Run κ)} (h : Newest threads before r) :
    threads.filterMap Run.pending = before.filterMap Run.pending ++ r.pending.toList := by
  rw [h.eq, List.filterMap_append]
  cases hr : r.pending <;> simp [hr]

theorem pending_of_waiting {x : Run κ} (h : x.gone = false) : x.pending = none := by
  cases x <;> first | rfl | cases h

theorem Inv.loop (h : Inv s) {i : Nat} {x : Run κ} (hi : s.threads[i]? = some x) (hx : x.gone = false) :
    Inv (s.loop i) := by
  obtain ⟨halive, hdeadline, hphase, hexplained⟩ := h
  have hnone := pending_of_waiting hx
  unfold Sys.loop
  generalize s.joining = joining at hphase ⊢
  cases hphase with
  | idle _ _ hgone =>
    rw [hgone x (List.mem_of_getElem? hi)] at hx
    cases hx
  | running hrun hcancel hthread hnew hr =>
    obtain ⟨rfl, rfl⟩ := hnew.last hi hx
    have hset := hnew.set (.waiting s.timer.deadline_ false)
    rw [if_neg (by simp [hcancel])]
    refine ⟨halive, hdeadline, .running hrun hcancel hthread hset (.inl rfl), ?_⟩
    rw [Sys.pending, hnew.pending, hnone] at hexplained
    rw [Sys.pending, hset.pending]
    exact hexplained
  | joining hrun hcancel hthread hnew hr =>
    obtain ⟨rfl, rfl⟩ := hnew.last hi hx
    have hset := hnew.set .ended
    rw [if_pos hcancel]
    refine ⟨halive, hdeadline, .joining hrun hcancel hthread hset trivial, ?_⟩
    rw [Sys.pending, hnew.pending, hnone] at hexplained
    rw [Sys.pending, hset.pending]
    exact hexplained

theorem wake_eq_loop {i snap : Nat} {status : CvStatus}
    (h : s.timer.cancelled_ = true ∨ ¬ (status = .timeout ∧ s.timer.deadline_ = snap)) :
    s.wake i snap status = s.loop i := by
  unfold Sys.wake
  by_cases hcancel : s.timer.cancelled_ = true
  · rw [if_pos hcancel, Sys.loop, if_pos hcancel]
  · rw [if_neg hcancel, if_neg (h.resolve_left hcancel)]

theorem Inv.wake (h : Inv s) {i snap : Nat} {notified : Bool} {status : CvStatus}
    (hi : s.threads[i]? = some (.waiting snap notified)) (hw : status = .timeout → snap ≤ s.now) :
    Inv (s.wake i snap status) := by
  by_cases hloop : s.timer.cancelled_ = true ∨ ¬ (status = .timeout ∧ s.timer.deadline_ = snap)
  · rw [wake_eq_loop hloop]
    exact h.loop hi rfl
  simp only [not_or, not_not] at hloop
  obtain ⟨hcancel, hstatus, hsnap⟩ := hloop
  obtain ⟨halive, hdeadline, hphase, hexplained⟩ := h
  unfold Sys.wake
  generalize s.joining = joining at hphase ⊢
  cases hphase with
  | idle _ _ hgone => cases hgone _ (List.mem_of_getElem? hi)
  | joining _ hc => exact absurd hc hcancel
  | running hrun _ hthread hnew hr =>
    obtain ⟨rfl, rfl⟩ := hnew.last hi rfl
    have hset := hnew.set (.expired s.timer.cb_)
    rw [if_neg hcancel, if_pos ⟨hstatus, hsnap⟩]
    refine ⟨by simp [halive, hthread], hdeadline, ?_, ?_⟩
    · refine .idle rfl rfl fun r hr => ?_
      rw [hset.eq, List.mem_append, List.mem_singleton] at hr
      rcases hr with hr | rfl
      · exact hset.gone r hr
      · rfl
    · have hnow := hw hstatus
      have hdue : s.view.start_.getD 0 + s.view.timeout_ms ≤ s.now := by
        change s.timer.start_.getD 0 + (s.timer.deadline_ - s.timer.start_.getD 0) ≤ s.now
        omega
      have hexpired := Explains.expire (show s.view.running = true from hrun) hdue hexplained
      have hview : s.view.expire = (s.timer.cb_, { s.view with running := false }) := by
        rw [Timer.expire, if_pos (show s.view.running = true from hrun)]
        rfl
      have hpending : s.pending = _ := hnew.pending
      rw [hview, hpending, pending_of_waiting rfl, Option.toList_none, List.append_nil] at hexpired
      rw [Sys.pending, hset.pending]
      exact hexpired

theorem pending_set_none {threads : List (Run κ)} {i : Nat} (h : threads[i]? = some (.expired none)) :
    (threads.set i .ended).filterMap Run.pending = threads.filterMap Run.pending := by
  induction threads generalizing i with
  | nil => cases h
  | cons r threads ih =>
    cases i with
    | zero =>
      obtain rfl : r = .expired none := Option.some.inj h
      rfl
    | succ i => rw [List.set_cons_succ, List.filterMap_cons, List.filterMap_cons, ih h]

theorem pending_set_some {threads : List (Run κ)} {i : Nat} {c : κ} (h : threads[i]? = some (.expired (some c))) :
    ∃ k, (threads.filterMap Run.pending)[k]? = some c ∧
      (threads.set i .ended).filterMap Run.pending = (threads.filterMap Run.pending).eraseIdx k := by
  induction threads generalizing i with
  | nil => cases h
  | cons r threads ih =>
    cases i with
    | zero =>
      obtain rfl : r = .expired (some c) := Option.some.inj h
      exact ⟨0, rfl, rfl⟩
    | succ i =>
      obtain ⟨k, hk, hset⟩ := ih h
      rw [List.set_cons_succ]
      cases hr : r.pending with
      | none => exact ⟨k, by simpa [hr] using hk, by simpa [hr] using hset⟩
      | some d => exact ⟨k + 1, by simpa [hr] using hk, by simpa [hr] using hset⟩

theorem Inv.callback (h : Inv s) {i : Nat} {cb : Option κ} (hi : s.threads[i]? = some (.expired cb)) :
    Inv (s.callback i cb) := by
  obtain ⟨halive, hdeadline, hphase, hexplained⟩ := h
  refine ⟨halive, hdeadline, ?_, ?_⟩
  · have hgone_set {l : List (Run κ)} (hl : ∀ r ∈ l, r.gone = true) : ∀ r ∈ l.set i .ended, r.gone = true := by
      intro r hr
      rcases List.mem_or_eq_of_mem_set hr with hr | rfl
      · exact hl r hr
      · rfl
    have hnewest {before : List (Run κ)} {r : Run κ} (hnew : Newest s.threads before r) (hr : r ≠ .expired cb) :
        Newest (s.threads.set i .ended) (before.set i .ended) r := by
      refine ⟨?_, hgone_set hnew.gone⟩
      have hlt : i < before.length := by
        by_contra hle
        rw [hnew.eq, List.getElem?_append_right (Nat.le_of_not_lt hle)] at hi
        obtain ⟨_, hget⟩ := List.getElem?_eq_some_iff.mp hi
        exact hr (by simpa using hget)
      rw [hnew.eq, List.set_append_left _ _ hlt]
    change Phase s.timer (s.threads.set i .ended) s.joining
    generalize s.joining = joining at hphase
    cases hphase with
    | idle hrun hthread hgone => exact .idle hrun hthread (hgone_set hgone)
    | @running before r hrun hcancel hthread hnew hr =>
      have hlen : (before.set i .ended).length = before.length := List.length_set
      refine .running hrun hcancel (hlen ▸ hthread) (hnewest hnew ?_) hr
      rintro rfl
      exact hr
    | @joining before r hrun hcancel hthread hnew hr =>
      have hlen : (before.set i .ended).length = before.length := List.length_set
      rw [← hlen]
      refine .joining hrun hcancel hthread (hnewest hnew ?_) hr
      rintro rfl
      exact hr
  · cases cb with
    | none =>
      change Explains (s.trace ++ []) s.now s.view _
      rw [List.append_nil, Sys.pending, Sys.callback, pending_set_none hi]
      exact hexplained
    | some c =>
      obtain ⟨k, hk, hset⟩ := pending_set_some hi
      change Explains (s.trace ++ [.ran c]) s.now s.view ((s.threads.set i .ended).filterMap Run.pending)
      rw [hset]
      exact .ran k c hk hexplained

theorem Inv.step {s' : Sys κ} (h : Inv s) (hstep : Step s s') : Inv s' := by
  cases hstep with
  | time ms => exact ⟨h.alive, h.deadline, h.phase, .time ms h.explained⟩
  | call op hjoin => exact h.call op hjoin
  | @joined i hjoin hover =>
    obtain ⟨halive, hdeadline, hphase, hexplained⟩ := h
    refine ⟨halive, hdeadline, ?_, hexplained⟩
    rw [hjoin] at hphase
    generalize hi : some i = joining at hphase
    cases hphase with
    | idle | running => cases hi
    | joining hrun _ hthread hnew _ =>
      cases hi
      refine .idle hrun hthread fun r hr => ?_
      rw [hnew.eq, List.mem_append, List.mem_singleton] at hr
      rcases hr with hr | rfl
      · exact hnew.gone r hr
      · rw [hnew.eq, List.getElem?_concat_length] at hover
        cases hover
        rfl
  | thread i hdue =>
    cases hdue with
    | enter hi => exact h.loop hi rfl
    | wake hi hw =>
      refine h.wake hi fun hs => ?_
      subst hs
      cases hw with
      | timeout hle => exact hle
    | callback hi => exact h.callback hi
  | spurious i hi => exact h.wake hi (by rintro ⟨⟩)

theorem Reachable.inv (h : Reachable s) : Inv s := by
  induction h with
  | refl => exact ⟨rfl, Nat.le_refl _, .idle rfl rfl (by simp), .new⟩
  | tail _ hstep ih => exact ih.step hstep

/-! ## Calls and callbacks -/

/-- However the threads and the caller interleave, and whenever `wait_until` returns, the caller gets the answers of
the timer, each callback is one whose deadline has passed, and the handle is never misused. -/
theorem calls_refine_timer (h : Reachable s) : s.terminated = false ∧ Explains s.trace s.now s.view s.pending :=
  ⟨h.inv.alive, h.inv.explained⟩

/-- The callback of the first start runs after the second start, and the second deadline is there. -/
def restarted : Sys Char where
  now := 12
  timer := { thread_ := some 1, cb_ := some 'b', running_ := true, start_ := some 5, deadline_ := 12 }
  threads := [.ended, .starting]
  trace := [.called (.start 5 (some 'a')) (.error .ok), .called (.start 7 (some 'b')) (.error .ok), .ran 'a']

theorem restarted_reachable : Reachable restarted := by
  have hstarted : Reachable _ := .single (.call (.start 5 (some 'a')) rfl)
  have hwaiting := (hstarted.tail (.thread 0 (.enter rfl))).tail (.time 5)
  have hexpired := hwaiting.tail (.thread 0 (.wake rfl (.timeout (Nat.le_refl 5))))
  have hagain := hexpired.tail (.call (.start 7 (some 'b')) rfl)
  exact (hagain.tail (.thread 0 (@Due.callback _ 0 _ (some 'a') rfl))).tail (.time 7)

theorem calls_refine_timer_restarted :
    restarted.terminated = false ∧ Explains restarted.trace restarted.now restarted.view restarted.pending :=
  calls_refine_timer restarted_reachable

/-! ## Progress -/

/-- Once the deadline is there, the thread gets there by itself, however often it was moved. -/
theorem Inv.deadline_met (h : Inv s) (hrun : s.timer.running_ = true) (hdue : s.timer.deadline_ ≤ s.now) :
    ∃ i s', Relation.ReflTransGen (Due i) s s' ∧ s'.timer.running_ = false ∧
      s'.threads[i]? = some (.expired s.timer.cb_) := by
  have hphase := h.phase
  generalize s.joining = joining at hphase
  cases hphase with
  | idle hr | joining hr => rw [hrun] at hr; cases hr
  | @running before r _ hcancel _ hnew hr =>
    have hlast {u : Sys κ} {x : Run κ} (hu : Newest u.threads before x) : u.threads[before.length]? = some x := by
      rw [hu.eq, List.getElem?_concat_length]
    have hexpire {u : Sys κ} {notified : Bool} (hu : Newest u.threads before (.waiting u.timer.deadline_ notified))
        (hc : u.timer.cancelled_ = false) (hn : u.timer.deadline_ ≤ u.now) :
        ∃ s', Due before.length u s' ∧ s'.timer.running_ = false ∧
          s'.threads[before.length]? = some (.expired u.timer.cb_) := by
      refine ⟨_, .wake (hlast hu) (.timeout hn), ?_⟩
      unfold Sys.wake
      rw [if_neg (by simp [hc]), if_pos ⟨rfl, rfl⟩]
      exact ⟨rfl, hlast (u := { u with threads := _ }) (hu.set _)⟩
    have hloop : (s.loop before.length) =
        { s with threads := s.threads.set before.length (.waiting s.timer.deadline_ false) } := by
      rw [Sys.loop, if_neg (by simp [hcancel])]
    have hlooped : ∃ s', Due before.length (s.loop before.length) s' ∧ s'.timer.running_ = false ∧
        s'.threads[before.length]? = some (.expired s.timer.cb_) := by
      rw [hloop]
      exact hexpire (u := { s with threads := _ }) (hnew.set _) hcancel hdue
    cases r with
    | starting =>
      obtain ⟨s', hs', hend⟩ := hlooped
      exact ⟨_, s', .tail (.single (.enter (hlast hnew))) hs', hend⟩
    | waiting snap notified =>
      rcases hr with rfl | rfl
      · obtain ⟨s', hs', hend⟩ := hexpire hnew hcancel hdue
        exact ⟨_, s', .single hs', hend⟩
      · -- A notification that comes with a new deadline.
        obtain ⟨s', hs', hend⟩ := hlooped
        have hwake : s.wake before.length snap .no_timeout = s.loop before.length :=
          wake_eq_loop (.inr (by rintro ⟨⟨⟩, -⟩))
        rw [← hwake] at hs'
        exact ⟨_, s', .tail (.single (.wake (hlast hnew) (.notified rfl))) hs', hend⟩
    | expired | ended => exact hr.elim

theorem Inv.stop_returns (h : Inv s) {i : Nat} (hjoin : s.joining = some i) :
    s.threads[i]? = some .ended ∨
      (∃ s', Due i s s') ∧ ∀ s', Due i s s' → s'.joining = some i ∧ s'.threads[i]? = some .ended := by
  have hphase := h.phase
  rw [hjoin] at hphase
  generalize hi : some i = joining at hphase
  cases hphase with
  | idle | running => cases hi
  | @joining before r _ hcancel _ hnew hr =>
    cases hi
    have hlast : s.threads[before.length]? = some r := by rw [hnew.eq, List.getElem?_concat_length]
    have hover : ({ s with threads := s.threads.set before.length .ended } : Sys κ).joining = some before.length ∧
        (s.threads.set before.length .ended)[before.length]? = some .ended :=
      ⟨hjoin, by rw [(hnew.set .ended).eq, List.getElem?_concat_length]⟩
    have hloop : s.loop before.length = { s with threads := s.threads.set before.length .ended } := by
      rw [Sys.loop, if_pos hcancel]
    cases r with
    | ended => exact .inl hlast
    | expired => exact hr.elim
    | starting =>
      refine .inr ⟨⟨_, .enter hlast⟩, fun s' hs' => ?_⟩
      cases hs' with
      | enter => rw [hloop]; exact hover
      | wake hi => cases hlast.symm.trans hi
      | callback hi => cases hlast.symm.trans hi
    | waiting snap notified =>
      refine .inr ⟨⟨_, .wake hlast (.notified hr)⟩, fun s' hs' => ?_⟩
      cases hs' with
      | enter hi => cases hlast.symm.trans hi
      | wake => rw [wake_eq_loop (.inl hcancel), hloop]; exact hover
      | callback hi => cases hlast.symm.trans hi

/-- No notification is lost: at its deadline a timer expires, and a `stop` ends, by steps of the thread alone. -/
theorem threads_progress (h : Reachable s) :
    (s.timer.running_ = true → s.timer.deadline_ ≤ s.now → ∃ i s', Relation.ReflTransGen (Due i) s s' ∧
      s'.timer.running_ = false ∧ s'.threads[i]? = some (.expired s.timer.cb_)) ∧
    ∀ i, s.joining = some i → s.threads[i]? = some .ended ∨
      (∃ s', Due i s s') ∧ ∀ s', Due i s s' → s'.joining = some i ∧ s'.threads[i]? = some .ended :=
  ⟨h.inv.deadline_met, fun _ => h.inv.stop_returns⟩

theorem threads_progress_restarted :
    (restarted.timer.running_ = true → restarted.timer.deadline_ ≤ restarted.now → ∃ i s',
      Relation.ReflTransGen (Due i) restarted s' ∧ s'.timer.running_ = false ∧
        s'.threads[i]? = some (.expired restarted.timer.cb_)) ∧
    ∀ i, restarted.joining = some i → restarted.threads[i]? = some .ended ∨
      (∃ s', Due i restarted s') ∧ ∀ s', Due i restarted s' → s'.joining = some i ∧ s'.threads[i]? = some .ended :=
  threads_progress restarted_reachable

end LteModem.TimerThread
