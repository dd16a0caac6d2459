import LteModem.Lib.Latest
import LteModem.Lib.Ring
import LteModem.NetworkLte.Api

/-!
# The trace ring (`network_lte.cpp`, `hal/trace_mutex.h`)

`push_trace` and `pop_trace` hold the mutex from their first to their last step, so that the threads take turns.
-/

open Machine Ring Latest

namespace LteModem.NetworkLte.Trace

/-- The cells of the array beside the two counters. -/
structure TraceRing where
  trace_buffer_ : Nat → NetworkTraceEntry := fun _ => {}
  trace_head_ : Nat := 0
  trace_count_ : Nat := 0

namespace TraceRing

variable (r : TraceRing)

def push_trace (entry : NetworkTraceEntry) : TraceRing :=
  if r.trace_count_ < TRACE_CAPACITY then
    let write_index := (r.trace_head_ + r.trace_count_) % TRACE_CAPACITY
    { r with
      trace_count_ := r.trace_count_ + 1
      trace_buffer_ := Function.update r.trace_buffer_ write_index entry }
  else
    let write_index := r.trace_head_
    { r with
      trace_head_ := (r.trace_head_ + 1) % TRACE_CAPACITY
      trace_buffer_ := Function.update r.trace_buffer_ write_index entry }

/-- With a timeout of 0: `wait_for_data` asks for the count, and does not wait. -/
def pop_trace : Option NetworkTraceEntry × TraceRing :=
  if 0 < r.trace_count_ then
    (some (r.trace_buffer_ r.trace_head_),
      { r with
        trace_head_ := (r.trace_head_ + 1) % TRACE_CAPACITY
        trace_count_ := r.trace_count_ - 1 })
  else (none, r)

/-- The entries between the head and the place for the next one. -/
def entries : List NetworkTraceEntry := window TRACE_CAPACITY r.trace_buffer_ r.trace_head_ r.trace_count_

def step : Op NetworkTraceEntry → TraceRing → Option NetworkTraceEntry × TraceRing
  | .push entry, r => (none, r.push_trace entry)
  | .pop, r => r.pop_trace

end TraceRing

/-! ## The ring as a list -/

/-- The ring holds `l`, in bounds. -/
structure Holds (r : TraceRing) (l : List NetworkTraceEntry) : Prop where
  head : r.trace_head_ < TRACE_CAPACITY
  count : r.trace_count_ ≤ TRACE_CAPACITY
  entries : r.entries = l

theorem Holds.length {r : TraceRing} {l : List NetworkTraceEntry} (h : Holds r l) : l.length = r.trace_count_ := by
  rw [← h.entries, TraceRing.entries, length_window]

theorem Holds.push {r : TraceRing} {l : List NetworkTraceEntry} (h : Holds r l) (entry : NetworkTraceEntry) :
    Holds (r.push_trace entry) (Latest.step TRACE_CAPACITY (.push entry) l).2 := by
  have hlen := h.length
  have hcount := h.count
  simp only [TraceRing.push_trace, Latest.step, hlen]
  split_ifs with hroom
  · refine ⟨h.head, hroom, ?_⟩
    rw [← h.entries]
    exact window_push _ entry hroom
  · have hfull : r.trace_count_ = TRACE_CAPACITY := by omega
    refine ⟨Nat.mod_lt _ (by decide), hcount, ?_⟩
    rw [← h.entries]
    simp only [TraceRing.entries, hfull]
    exact window_overwrite _ entry h.head

theorem Holds.pop {r : TraceRing} {l : List NetworkTraceEntry} (h : Holds r l) :
    r.pop_trace.1 = l.head? ∧ Holds r.pop_trace.2 l.tail := by
  have hlen := h.length
  have hcount := h.count
  have hw := h.entries
  unfold TraceRing.pop_trace
  split_ifs with hsome
  · obtain ⟨count, hc⟩ : ∃ count, r.trace_count_ = count + 1 := ⟨r.trace_count_ - 1, by omega⟩
    rw [TraceRing.entries, hc, window_pop _ count h.head] at hw
    rw [← hw]
    refine ⟨rfl, Nat.mod_lt _ (by decide), ?_, ?_⟩
    · show r.trace_count_ - 1 ≤ TRACE_CAPACITY
      omega
    · simp only [TraceRing.entries, hc, Nat.add_sub_cancel, List.tail_cons]
  · have hnil : l = [] := List.eq_nil_of_length_eq_zero (by omega)
    subst hnil
    exact ⟨rfl, h⟩

theorem ring_simulates : Simulates TraceRing.step (Latest.step TRACE_CAPACITY) (fun _ _ => True) Holds := by
  rintro (entry | _) r l - h
  · exact ⟨rfl, h.push entry⟩
  · exact h.pop

theorem net_pushes (d : NetData) (entry : NetworkTraceEntry) :
    (d.push_trace entry).trace_buffer_ = (Latest.step TRACE_CAPACITY (.push entry) d.trace_buffer_).2 := rfl

theorem net_pops (w : World) :
    pop_trace w = (some (Latest.step TRACE_CAPACITY .pop w.net.data.trace_buffer_).1,
      { w with net := { w.net with data := { w.net.data with
        trace_buffer_ := (Latest.step TRACE_CAPACITY .pop w.net.data.trace_buffer_).2 } } }) := rfl

/-! ## The latest entries -/

/-- What the calls of `pop_trace` returned. -/
def popped (calls : List (Op NetworkTraceEntry)) : List NetworkTraceEntry :=
  (answers TraceRing.step calls {}).filterMap id

/-- After any calls: the entries that were returned are pushes in their order, at increasing positions, and the
ring keeps the latest of those behind the last one returned, for the next `pop_trace` to return the first. -/
theorem trace_keeps_latest (calls : List (Op NetworkTraceEntry)) :
    ∃ taken : List Nat,
      let r := final TraceRing.step calls {}
      let since := (pushed calls).length - past taken
      r.trace_count_ ≤ TRACE_CAPACITY ∧ r.trace_head_ < TRACE_CAPACITY ∧
        taken.Pairwise (· < ·) ∧ (∀ i ∈ taken, i < (pushed calls).length) ∧
        (popped calls).map some = taken.map (fun i => (pushed calls)[i]?) ∧
        r.trace_count_ = min TRACE_CAPACITY since ∧
        r.entries = (pushed calls).rtake (min TRACE_CAPACITY since) ∧
        r.pop_trace.1 = r.entries.head? := by
  have hnew : Holds {} [] := ⟨by decide, by decide, rfl⟩
  have hok : Along (fun _ _ => True) TraceRing.step calls {} := Along.of_forall (fun _ _ => trivial) _
  obtain ⟨ha, hr⟩ := ring_simulates.run hok hnew
  obtain ⟨taken, hk, ht⟩ := Latest.run (n := TRACE_CAPACITY) (by decide) calls
  have hl := hr.length
  rw [hk.length] at hl
  refine ⟨taken, hr.count, hr.head, hk.ordered, fun _ => hk.lt, ?_, hl.symm, ?_, ?_⟩
  · rw [popped, ha, ht]
  · rw [hr.entries, ← hk.latest]
  · rw [hr.entries]
    exact hr.pop.1

end LteModem.NetworkLte.Trace
