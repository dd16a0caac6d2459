import LteModem.Lib.Keyed
import LteModem.Lib.Machine
import LteModem.MessageQueue

/-!
# The socket message queue is one bounded FIFO (`hal/posix_message_queue.cpp`)

The class keeps five queues and a separate order. `Fifos` is what it is for: one list for each
direction.
-/

open Strings Machine Keyed

namespace LteModem

/-! ## The interface -/

/-- The calls of `MessageQueueInterface`. The timeouts are 0. -/
inductive QueueOp where
  | tx_push (conn_id : Nat) (data : Str)
  | tx_pop (conn_id : Nat)
  | tx_pop_next
  | tx_count (conn_id : Nat)
  | rx_push (conn_id : Nat) (data : Str)
  | rx_pop (conn_id : Nat)
  | rx_count (conn_id : Nat)

namespace QueueOp

def isTx : QueueOp → Bool
  | .tx_push .. | .tx_pop _ | .tx_pop_next | .tx_count _ => true
  | .rx_push .. | .rx_pop _ | .rx_count _ => false

/-- A payload is at most `MAX_MSG_DATA` bytes long. -/
def Fits : QueueOp → Prop
  | .tx_push _ data | .rx_push _ data => data.length ≤ MAX_MSG_DATA
  | _ => True

end QueueOp

inductive QueueAnswer where
  | pushed (err : QueueError)
  | popped (out : QueueError × Option QueueMessage)
  | counted (n : Nat)
deriving DecidableEq

/-- `capacity_` of a queue made with the argument `capacity`. -/
def queueCapacity (capacity : Nat) : Nat := if capacity = 0 then DEFAULT_CAPACITY else capacity

def PosixMessageQueue (capacity : Nat) : QueueOp → MessageQueue → QueueAnswer × MessageQueue
  | .tx_push conn_id data, q =>
    let out := q.tx.push_to (queueCapacity capacity) conn_id data
    (.pushed out.1, { q with tx := out.2 })
  | .tx_pop conn_id, q => (.popped (q.tx.pop_from conn_id).1, { q with tx := (q.tx.pop_from conn_id).2 })
  | .tx_pop_next, q => (.popped q.tx.pop_next_from.1, { q with tx := q.tx.pop_next_from.2 })
  | .tx_count conn_id, q => (.counted (q.tx.count conn_id), q)
  | .rx_push conn_id data, q =>
    let out := q.rx.push_to (queueCapacity capacity) conn_id data
    (.pushed out.1, { q with rx := out.2 })
  | .rx_pop conn_id, q => (.popped (q.rx.pop_from conn_id).1, { q with rx := (q.rx.pop_from conn_id).2 })
  | .rx_count conn_id, q => (.counted (q.rx.count conn_id), q)

/-! ## What it is for -/

/-- One direction: the messages in the order in which they were pushed. -/
abbrev Fifo := List QueueMessage

namespace Fifo

def push (capacity conn_id : Nat) (data : Str) (l : Fifo) : QueueError × Fifo :=
  if (slot conn_id).isNone then (.invalid_id, l)
  else if l.length < capacity then (.ok, l ++ [⟨conn_id, data⟩]) else (.full, l)

/-- The first message of one connection. -/
def pop (conn_id : Nat) (l : Fifo) : (QueueError × Option QueueMessage) × Fifo :=
  if (slot conn_id).isNone then ((.invalid_id, none), l)
  else match l.find? (·.cid = conn_id) with
    | none => ((.empty, none), l)
    | some msg => ((.ok, some msg), l.eraseP (·.cid = conn_id))

def pop_next : Fifo → (QueueError × Option QueueMessage) × Fifo
  | [] => ((.empty, none), [])
  | msg :: l => ((.ok, some msg), l)

def count (conn_id : Nat) (l : Fifo) : Nat := l.countP (·.cid = conn_id)

theorem push_eq (capacity conn_id : Nat) (data : Str) (l : Fifo) :
    push capacity conn_id data l =
      if 1 ≤ conn_id ∧ conn_id ≤ 5 then
        if l.length < capacity then (.ok, l ++ [⟨conn_id, data⟩]) else (.full, l)
      else (.invalid_id, l) := by
  unfold push
  by_cases h : 1 ≤ conn_id ∧ conn_id ≤ 5
  · rw [if_neg (fun hn => slot_isNone_iff.mp hn h), if_pos h]
  · rw [if_pos (slot_isNone_iff.mpr h), if_neg h]

theorem pop_eq (conn_id : Nat) (l : Fifo) :
    pop conn_id l =
      if 1 ≤ conn_id ∧ conn_id ≤ 5 then
        match l.find? (·.cid = conn_id) with
        | none => ((.empty, none), l)
        | some msg => ((.ok, some msg), l.eraseP (·.cid = conn_id))
      else ((.invalid_id, none), l) := by
  unfold pop
  by_cases h : 1 ≤ conn_id ∧ conn_id ≤ 5
  · rw [if_neg (fun hn => slot_isNone_iff.mp hn h), if_pos h]
  · rw [if_pos (slot_isNone_iff.mpr h), if_neg h]

end Fifo

structure Fifos where
  tx : Fifo := []
  rx : Fifo := []

namespace Fifos

def step (capacity : Nat) : QueueOp → Fifos → QueueAnswer × Fifos
  | .tx_push conn_id data, q =>
    (.pushed (q.tx.push capacity conn_id data).1, { q with tx := (q.tx.push capacity conn_id data).2 })
  | .tx_pop conn_id, q => (.popped (q.tx.pop conn_id).1, { q with tx := (q.tx.pop conn_id).2 })
  | .tx_pop_next, q => (.popped q.tx.pop_next.1, { q with tx := q.tx.pop_next.2 })
  | .tx_count conn_id, q => (.counted (q.tx.count conn_id), q)
  | .rx_push conn_id data, q =>
    (.pushed (q.rx.push capacity conn_id data).1, { q with rx := (q.rx.push capacity conn_id data).2 })
  | .rx_pop conn_id, q => (.popped (q.rx.pop conn_id).1, { q with rx := (q.rx.pop conn_id).2 })
  | .rx_count conn_id, q => (.counted (q.rx.count conn_id), q)

end Fifos

/-! ## The lanes stay in step -/

/-- The connection id that belongs to an index. -/
def connId (i : Fin MAX_CONNECTIONS) : Nat := i + 1

theorem connId_injective : Function.Injective connId := by
  intro i j h
  unfold connId at h
  omega

theorem slot_eq_some {conn_id : Nat} {i : Fin MAX_CONNECTIONS} (h : slot conn_id = some i) :
    conn_id = connId i := by
  unfold slot at h
  split_ifs at h with hid
  obtain rfl := Option.some.inj h
  simp only [connId]
  omega

/-- The queues and the order of a lane are those of one list of messages. -/
structure InStep (l : Lane) (msgs : Fifo) : Prop where
  splits : Splits QueueMessage.cid connId l.queues l.order msgs
  ids : ∀ m ∈ msgs, (slot m.cid).isSome

namespace InStep

variable {l : Lane} {msgs : Fifo}

theorem push (h : InStep l msgs) (capacity conn_id : Nat) {data : Str} (hdata : data.length ≤ MAX_MSG_DATA) :
    (l.push_to capacity conn_id data).1 = (msgs.push capacity conn_id data).1 ∧
      InStep (l.push_to capacity conn_id data).2 (msgs.push capacity conn_id data).2 := by
  cases hs : slot conn_id with
  | none => simpa [Lane.push_to, Fifo.push, hs] using h
  | some i =>
    have hlen := h.splits.length_order
    have hle := h.splits.length_queue_le i
    by_cases hfull : capacity ≤ msgs.length
    · have hlane : capacity ≤ (l.queues i).length ∨ capacity ≤ l.order.length := .inr (by omega)
      simpa [Lane.push_to, Fifo.push, hs, hlane, Nat.not_lt.mpr hfull] using h
    · have hlane : ¬ (capacity ≤ (l.queues i).length ∨ capacity ≤ l.order.length) := by omega
      have hid := slot_eq_some hs
      simp only [Lane.push_to, Fifo.push, hs, hlane, Nat.not_le.mp hfull, List.take_of_length_le hdata]
      refine ⟨rfl, h.splits.push connId_injective hid, fun m hm => ?_⟩
      obtain hm | hm := List.mem_append.mp hm
      · exact h.ids m hm
      · simp [List.mem_singleton.mp hm, hs]

theorem pop (h : InStep l msgs) (conn_id : Nat) :
    (l.pop_from conn_id).1 = (msgs.pop conn_id).1 ∧ InStep (l.pop_from conn_id).2 (msgs.pop conn_id).2 := by
  cases hs : slot conn_id with
  | none => simpa [Lane.pop_from, Fifo.pop, hs] using h
  | some i =>
    obtain rfl := slot_eq_some hs
    cases hq : l.queues i with
    | nil => simpa [Lane.pop_from, Fifo.pop, hs, hq, h.splits.find_none hq] using h
    | cons msg rest =>
      obtain ⟨hfind, hsplits⟩ := h.splits.pop connId_injective hq
      simp only [Lane.pop_from, Fifo.pop, hs, hq, hfind]
      exact ⟨rfl, hsplits, fun m hm => h.ids m (List.mem_of_mem_eraseP hm)⟩

theorem pop_next (h : InStep l msgs) :
    l.pop_next_from.1 = msgs.pop_next.1 ∧ InStep l.pop_next_from.2 msgs.pop_next.2 := by
  cases ho : l.order with
  | nil =>
    have hnil : msgs = [] := by
      have hlen := h.splits.length_order
      rw [ho] at hlen
      exact List.length_eq_zero_iff.mp hlen.symm
    subst hnil
    simpa [Lane.pop_next_from, Fifo.pop_next, ho] using h
  | cons i order =>
    have hsplits := h.splits
    rw [ho] at hsplits
    obtain ⟨msg, rest, hq, tail, rfl, hnext⟩ := hsplits.next connId_injective
    simp only [Lane.pop_next_from, Fifo.pop_next, ho, hq]
    exact ⟨trivial, hnext, fun m hm => h.ids m (List.mem_cons_of_mem _ hm)⟩

theorem count (h : InStep l msgs) (conn_id : Nat) : l.count conn_id = msgs.count conn_id := by
  cases hs : slot conn_id with
  | none =>
    simp only [Lane.count, hs]
    refine (List.countP_eq_zero.mpr fun m hm => ?_).symm
    have hid := h.ids m hm
    intro heq
    rw [of_decide_eq_true heq, hs] at hid
    contradiction
  | some i =>
    obtain rfl := slot_eq_some hs
    simp [Lane.count, Fifo.count, hs, h.splits.queues_eq, List.countP_eq_length_filter]

theorem empty : InStep {} [] where
  splits := ⟨rfl, fun _ => rfl⟩
  ids := by simp

end InStep

/-! ## The whole queue -/

structure Stores (q : MessageQueue) (f : Fifos) : Prop where
  tx : InStep q.tx f.tx
  rx : InStep q.rx f.rx

theorem queue_simulates (capacity : Nat) :
    Simulates (PosixMessageQueue capacity) (Fifos.step (queueCapacity capacity)) (fun op _ => op.Fits) Stores := by
  intro op q f hfits h
  cases op with
  | tx_push conn_id data =>
    obtain ⟨ha, hnext⟩ := h.tx.push (queueCapacity capacity) conn_id hfits
    exact ⟨congrArg _ ha, hnext, h.rx⟩
  | tx_pop conn_id =>
    obtain ⟨ha, hnext⟩ := h.tx.pop conn_id
    exact ⟨congrArg _ ha, hnext, h.rx⟩
  | tx_pop_next =>
    obtain ⟨ha, hnext⟩ := h.tx.pop_next
    exact ⟨congrArg _ ha, hnext, h.rx⟩
  | tx_count conn_id => exact ⟨congrArg _ (h.tx.count conn_id), h⟩
  | rx_push conn_id data =>
    obtain ⟨ha, hnext⟩ := h.rx.push (queueCapacity capacity) conn_id hfits
    exact ⟨congrArg _ ha, h.tx, hnext⟩
  | rx_pop conn_id =>
    obtain ⟨ha, hnext⟩ := h.rx.pop conn_id
    exact ⟨congrArg _ ha, h.tx, hnext⟩
  | rx_count conn_id => exact ⟨congrArg _ (h.rx.count conn_id), h⟩

theorem queue_tx_framed (capacity : Nat) :
    Framed QueueOp.isTx MessageQueue.tx (PosixMessageQueue capacity) where
  own op q r hop hview := by
    cases op <;> first | contradiction | simp [PosixMessageQueue, hview]
  frame op q hop := by
    cases op <;> first | contradiction | rfl

theorem queue_rx_framed (capacity : Nat) :
    Framed (fun op => !op.isTx) MessageQueue.rx (PosixMessageQueue capacity) where
  own op q r hop hview := by
    cases op <;> first | contradiction | simp [PosixMessageQueue, hview]
  frame op q hop := by
    cases op <;> first | contradiction | rfl

/-- Every run answers as two bounded lists do and holds their messages, and each direction answers as if
there were no calls on the other. -/
theorem posix_queue_is_bounded_fifo (capacity : Nat) (ops : List QueueOp) (hfits : ∀ op ∈ ops, op.Fits) :
    answers (PosixMessageQueue capacity) ops {} = answers (Fifos.step (queueCapacity capacity)) ops {} ∧
      Stores (final (PosixMessageQueue capacity) ops {}) (final (Fifos.step (queueCapacity capacity)) ops {}) ∧
      answersTo QueueOp.isTx (PosixMessageQueue capacity) ops {} =
        answers (PosixMessageQueue capacity) (ops.filter QueueOp.isTx) {} ∧
      answersTo (fun op => !op.isTx) (PosixMessageQueue capacity) ops {} =
        answers (PosixMessageQueue capacity) (ops.filter fun op => !op.isTx) {} := by
  have hempty : Stores {} {} := ⟨.empty, .empty⟩
  obtain ⟨hanswers, hstores⟩ := (queue_simulates capacity).run (Along.of_forall hfits {}) hempty
  refine ⟨hanswers, hstores, ?_, ?_⟩
  · rw [((queue_tx_framed capacity).run ops rfl).1, answersTo_filter]
  · rw [((queue_rx_framed capacity).run ops rfl).1, answersTo_filter]

theorem posix_queue_of_two :
    let ops : List QueueOp := [.tx_push 2 "a".toList, .tx_push 1 "b".toList, .tx_push 1 "c".toList,
      .tx_pop 1, .rx_pop 1, .tx_pop_next]
    answers (PosixMessageQueue 2) ops {} = answers (Fifos.step 2) ops {} ∧
      answers (Fifos.step 2) ops {} = [.pushed .ok, .pushed .ok, .pushed .full,
        .popped (.ok, some ⟨1, "b".toList⟩), .popped (.empty, none), .popped (.ok, some ⟨2, "a".toList⟩)] := by
  refine ⟨(posix_queue_is_bounded_fifo 2 _ ?_).1, by decide⟩
  simp [QueueOp.Fits, MAX_MSG_DATA]

end LteModem
