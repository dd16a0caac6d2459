import LteModem.Lib.Strings
import Mathlib.Logic.Function.Basic

/-! # The payload queues of the connections (`hal/posix_message_queue.cpp`) -/

open Strings

namespace LteModem

def MAX_CONNECTIONS : Nat := 5
def DEFAULT_CAPACITY : Nat := 5
def MAX_MSG_DATA : Nat := 256

inductive QueueError where
  | ok | full | empty | timeout | invalid_id
deriving DecidableEq, Repr

structure QueueMessage where
  cid : Nat
  data : Str
deriving DecidableEq

/-- One direction: a queue for each connection and the order of all messages. -/
structure Lane where
  queues : Fin MAX_CONNECTIONS → List QueueMessage := fun _ => []
  order : List (Fin MAX_CONNECTIONS) := []

/-- The index `conn_id - 1`, for an id in range. -/
def slot (conn_id : Nat) : Option (Fin MAX_CONNECTIONS) :=
  if h : 1 ≤ conn_id ∧ conn_id ≤ MAX_CONNECTIONS then some ⟨conn_id - 1, by omega⟩ else none

theorem slot_succ (i : Fin MAX_CONNECTIONS) : slot (i + 1) = some i := dif_pos ⟨Nat.le_add_left 1 i, i.isLt⟩

theorem slot_isNone_iff {conn_id : Nat} : (slot conn_id).isNone ↔ ¬ (1 ≤ conn_id ∧ conn_id ≤ 5) := by
  unfold slot MAX_CONNECTIONS
  split_ifs with h <;> simpa using h

namespace Lane

def push_to (capacity conn_id : Nat) (data : Str) (l : Lane) : QueueError × Lane :=
  match slot conn_id with
  | none => (.invalid_id, l)
  | some i =>
    if capacity ≤ (l.queues i).length ∨ capacity ≤ l.order.length then (.full, l)
    else
      let msg : QueueMessage := { cid := conn_id, data := data.take MAX_MSG_DATA }
      (.ok, { queues := Function.update l.queues i (l.queues i ++ [msg]), order := l.order ++ [i] })

def pop_from (conn_id : Nat) (l : Lane) : (QueueError × Option QueueMessage) × Lane :=
  match slot conn_id with
  | none => ((.invalid_id, none), l)
  | some i =>
    match l.queues i with
    | [] => ((.empty, none), l)
    | msg :: rest =>
      ((.ok, some msg), { queues := Function.update l.queues i rest, order := l.order.erase i })

def pop_next_from (l : Lane) : (QueueError × Option QueueMessage) × Lane :=
  match l.order with
  | [] => ((.empty, none), l)
  | i :: order =>
    match l.queues i with
    | [] => ((.empty, none), l)
    | msg :: rest => ((.ok, some msg), { queues := Function.update l.queues i rest, order })

/-- `tx_count` and `rx_count`. -/
def count (conn_id : Nat) (l : Lane) : Nat :=
  match slot conn_id with
  | none => 0
  | some i => (l.queues i).length

end Lane

structure MessageQueue where
  tx : Lane := {}
  rx : Lane := {}

end LteModem
