import LteModem.Lib.Bytes
import LteModem.Lib.Msgq
import LteModem.Hal.SocketQueue

/-!
# The Zephyr socket queue does what the POSIX one does (`hal/zephyr_message_queue.cpp`)

`k_msgq` is a parameter, for the slots of the messages and for the order. There is no deque, so an order
entry is taken out by emptying the order queue and filling it again.
-/

open Strings Machine Bytes

namespace LteModem

def MAX_MSG_SIZE : Nat := 256
def SLOT_SIZE : Nat := MAX_MSG_SIZE + 2
def MAX_QUEUE_CAPACITY : Nat := DEFAULT_CAPACITY

/-- A call, and what the memory of the local array `slot` holds before it is written. -/
structure QueueCall where
  op : QueueOp
  stack : Str
  stack_length : stack.length = SLOT_SIZE

def zephyrCapacity (capacity : Nat) : Nat :=
  if capacity = 0 ∨ MAX_QUEUE_CAPACITY < capacity then MAX_QUEUE_CAPACITY else capacity

def decode_slot (conn_id : Nat) (slot : Str) : QueueMessage :=
  { cid := conn_id, data := (slot.drop 2).take (min (toUint16 slot) MAX_MSG_DATA) }

theorem decode_prefixed (conn_id : Nat) {stack data : Str} (hstack : stack.length = SLOT_SIZE)
    (hdata : data.length ≤ MAX_MSG_DATA) : decode_slot conn_id (prefixed stack data) = ⟨conn_id, data⟩ := by
  have hmax : MAX_MSG_DATA = 256 := rfl
  have hsize : SLOT_SIZE = 258 := rfl
  rw [decode_slot, toUint16_prefixed (by omega) (by omega), Nat.min_eq_left hdata, read_prefixed (by omega)]

/-! ## One direction -/

section Lane

variable {S : Msgq Str} {O : Msgq (Fin MAX_CONNECTIONS)}

structure ZephyrLane (S : Msgq Str) (O : Msgq (Fin MAX_CONNECTIONS)) where
  queues : Fin MAX_CONNECTIONS → S.Q
  order_queue : O.Q

/-- The loop that empties the order queue, all but the first entry of the connection. -/
def drain_order (O : Msgq (Fin MAX_CONNECTIONS)) (conn : Fin MAX_CONNECTIONS) :
    Nat → Bool → O.Q → List (Fin MAX_CONNECTIONS) × O.Q
  | 0, _, q => ([], q)
  | fuel + 1, removed, q =>
    match (O.get q).1 with
    | none => ([], (O.get q).2)
    | some queued =>
      if removed = false ∧ queued = conn then drain_order O conn fuel true (O.get q).2
      else
        let rest := drain_order O conn fuel removed (O.get q).2
        (queued :: rest.1, rest.2)

def remove_order_entry (O : Msgq (Fin MAX_CONNECTIONS)) (conn : Fin MAX_CONNECTIONS) (order_queue : O.Q) : O.Q :=
  let deferred := drain_order O conn (O.num_used order_queue + 1) false order_queue
  O.putAll deferred.1 deferred.2

namespace ZephyrLane

def push_to (capacity conn_id : Nat) (data stack : Str) (l : ZephyrLane S O) : QueueError × ZephyrLane S O :=
  match slot conn_id with
  | none => (.invalid_id, l)
  | some i =>
    if MAX_MSG_SIZE < data.length then (.full, l)
    else if capacity ≤ S.num_used (l.queues i) ∨ capacity ≤ O.num_used l.order_queue then (.full, l)
    else
      let payload := S.put (prefixed stack data) (l.queues i)
      let order := if payload.1 then O.put i l.order_queue else (false, l.order_queue)
      (if payload.1 && order.1 then .ok else .full,
        { queues := Function.update l.queues i payload.2, order_queue := order.2 })

def pop_from (conn_id : Nat) (l : ZephyrLane S O) : (QueueError × Option QueueMessage) × ZephyrLane S O :=
  match slot conn_id with
  | none => ((.invalid_id, none), l)
  | some i =>
    let out := S.get (l.queues i)
    match out.1 with
    | none => ((.empty, none), { l with queues := Function.update l.queues i out.2 })
    | some slot =>
      ((.ok, some (decode_slot conn_id slot)),
        { queues := Function.update l.queues i out.2, order_queue := remove_order_entry O i l.order_queue })

/-- The order entry is gone even when its queue turns out to be empty. -/
def pop_next_from (l : ZephyrLane S O) : (QueueError × Option QueueMessage) × ZephyrLane S O :=
  let order := O.get l.order_queue
  match order.1 with
  | none => ((.empty, none), { l with order_queue := order.2 })
  | some i =>
    let out := S.get (l.queues i)
    let l := { queues := Function.update l.queues i out.2, order_queue := order.2 }
    match out.1 with
    | none => ((.empty, none), l)
    | some slot => ((.ok, some (decode_slot (connId i) slot)), l)

def count (conn_id : Nat) (l : ZephyrLane S O) : Nat :=
  match slot conn_id with
  | none => 0
  | some i => S.num_used (l.queues i)

end ZephyrLane

/-! ## The two lanes hold the same -/

variable {slots : S.Q → List Str} {smax : S.Q → Nat} {entries : O.Q → List (Fin MAX_CONNECTIONS)} {omax : O.Q → Nat}

theorem drain_order_eq (conn : Fin MAX_CONNECTIONS) (fuel : Nat) (removed : Bool) (q : O.Q) :
    drain_order O conn fuel removed q =
      (if removed then (O.drain fuel q).1 else (O.drain fuel q).1.erase conn, (O.drain fuel q).2) := by
  induction fuel generalizing removed q with
  | zero => cases removed <;> rfl
  | succ fuel ih =>
    cases hget : (O.get q).1 with
    | none => cases removed <;> simp [drain_order, Msgq.drain, hget]
    | some queued =>
      by_cases hq : queued = conn
      · cases removed <;> simp [drain_order, Msgq.drain, hget, hq, ih]
      · cases removed <;> simp [drain_order, Msgq.drain, hget, hq, ih]

theorem remove_order_entry_eq (hO : O.Documented entries omax) (conn : Fin MAX_CONNECTIONS) {q : O.Q}
    (hroom : (entries q).length ≤ omax q) :
    entries (remove_order_entry O conn q) = (entries q).erase conn ∧ omax (remove_order_entry O conn q) = omax q := by
  have hfuel : (entries q).length < O.num_used q + 1 := by
    rw [hO.num_used]
    omega
  obtain ⟨hall, hempty, hmax⟩ := hO.drain_eq hfuel
  have hlen : ((entries q).erase conn).length ≤ (entries q).length := List.length_erase_le
  have hput : (entries (O.drain (O.num_used q + 1) q).2).length + ((entries q).erase conn).length ≤
      omax (O.drain (O.num_used q + 1) q).2 := by
    rw [hempty, hmax]
    simp only [List.length_nil]
    omega
  obtain ⟨hentries, hmax'⟩ := hO.putAll_eq hput
  simp only [remove_order_entry, drain_order_eq, hall]
  exact ⟨by simpa [hempty] using hentries, hmax'.trans hmax⟩

/-- The slots decode to the messages of the POSIX lane, and the order entries are the same. -/
structure Holds (slots : S.Q → List Str) (smax : S.Q → Nat) (entries : O.Q → List (Fin MAX_CONNECTIONS))
    (omax : O.Q → Nat) (capacity : Nat) (z : ZephyrLane S O) (l : Lane) : Prop where
  queues : ∀ i, (slots (z.queues i)).map (decode_slot (connId i)) = l.queues i
  order : entries z.order_queue = l.order
  smax : ∀ i, smax (z.queues i) = capacity
  omax : omax z.order_queue = capacity
  inStep : ∃ msgs, InStep l msgs
  room : l.order.length ≤ capacity

namespace Holds

variable {capacity : Nat} {z : ZephyrLane S O} {l : Lane}

theorem num_used (hS : S.Documented slots smax) (h : Holds slots smax entries omax capacity z l)
    (i : Fin MAX_CONNECTIONS) : S.num_used (z.queues i) = (l.queues i).length := by
  rw [hS.num_used, ← h.queues i, List.length_map]

theorem num_order (hO : O.Documented entries omax) (h : Holds slots smax entries omax capacity z l) :
    O.num_used z.order_queue = l.order.length := by
  rw [hO.num_used, h.order]

theorem update (h : Holds slots smax entries omax capacity z l) {i : Fin MAX_CONNECTIONS} {q : S.Q} {o : O.Q}
    {queue : List QueueMessage} {order : List (Fin MAX_CONNECTIONS)}
    (hq : (slots q).map (decode_slot (connId i)) = queue) (hqmax : smax q = smax (z.queues i))
    (ho : entries o = order) (homax : omax o = omax z.order_queue) (hroom : order.length ≤ capacity)
    (hstep : ∃ msgs, InStep { queues := Function.update l.queues i queue, order } msgs) :
    Holds slots smax entries omax capacity { queues := Function.update z.queues i q, order_queue := o }
      { queues := Function.update l.queues i queue, order } where
  queues j := by
    by_cases hj : j = i
    · subst hj
      simpa using hq
    · simpa [hj] using h.queues j
  order := ho
  smax j := by
    by_cases hj : j = i
    · subst hj
      simpa using hqmax.trans (h.smax j)
    · simpa [hj] using h.smax j
  omax := homax.trans h.omax
  inStep := hstep
  room := hroom

theorem push (hS : S.Documented slots smax) (hO : O.Documented entries omax)
    (h : Holds slots smax entries omax capacity z l) (conn_id : Nat) {data stack : Str}
    (hdata : data.length ≤ MAX_MSG_DATA) (hstack : stack.length = SLOT_SIZE) :
    (z.push_to capacity conn_id data stack).1 = (l.push_to capacity conn_id data).1 ∧
      Holds slots smax entries omax capacity (z.push_to capacity conn_id data stack).2
        (l.push_to capacity conn_id data).2 := by
  obtain ⟨msgs, hstep⟩ := h.inStep
  have hpush := (hstep.push capacity conn_id hdata).2
  cases hs : slot conn_id with
  | none => simpa [ZephyrLane.push_to, Lane.push_to, hs] using h
  | some i =>
    have hsize : ¬ MAX_MSG_SIZE < data.length := Nat.not_lt.mpr hdata
    have hqueue := h.queues i
    by_cases hfull : capacity ≤ (l.queues i).length ∨ capacity ≤ l.order.length
    · simpa [ZephyrLane.push_to, Lane.push_to, hs, hsize, h.num_used hS, h.num_order hO, hfull] using h
    · have hlen : (slots (z.queues i)).length = (l.queues i).length := by
        rw [← hqueue, List.length_map]
      obtain ⟨hput, hslots⟩ := hS.put_room (prefixed stack data) (z.queues i) (by rw [h.smax]; omega)
      obtain ⟨hput', hentries⟩ := hO.put_room i z.order_queue (by rw [h.omax, h.order]; omega)
      obtain rfl := slot_eq_some hs
      simp only [ZephyrLane.push_to, Lane.push_to, hs, hsize, h.num_used hS, h.num_order hO, hfull, hput, hput',
        if_false, if_true, Bool.and_self] at hpush ⊢
      refine ⟨trivial, h.update ?_ (hS.put_max _ _) ?_ (hO.put_max _ _) ?_ ⟨_, hpush⟩⟩
      · rw [hslots, List.map_append, hqueue, List.map_singleton, decode_prefixed _ hstack hdata,
          List.take_of_length_le hdata]
      · rw [hentries, h.order]
      · rw [List.length_append, List.length_singleton]
        omega

theorem pop (hS : S.Documented slots smax) (hO : O.Documented entries omax)
    (h : Holds slots smax entries omax capacity z l) (conn_id : Nat) :
    (z.pop_from conn_id).1 = (l.pop_from conn_id).1 ∧
      Holds slots smax entries omax capacity (z.pop_from conn_id).2 (l.pop_from conn_id).2 := by
  obtain ⟨msgs, hstep⟩ := h.inStep
  have hpop := (hstep.pop conn_id).2
  cases hs : slot conn_id with
  | none => simpa [ZephyrLane.pop_from, Lane.pop_from, hs] using h
  | some i =>
    obtain rfl := slot_eq_some hs
    have hqueue := h.queues i
    cases hslots : slots (z.queues i) with
    | nil =>
      obtain ⟨hnone, hleft⟩ := hS.get_empty _ hslots
      rw [hslots] at hqueue
      simp only [ZephyrLane.pop_from, Lane.pop_from, hs, hnone, ← hqueue, List.map_nil]
      refine ⟨trivial, ?_⟩
      have hsame : l = { queues := Function.update l.queues i [], order := l.order } := by
        rw [← List.map_nil, hqueue, Function.update_eq_self]
      rw [hsame]
      exact h.update (by rw [hleft, List.map_nil]) (hS.get_max _) h.order rfl h.room ⟨msgs, hsame ▸ hstep⟩
    | cons a rest =>
      obtain ⟨hsome, hleft⟩ := hS.get_next _ a rest hslots
      rw [hslots, List.map_cons] at hqueue
      have hroom : (entries z.order_queue).length ≤ omax z.order_queue := by
        rw [h.order, h.omax]
        exact h.room
      obtain ⟨hentries, hmax⟩ := remove_order_entry_eq hO i hroom
      simp only [ZephyrLane.pop_from, Lane.pop_from, hs, hsome, ← hqueue] at hpop ⊢
      refine ⟨trivial, h.update (by rw [hleft]) (hS.get_max _) (by rw [hentries, h.order]) hmax ?_ ⟨_, hpop⟩⟩
      exact le_trans List.length_erase_le h.room

theorem pop_next (hS : S.Documented slots smax) (hO : O.Documented entries omax)
    (h : Holds slots smax entries omax capacity z l) :
    z.pop_next_from.1 = l.pop_next_from.1 ∧
      Holds slots smax entries omax capacity z.pop_next_from.2 l.pop_next_from.2 := by
  obtain ⟨msgs, hstep⟩ := h.inStep
  have hpop := hstep.pop_next.2
  cases horder : l.order with
  | nil =>
    have hempty : entries z.order_queue = [] := h.order.trans horder
    obtain ⟨hnone, hleft⟩ := hO.get_empty _ hempty
    simp only [ZephyrLane.pop_next_from, Lane.pop_next_from, hnone, horder]
    exact ⟨trivial, h.queues, hleft.trans horder.symm, h.smax, (hO.get_max _).trans h.omax, h.inStep, h.room⟩
  | cons i order =>
    have hsplits := hstep.splits
    rw [horder] at hsplits
    -- the lanes are in step, so the queue that the order names is not empty
    obtain ⟨msg, rest, hq, -⟩ := hsplits.next connId_injective
    have hqueue := h.queues i
    obtain ⟨a, tail, hslots⟩ : ∃ a tail, slots (z.queues i) = a :: tail := by
      cases hslots : slots (z.queues i) with
      | nil => simp [hslots, hq] at hqueue
      | cons a tail => exact ⟨a, tail, rfl⟩
    obtain ⟨hsome, hleft⟩ := hS.get_next _ a tail hslots
    obtain ⟨hnext, hentries⟩ := hO.get_next _ i order (h.order.trans horder)
    rw [hslots, List.map_cons] at hqueue
    simp only [ZephyrLane.pop_next_from, Lane.pop_next_from, hnext, hsome, horder, ← hqueue] at hpop ⊢
    refine ⟨trivial, h.update (by rw [hleft]) (hS.get_max _) hentries (hO.get_max _) ?_ ⟨_, hpop⟩⟩
    have hroom := h.room
    rw [horder, List.length_cons] at hroom
    omega

theorem count (hS : S.Documented slots smax) (h : Holds slots smax entries omax capacity z l) (conn_id : Nat) :
    z.count conn_id = l.count conn_id := by
  cases hs : slot conn_id with
  | none => simp [ZephyrLane.count, Lane.count, hs]
  | some i => simp [ZephyrLane.count, Lane.count, hs, h.num_used hS]

theorem empty (hS : S.Documented slots smax) (hO : O.Documented entries omax) (capacity : Nat) :
    Holds slots smax entries omax capacity
      ⟨fun _ => S.init capacity, O.init capacity⟩ {} where
  queues _ := by rw [(hS.init capacity).1, List.map_nil]
  order := (hO.init capacity).1
  smax _ := (hS.init capacity).2
  omax := (hO.init capacity).2
  inStep := ⟨[], .empty⟩
  room := Nat.zero_le _

end Holds

end Lane

/-! ## The whole queue -/

structure ZephyrQueue (S : Msgq Str) (O : Msgq (Fin MAX_CONNECTIONS)) where
  tx : ZephyrLane S O
  rx : ZephyrLane S O

def ZephyrQueue.new (S : Msgq Str) (O : Msgq (Fin MAX_CONNECTIONS)) (capacity : Nat) : ZephyrQueue S O :=
  let lane : ZephyrLane S O := ⟨fun _ => S.init (zephyrCapacity capacity), O.init (zephyrCapacity capacity)⟩
  ⟨lane, lane⟩

variable {S : Msgq Str} {O : Msgq (Fin MAX_CONNECTIONS)}

def ZephyrMessageQueue (capacity : Nat) (c : QueueCall) (q : ZephyrQueue S O) : QueueAnswer × ZephyrQueue S O :=
  match c.op with
  | .tx_push conn_id data =>
    let out := q.tx.push_to (zephyrCapacity capacity) conn_id data c.stack
    (.pushed out.1, { q with tx := out.2 })
  | .tx_pop conn_id => (.popped (q.tx.pop_from conn_id).1, { q with tx := (q.tx.pop_from conn_id).2 })
  | .tx_pop_next => (.popped q.tx.pop_next_from.1, { q with tx := q.tx.pop_next_from.2 })
  | .tx_count conn_id => (.counted (q.tx.count conn_id), q)
  | .rx_push conn_id data =>
    let out := q.rx.push_to (zephyrCapacity capacity) conn_id data c.stack
    (.pushed out.1, { q with rx := out.2 })
  | .rx_pop conn_id => (.popped (q.rx.pop_from conn_id).1, { q with rx := (q.rx.pop_from conn_id).2 })
  | .rx_count conn_id => (.counted (q.rx.count conn_id), q)

theorem zephyrCapacity_eq {capacity : Nat} (h : capacity ≤ MAX_QUEUE_CAPACITY) :
    zephyrCapacity capacity = queueCapacity capacity := by
  by_cases h0 : capacity = 0
  · simp [zephyrCapacity, queueCapacity, h0, MAX_QUEUE_CAPACITY]
  · simp [zephyrCapacity, queueCapacity, h0, Nat.not_lt.mpr h]

variable {slots : S.Q → List Str} {smax : S.Q → Nat} {entries : O.Q → List (Fin MAX_CONNECTIONS)} {omax : O.Q → Nat}

theorem zephyr_queue_simulates (hS : S.Documented slots smax) (hO : O.Documented entries omax) {capacity : Nat}
    (hcap : capacity ≤ MAX_QUEUE_CAPACITY) :
    Simulates (ZephyrMessageQueue (S := S) (O := O) capacity) (fun c => PosixMessageQueue capacity c.op)
      (fun c _ => c.op.Fits)
      (fun z q => Holds slots smax entries omax (queueCapacity capacity) z.tx q.tx ∧
        Holds slots smax entries omax (queueCapacity capacity) z.rx q.rx) := by
  rintro ⟨op, stack, hstack⟩ z q hfits ⟨htx, hrx⟩
  simp only [ZephyrMessageQueue, zephyrCapacity_eq hcap]
  cases op with
  | tx_push conn_id data =>
    obtain ⟨ha, hnext⟩ := htx.push hS hO conn_id hfits hstack
    exact ⟨congrArg _ ha, hnext, hrx⟩
  | tx_pop conn_id =>
    obtain ⟨ha, hnext⟩ := htx.pop hS hO conn_id
    exact ⟨congrArg _ ha, hnext, hrx⟩
  | tx_pop_next =>
    obtain ⟨ha, hnext⟩ := htx.pop_next hS hO
    exact ⟨congrArg _ ha, hnext, hrx⟩
  | tx_count conn_id => exact ⟨congrArg _ (htx.count hS conn_id), htx, hrx⟩
  | rx_push conn_id data =>
    obtain ⟨ha, hnext⟩ := hrx.push hS hO conn_id hfits hstack
    exact ⟨congrArg _ ha, htx, hnext⟩
  | rx_pop conn_id =>
    obtain ⟨ha, hnext⟩ := hrx.pop hS hO conn_id
    exact ⟨congrArg _ ha, htx, hnext⟩
  | rx_count conn_id => exact ⟨congrArg _ (hrx.count hS conn_id), htx, hrx⟩

/-- Every run on Zephyr answers as it does on POSIX, whatever the uninitialised slots held. -/
theorem zephyr_queue_as_posix (hS : S.Documented slots smax) (hO : O.Documented entries omax) (capacity : Nat)
    (hcap : capacity ≤ 5) (calls : List QueueCall) (hfits : ∀ c ∈ calls, c.op.Fits) :
    answers (ZephyrMessageQueue capacity) calls (ZephyrQueue.new S O capacity) =
      answers (PosixMessageQueue capacity) (calls.map QueueCall.op) {} := by
  have hnew := Holds.empty hS hO (queueCapacity capacity)
  rw [answers_map]
  refine ((zephyr_queue_simulates hS hO hcap).run (Along.of_forall hfits _) ⟨?_, ?_⟩).1
  · simpa [ZephyrQueue.new, zephyrCapacity_eq hcap] using hnew
  · simpa [ZephyrQueue.new, zephyrCapacity_eq hcap] using hnew

/-- The memory of a slot before it is written. -/
def oldSlot : Str := List.replicate SLOT_SIZE 'x'

theorem oldSlot_length : oldSlot.length = SLOT_SIZE := List.length_replicate

theorem zephyr_queue_out_of_turn :
    let call (op : QueueOp) : QueueCall := ⟨op, oldSlot, oldSlot_length⟩
    let calls := [call (.tx_push 2 "a".toList), call (.tx_push 1 "b".toList), call (.tx_pop 1), call .tx_pop_next,
      call (.tx_pop_next)]
    answers (ZephyrMessageQueue 0) calls (ZephyrQueue.new (.ofList _) (.ofList _) 0) =
        answers (PosixMessageQueue 0) (calls.map QueueCall.op) {} ∧
      answers (PosixMessageQueue 0) (calls.map QueueCall.op) {} = [.pushed .ok, .pushed .ok,
        .popped (.ok, some ⟨1, "b".toList⟩), .popped (.ok, some ⟨2, "a".toList⟩), .popped (.empty, none)] := by
  refine ⟨zephyr_queue_as_posix Msgq.ofList_documented Msgq.ofList_documented 0 (by decide) _ ?_, by decide⟩
  simp [QueueOp.Fits, MAX_MSG_DATA]

end LteModem
