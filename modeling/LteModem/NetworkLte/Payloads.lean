import LteModem.Hal.ZephyrQueue
import LteModem.NetworkLte.Machine

/-!
# What becomes of a payload (`hal/*_message_queue.cpp`, `NetworkLte::loop`)

A payload may be longer than a slot of the message queue. The POSIX queue and the Windows one cut it off, the
Zephyr one refuses it.
-/

open Strings Machine

namespace LteModem

/-- The Windows queue is the POSIX one under another name. -/
def Win32MessageQueue (capacity : Nat) : QueueOp → MessageQueue → QueueAnswer × MessageQueue :=
  PosixMessageQueue capacity

namespace Payloads

/-! ## Messages in and out -/

/-- A push in one of the two directions. -/
def push (rx : Bool) (conn_id : Nat) (data : Str) : QueueOp :=
  if rx then .rx_push conn_id data else .tx_push conn_id data

def pop (rx : Bool) (conn_id : Nat) : QueueOp := if rx then .rx_pop conn_id else .tx_pop conn_id

/-- The message that a call takes out of the queue of a connection. -/
def taken (rx : Bool) (conn_id : Nat) : QueueOp → QueueAnswer → Option QueueMessage
  | .tx_pop id, .popped (_, msg) => if rx = false ∧ id = conn_id then msg else none
  | .rx_pop id, .popped (_, msg) => if rx = true ∧ id = conn_id then msg else none
  | .tx_pop_next, .popped (_, msg) => if rx = false then msg.filter (·.cid = conn_id) else none
  | _, _ => none

section Runs

variable {ι σ : Type} (op : ι → QueueOp) (step : ι → σ → QueueAnswer × σ)

/-- The messages that a run takes out of the queue of a connection. -/
def takenBy (rx : Bool) (conn_id : Nat) : List ι → σ → List QueueMessage
  | [], _ => []
  | i :: is, s =>
    (taken rx conn_id (op i) (step i s).1).toList ++ takenBy rx conn_id is (step i s).2

/-- The messages that wait for a connection. -/
abbrev Waiting (σ : Type) : Type := σ → Bool → Nat → List QueueMessage

/-- The first message is taken, or none, and what is added goes to the end. -/
def Moves (before : List QueueMessage) : Option QueueMessage → List QueueMessage → Prop
  | some msg, after => before = msg :: after
  | none, after => before <+: after

/-- What the calls have in common, in the states that are `ok`. -/
structure Queues (ok : σ → Prop) (waiting : Waiting σ) : Prop where
  keeps : ∀ i s, ok s → ok (step i s).2
  moves : ∀ i s rx conn_id, ok s →
    Moves (waiting s rx conn_id) (taken rx conn_id (op i) (step i s).1) (waiting (step i s).2 rx conn_id)

variable {op step}

theorem Queues.final {ok : σ → Prop} {waiting : Waiting σ} (h : Queues op step ok waiting) (is : List ι) {s : σ}
    (hs : ok s) : ok (Machine.final step is s) := by
  induction is generalizing s with
  | nil => exact hs
  | cons i is ih => exact ih (h.keeps i s hs)

theorem Queues.takenBy {ok : σ → Prop} {waiting : Waiting σ} (h : Queues op step ok waiting) (rx : Bool)
    (conn_id : Nat) (is : List ι) {s : σ} (hs : ok s) {j : Nat} (hj : j < (waiting s rx conn_id).length)
    {msg : QueueMessage} (ht : (takenBy op step rx conn_id is s)[j]? = some msg) :
    (waiting s rx conn_id)[j]? = some msg := by
  induction is generalizing s j with
  | nil => simp [Payloads.takenBy] at ht
  | cons i is ih =>
    rw [Payloads.takenBy] at ht
    have hmoves := h.moves i s rx conn_id hs
    cases hm : taken rx conn_id (op i) (step i s).1 with
    | none =>
      rw [hm] at ht hmoves
      obtain ⟨more, hmore⟩ := hmoves
      have hw : (waiting (step i s).2 rx conn_id)[j]? = some msg := by
        apply ih (h.keeps i s hs) _ ht
        rw [← hmore, List.length_append]
        omega
      rw [← hmore, List.getElem?_append_left hj] at hw
      exact hw
    | some m =>
      rw [hm] at ht hmoves
      rw [hmoves] at hj ⊢
      cases j with
      | zero => simpa using ht
      | succ j => exact ih (h.keeps i s hs) (by simpa using hj) ht

/-- An accepted payload comes out of the queue as it is, and one that is not accepted leaves no trace. The message
comes out when those before it are out. -/
def Whole (op : ι → QueueOp) (step : ι → σ → QueueAnswer × σ) (waiting : Waiting σ) (s : σ) (i : ι) (rx : Bool)
    (conn_id : Nat) (data : Str) : Prop :=
  if (step i s).1 = .pushed .ok then
    ∀ later msg, (takenBy op step rx conn_id later (step i s).2)[(waiting s rx conn_id).length]? = some msg →
      msg = ⟨conn_id, data⟩
  else (step i s).2 = s

theorem Queues.whole {ok : σ → Prop} {waiting : Waiting σ} (h : Queues op step ok waiting) {s : σ} (hs : ok s) {i : ι}
    {rx : Bool} {conn_id : Nat} {data : Str}
    (hw : waiting (step i s).2 rx conn_id = waiting s rx conn_id ++ [⟨conn_id, data⟩]) :
    ∀ later msg, (Payloads.takenBy op step rx conn_id later (step i s).2)[(waiting s rx conn_id).length]? = some msg →
      msg = ⟨conn_id, data⟩ := by
  intro later msg ht
  have hj : (waiting s rx conn_id).length < (waiting (step i s).2 rx conn_id).length := by
    rw [hw, List.length_append, List.length_singleton]
    omega
  have hm := h.takenBy rx conn_id later (h.keeps i s hs) hj ht
  rw [hw, List.getElem?_concat_length] at hm
  exact (Option.some.inj hm).symm

end Runs

/-! ## One direction -/

section Lanes

/-- The messages of a connection in one direction. -/
def ofLane (l : Lane) (conn_id : Nat) : List QueueMessage := ((slot conn_id).map l.queues).getD []

theorem slot_connId (i : Fin MAX_CONNECTIONS) : slot (connId i) = some i := slot_succ i

variable {l : Lane}

theorem push_to_take (capacity conn_id : Nat) (data : Str) (l : Lane) :
    l.push_to capacity conn_id data = l.push_to capacity conn_id (data.take MAX_MSG_DATA) := by
  simp [Lane.push_to, List.take_take]

theorem inStep_push (h : ∃ msgs, InStep l msgs) (capacity conn_id : Nat) (data : Str) :
    ∃ msgs, InStep (l.push_to capacity conn_id data).2 msgs := by
  obtain ⟨msgs, h⟩ := h
  rw [push_to_take]
  exact ⟨_, (h.push capacity conn_id (List.length_take_le _ _)).2⟩

theorem update_moves (i : Fin MAX_CONNECTIONS) (conn_id : Nat) (queue : List QueueMessage)
    (order : List (Fin MAX_CONNECTIONS)) {t : Option QueueMessage} (h : Moves (l.queues i) t queue) :
    Moves (ofLane l conn_id) (if connId i = conn_id then t else none)
      (ofLane { queues := Function.update l.queues i queue, order } conn_id) := by
  by_cases hi : connId i = conn_id
  · subst hi
    simpa [ofLane, slot_connId] using h
  · have hs (j : Fin MAX_CONNECTIONS) (hj : slot conn_id = some j) : j ≠ i := by
      rintro rfl
      exact hi (slot_eq_some hj).symm
    cases hj : slot conn_id with
    | none => simp [ofLane, hi, hj, Moves]
    | some j => simp [ofLane, hi, hj, Moves, hs j hj]

theorem push_moves (capacity id conn_id : Nat) (data : Str) :
    Moves (ofLane l conn_id) none (ofLane (l.push_to capacity id data).2 conn_id) := by
  unfold Lane.push_to
  cases slot id with
  | none => exact List.prefix_rfl
  | some i =>
    by_cases hf : capacity ≤ (l.queues i).length ∨ capacity ≤ l.order.length
    · simp only [hf, if_true]
      exact List.prefix_rfl
    · simp only [hf, if_false]
      have hm : Moves (l.queues i) none (l.queues i ++ [⟨id, data.take MAX_MSG_DATA⟩]) := List.prefix_append _ _
      simpa using update_moves i conn_id _ _ hm

theorem pop_moves (id conn_id : Nat) :
    Moves (ofLane l conn_id) (if id = conn_id then (l.pop_from id).1.2 else none)
      (ofLane (l.pop_from id).2 conn_id) := by
  unfold Lane.pop_from
  cases hs : slot id with
  | none => simp [Moves]
  | some i =>
    obtain rfl := slot_eq_some hs
    cases hq : l.queues i with
    | nil => simp [Moves, hq]
    | cons msg rest =>
      simp only [hq]
      exact update_moves i conn_id rest _ hq

theorem pop_next_moves (h : ∃ msgs, InStep l msgs) (conn_id : Nat) :
    Moves (ofLane l conn_id) (l.pop_next_from.1.2.filter (·.cid = conn_id)) (ofLane l.pop_next_from.2 conn_id) := by
  obtain ⟨msgs, h⟩ := h
  unfold Lane.pop_next_from
  cases ho : l.order with
  | nil => simp [Moves]
  | cons i order =>
    cases hq : l.queues i with
    | nil => simp [Moves, hq]
    | cons msg rest =>
      have hid : msg.cid = connId i := by
        have hm : msg ∈ l.queues i := by simp [hq]
        rw [h.splits.queues_eq] at hm
        simpa using (List.mem_filter.mp hm).2
      have hf : (some msg).filter (·.cid = conn_id) = if connId i = conn_id then some msg else none := by
        simp [Option.filter, hid]
      simp only [hq]
      rw [hf]
      exact update_moves i conn_id rest order hq

end Lanes

/-! ## The POSIX queue -/

def laneOf (rx : Bool) (q : MessageQueue) : Lane := if rx then q.rx else q.tx

def waiting (q : MessageQueue) (rx : Bool) (conn_id : Nat) : List QueueMessage := ofLane (laneOf rx q) conn_id

/-- The queues and the orders are in step. -/
def Ordered (q : MessageQueue) : Prop := (∃ msgs, InStep q.tx msgs) ∧ ∃ msgs, InStep q.rx msgs

theorem posix_queues (capacity : Nat) : Queues id (PosixMessageQueue capacity) Ordered waiting where
  keeps op q := by
    rintro ⟨⟨t, ht⟩, ⟨r, hr⟩⟩
    cases op with
    | tx_push id data => exact ⟨inStep_push ⟨t, ht⟩ _ _ _, r, hr⟩
    | tx_pop id => exact ⟨⟨_, (ht.pop id).2⟩, r, hr⟩
    | tx_pop_next => exact ⟨⟨_, ht.pop_next.2⟩, r, hr⟩
    | rx_push id data => exact ⟨⟨t, ht⟩, inStep_push ⟨r, hr⟩ _ _ _⟩
    | rx_pop id => exact ⟨⟨t, ht⟩, _, (hr.pop id).2⟩
    | tx_count id | rx_count id => exact ⟨⟨t, ht⟩, r, hr⟩
  moves op q rx conn_id h := by
    cases op <;> cases rx
    case tx_push.false => exact push_moves _ _ _ _
    case rx_push.true => exact push_moves _ _ _ _
    case tx_pop.false => simpa [taken, PosixMessageQueue, waiting, laneOf] using pop_moves (l := q.tx) _ _
    case rx_pop.true => simpa [taken, PosixMessageQueue, waiting, laneOf] using pop_moves (l := q.rx) _ _
    case tx_pop_next.false => exact pop_next_moves h.1 _
    all_goals exact List.prefix_rfl

/-- A push that is refused, whatever its payload. -/
def Refuses (capacity conn_id : Nat) (l : Lane) : Prop :=
  match slot conn_id with
  | none => True
  | some i => capacity ≤ (l.queues i).length ∨ capacity ≤ l.order.length

theorem push_refused {capacity conn_id : Nat} {l : Lane} (h : Refuses capacity conn_id l) (data : Str) :
    (l.push_to capacity conn_id data).1 ≠ .ok ∧ (l.push_to capacity conn_id data).2 = l := by
  unfold Refuses at h
  unfold Lane.push_to
  cases hs : slot conn_id with
  | none => simp
  | some i =>
    rw [hs] at h
    simp [h]

theorem push_accepted {capacity conn_id : Nat} {l : Lane} (h : ¬ Refuses capacity conn_id l) (data : Str) :
    (l.push_to capacity conn_id data).1 = .ok ∧ (slot conn_id).isSome ∧
      ofLane (l.push_to capacity conn_id data).2 conn_id = ofLane l conn_id ++ [⟨conn_id, data.take MAX_MSG_DATA⟩] := by
  unfold Refuses at h
  unfold Lane.push_to
  cases hs : slot conn_id with
  | none => simp [hs] at h
  | some i =>
    rw [hs] at h
    simp [h, ofLane, hs]

theorem posix_push (capacity : Nat) (rx : Bool) (conn_id : Nat) (data : Str) (q : MessageQueue) :
    let out := (laneOf rx q).push_to (queueCapacity capacity) conn_id data
    let next := (PosixMessageQueue capacity (push rx conn_id data) q).2
    (PosixMessageQueue capacity (push rx conn_id data) q).1 = .pushed out.1 ∧ laneOf rx next = out.2 ∧
      (out.2 = laneOf rx q → next = q) := by
  intro out next
  refine ⟨by cases rx <;> rfl, by cases rx <;> rfl, fun h => ?_⟩
  cases rx
  · exact congrArg (fun l => ({ q with tx := l } : MessageQueue)) h
  · exact congrArg (fun l => ({ q with rx := l } : MessageQueue)) h

theorem posix_pops (capacity : Nat) (rx : Bool) {conn_id : Nat} (hid : (slot conn_id).isSome) (n : Nat) {q : MessageQueue}
    (hq : Ordered q) (hn : n ≤ (waiting q rx conn_id).length) :
    takenBy id (PosixMessageQueue capacity) rx conn_id (List.replicate n (pop rx conn_id)) q =
      (waiting q rx conn_id).take n := by
  induction n generalizing q with
  | zero => rfl
  | succ n ih =>
    cases hw : waiting q rx conn_id with
    | nil => simp [hw] at hn
    | cons msg rest =>
      have ht : taken rx conn_id (pop rx conn_id) (PosixMessageQueue capacity (pop rx conn_id) q).1 = some msg := by
        obtain ⟨i, hi⟩ := Option.isSome_iff_exists.mp hid
        cases rx
        · have hl : q.tx.queues i = msg :: rest := by simpa [waiting, laneOf, ofLane, hi] using hw
          simp [taken, pop, PosixMessageQueue, Lane.pop_from, hi, hl]
        · have hl : q.rx.queues i = msg :: rest := by simpa [waiting, laneOf, ofLane, hi] using hw
          simp [taken, pop, PosixMessageQueue, Lane.pop_from, hi, hl]
      have hm := (posix_queues capacity).moves (pop rx conn_id) q rx conn_id hq
      rw [id_eq, ht, hw] at hm
      have hrest := (List.cons.inj hm).2
      rw [List.replicate_succ, takenBy, id_eq, ht, ih ((posix_queues capacity).keeps _ q hq), ← hrest]
      · rfl
      · rw [← hrest]
        simpa [hw] using hn

theorem posix_whole_iff (capacity : Nat) (rx : Bool) (conn_id : Nat) (data : Str) {q : MessageQueue} (hq : Ordered q) :
    Whole id (PosixMessageQueue capacity) waiting q (push rx conn_id data) rx conn_id data ↔
      data.length ≤ MAX_MSG_DATA ∨ Refuses (queueCapacity capacity) conn_id (laneOf rx q) := by
  obtain ⟨ha, hlane, hsame⟩ := posix_push capacity rx conn_id data q
  by_cases hr : Refuses (queueCapacity capacity) conn_id (laneOf rx q)
  · obtain ⟨he, hl⟩ := push_refused hr data
    simp only [Whole, ha, QueueAnswer.pushed.injEq, he, if_false, hr, or_true, iff_true]
    exact hsame hl
  · obtain ⟨hok, hid, hnext⟩ := push_accepted hr data
    simp only [Whole, ha, hok, if_true, hr, or_false]
    have hw : waiting (PosixMessageQueue capacity (push rx conn_id data) q).2 rx conn_id =
        waiting q rx conn_id ++ [⟨conn_id, data.take MAX_MSG_DATA⟩] := by
      rw [waiting, hlane, hnext, waiting]
    constructor
    · intro h
      -- pops alone bring the message out
      have hn := posix_pops capacity rx hid ((waiting q rx conn_id).length + 1)
        ((posix_queues capacity).keeps (push rx conn_id data) q hq) (by rw [hw]; simp)
      have hm := h (List.replicate ((waiting q rx conn_id).length + 1) (pop rx conn_id))
        ⟨conn_id, data.take MAX_MSG_DATA⟩ (by rw [hn, hw, List.take_of_length_le (by simp)]; simp)
      have hlen := congrArg (fun m => m.data.length) hm
      simp only [List.length_take] at hlen
      omega
    · intro hfits
      rw [List.take_of_length_le hfits] at hw
      exact (posix_queues capacity).whole hq hw

/-! ## The Zephyr queue -/

section Zephyr

variable {S : Msgq Str} {O : Msgq (Fin MAX_CONNECTIONS)}
variable {slots : S.Q → List Str} {smax : S.Q → Nat} {entries : O.Q → List (Fin MAX_CONNECTIONS)} {omax : O.Q → Nat}

def zephyrLaneOf (rx : Bool) (z : ZephyrQueue S O) : ZephyrLane S O := if rx then z.rx else z.tx

def zephyrWaiting (slots : S.Q → List Str) (z : ZephyrQueue S O) (rx : Bool) (conn_id : Nat) : List QueueMessage :=
  ((slot conn_id).map fun i => (slots ((zephyrLaneOf rx z).queues i)).map (decode_slot (connId i))).getD []

/-- It holds what a POSIX queue does. -/
def Mirrors (slots : S.Q → List Str) (smax : S.Q → Nat) (entries : O.Q → List (Fin MAX_CONNECTIONS)) (omax : O.Q → Nat)
    (capacity : Nat) (z : ZephyrQueue S O) (q : MessageQueue) : Prop :=
  Holds slots smax entries omax capacity z.tx q.tx ∧ Holds slots smax entries omax capacity z.rx q.rx

theorem Mirrors.lane {capacity : Nat} {z : ZephyrQueue S O} {q : MessageQueue}
    (h : Mirrors slots smax entries omax capacity z q) (rx : Bool) :
    Holds slots smax entries omax capacity (zephyrLaneOf rx z) (laneOf rx q) := by
  cases rx
  · exact h.1
  · exact h.2

theorem Mirrors.waiting {capacity : Nat} {z : ZephyrQueue S O} {q : MessageQueue}
    (h : Mirrors slots smax entries omax capacity z q) (rx : Bool) (conn_id : Nat) :
    zephyrWaiting slots z rx conn_id = Payloads.waiting q rx conn_id := by
  simp only [zephyrWaiting, Payloads.waiting, ofLane, (h.lane rx).queues]

theorem Mirrors.ordered {capacity : Nat} {z : ZephyrQueue S O} {q : MessageQueue}
    (h : Mirrors slots smax entries omax capacity z q) : Ordered q :=
  ⟨h.1.inStep, h.2.inStep⟩

theorem zephyrCapacity_le (capacity : Nat) : zephyrCapacity capacity ≤ MAX_QUEUE_CAPACITY := by
  unfold zephyrCapacity
  split_ifs with h
  · exact Nat.le_refl _
  · omega

theorem queueCapacity_zephyr (capacity : Nat) : queueCapacity (zephyrCapacity capacity) = zephyrCapacity capacity := by
  unfold zephyrCapacity queueCapacity
  split_ifs <;> simp_all [MAX_QUEUE_CAPACITY, DEFAULT_CAPACITY]

theorem zephyr_fits (hS : S.Documented slots smax) (hO : O.Documented entries omax) (capacity : Nat) {c : QueueCall}
    (hc : c.op.Fits) {z : ZephyrQueue S O} {q : MessageQueue}
    (h : Mirrors slots smax entries omax (zephyrCapacity capacity) z q) :
    (ZephyrMessageQueue capacity c z).1 = (PosixMessageQueue (zephyrCapacity capacity) c.op q).1 ∧
      Mirrors slots smax entries omax (zephyrCapacity capacity) (ZephyrMessageQueue capacity c z).2
        (PosixMessageQueue (zephyrCapacity capacity) c.op q).2 := by
  have hsim := zephyr_queue_simulates hS hO (zephyrCapacity_le capacity) c z q hc
  have hcap : zephyrCapacity (zephyrCapacity capacity) = zephyrCapacity capacity := by
    rw [zephyrCapacity_eq (zephyrCapacity_le capacity), queueCapacity_zephyr]
  have hz : ZephyrMessageQueue (S := S) (O := O) (zephyrCapacity capacity) = ZephyrMessageQueue capacity := by
    funext c z
    simp only [ZephyrMessageQueue, hcap]
  rw [hz, queueCapacity_zephyr] at hsim
  exact hsim h

theorem zephyr_oversized (capacity : Nat) {c : QueueCall} (hc : ¬ c.op.Fits) (z : ZephyrQueue S O) :
    (∃ err, (ZephyrMessageQueue capacity c z).1 = .pushed err ∧ err ≠ .ok) ∧
      (ZephyrMessageQueue capacity c z).2 = z := by
  have hp (id : Nat) (data : Str) (hd : ¬ data.length ≤ MAX_MSG_DATA) (l : ZephyrLane S O) :
      (l.push_to (zephyrCapacity capacity) id data c.stack).1 ≠ .ok ∧
        (l.push_to (zephyrCapacity capacity) id data c.stack).2 = l := by
    unfold ZephyrLane.push_to
    have hm : MAX_MSG_SIZE < data.length := Nat.not_le.mp hd
    cases slot id <;> simp [hm]
  obtain ⟨op, stack, hstack⟩ := c
  cases op with
  | tx_push id data =>
    obtain ⟨he, hl⟩ := hp id data hc z.tx
    exact ⟨⟨_, rfl, he⟩, congrArg (fun l => ({ z with tx := l } : ZephyrQueue S O)) hl⟩
  | rx_push id data =>
    obtain ⟨he, hl⟩ := hp id data hc z.rx
    exact ⟨⟨_, rfl, he⟩, congrArg (fun l => ({ z with rx := l } : ZephyrQueue S O)) hl⟩
  | tx_pop | tx_pop_next | tx_count | rx_pop | rx_count => exact absurd trivial hc

theorem zephyr_queues (hS : S.Documented slots smax) (hO : O.Documented entries omax) (capacity : Nat) :
    Queues QueueCall.op (ZephyrMessageQueue (S := S) (O := O) capacity)
      (fun z => ∃ q, Mirrors slots smax entries omax (zephyrCapacity capacity) z q) (zephyrWaiting slots) where
  keeps c z := by
    rintro ⟨q, h⟩
    by_cases hc : c.op.Fits
    · exact ⟨_, (zephyr_fits hS hO capacity hc h).2⟩
    · rw [(zephyr_oversized capacity hc z).2]
      exact ⟨q, h⟩
  moves c z rx conn_id := by
    rintro ⟨q, h⟩
    by_cases hc : c.op.Fits
    · obtain ⟨ha, hnext⟩ := zephyr_fits hS hO capacity hc h
      rw [ha, h.waiting, hnext.waiting]
      exact (posix_queues _).moves c.op q rx conn_id h.ordered
    · obtain ⟨⟨err, ha, -⟩, hz⟩ := zephyr_oversized capacity hc z
      rw [ha, hz]
      have ht : taken rx conn_id c.op (.pushed err) = none := by
        cases c.op <;> rfl
      rw [ht]
      exact List.prefix_rfl

theorem zephyr_refused (hS : S.Documented slots smax) (hO : O.Documented entries omax) {capacity conn_id : Nat}
    {z : ZephyrLane S O} {l : Lane} (h : Holds slots smax entries omax capacity z l)
    (hr : Refuses capacity conn_id l) (data stack : Str) : (z.push_to capacity conn_id data stack).2 = z := by
  unfold Refuses at hr
  unfold ZephyrLane.push_to
  cases hs : slot conn_id with
  | none => rfl
  | some i =>
    rw [hs] at hr
    simp only [h.num_used hS, h.num_order hO, hr, if_true]
    split_ifs <;> rfl

theorem zephyr_whole (hS : S.Documented slots smax) (hO : O.Documented entries omax) (capacity : Nat) (rx : Bool)
    (conn_id : Nat) (data : Str) {c : QueueCall} (hc : c.op = push rx conn_id data) {z : ZephyrQueue S O}
    (hz : ∃ q, Mirrors slots smax entries omax (zephyrCapacity capacity) z q) :
    Whole QueueCall.op (ZephyrMessageQueue capacity) (zephyrWaiting slots) z c rx conn_id data := by
  obtain ⟨q, h⟩ := hz
  by_cases hf : c.op.Fits
  · obtain ⟨ha, hnext⟩ := zephyr_fits hS hO capacity hf h
    obtain ⟨hp, hlane, -⟩ := posix_push (zephyrCapacity capacity) rx conn_id data q
    rw [hc] at ha hnext
    rw [hp, queueCapacity_zephyr] at ha
    rw [queueCapacity_zephyr] at hlane
    by_cases hr : Refuses (zephyrCapacity capacity) conn_id (laneOf rx q)
    · obtain ⟨he, -⟩ := push_refused hr data
      simp only [Whole, ha, QueueAnswer.pushed.injEq, he, if_false]
      have hl := zephyr_refused hS hO (h.lane rx) hr data c.stack
      cases rx
      · simp only [ZephyrMessageQueue, hc, push, Bool.false_eq_true, if_false]
        exact congrArg (fun l => ({ z with tx := l } : ZephyrQueue S O)) hl
      · simp only [ZephyrMessageQueue, hc, push, if_true]
        exact congrArg (fun l => ({ z with rx := l } : ZephyrQueue S O)) hl
    · obtain ⟨hok, -, hw⟩ := push_accepted hr data
      have hlen : data.length ≤ MAX_MSG_DATA := by
        rw [hc] at hf
        cases rx <;> exact hf
      simp only [Whole, ha, hok, if_true]
      refine (zephyr_queues hS hO capacity).whole ⟨q, h⟩ ?_
      rw [hnext.waiting, h.waiting, Payloads.waiting, hlane, hw, List.take_of_length_le hlen]
      rfl
  · obtain ⟨⟨err, ha, he⟩, hsame⟩ := zephyr_oversized capacity hf z
    simp only [Whole, ha, QueueAnswer.pushed.injEq, he, if_false]
    exact hsame

end Zephyr

/-! ## Received datagrams -/

open NetworkLte

/-- The answer to the command that comes next. -/
def nextAnswer (w : World) : Answer := (w.env w.clock).answer

/-- The connection that data arrives for. -/
def receivingConn (n : Net) : Nat :=
  if 0 < n.data.last_data_conn_id_ then n.data.last_data_conn_id_ else n.lteConfig.conn_id

theorem moves_message_queue (moves : List Net.Move) (n : Net) :
    (moves.foldl Net.move n).data.message_queue_ = n.data.message_queue_ := by
  refine Net.moves_keep (f := fun n => n.data.message_queue_) (fun n m => ?_) moves n
  unfold Net.move Net.put
  cases m with
  | expire_state_timer => rfl
  | expire_timer => cases n.timer_ <;> rfl
  | callback i =>
    cases hc : n.callbacks[i]? <;> simp [hc, Net.on_event, is_error_event, NetData.push_trace]

theorem receive_data_rx (w : World) {data : Str} (hd : Replies.udp_receive (nextAnswer w) [] = (.ok, data))
    (hne : data ≠ []) :
    (receive_data w).2.net.data.message_queue_.rx =
      (w.net.data.message_queue_.rx.push_to DEFAULT_CAPACITY (receivingConn w.net) data).2 := by
  have hq := moves_message_queue (w.env w.clock).moves w.net
  have hd' : Replies.udp_receive (w.env w.clock).answer [] = (.ok, data) := hd
  simp only [receive_data, Prog.bind_run, net, Prog.gets_run, xE310.udp_receive, xE310.ask, exchange, tick, take_answer,
    Prog.modify_run, Prog.pure_run, hd', hne, ne_eq, not_false_eq_true, and_self, if_true, updateData, updateNet, hq,
    receivingConn]

/-- A datagram for a connection is queued whole, or not at all and the caller is told. -/
def WholeOrDropped (conn_id : Nat) (data : Str) (err : QueueError) (before after : Lane) : Prop :=
  (err = .ok ∧ ofLane after conn_id = ofLane before conn_id ++ [⟨conn_id, data⟩]) ∨ (err ≠ .ok ∧ after = before)

theorem push_whole_iff (capacity conn_id : Nat) (data : Str) (l : Lane) :
    let out := l.push_to capacity conn_id data
    WholeOrDropped conn_id data out.1 l out.2 ↔ data.length ≤ MAX_MSG_DATA ∨ Refuses capacity conn_id l := by
  intro out
  by_cases hr : Refuses capacity conn_id l
  · obtain ⟨he, hl⟩ := push_refused hr data
    have hd : WholeOrDropped conn_id data out.1 l out.2 := .inr ⟨he, hl⟩
    simp [hd, hr]
  · obtain ⟨hok, -, hw⟩ := push_accepted hr data
    have ho : out.1 = .ok := hok
    have ha : ofLane out.2 conn_id = ofLane l conn_id ++ [⟨conn_id, data.take MAX_MSG_DATA⟩] := hw
    simp [WholeOrDropped, ho, ha, hr]

/-! ## All platforms -/

section Platforms

variable {S : Msgq Str} {O : Msgq (Fin MAX_CONNECTIONS)}
variable {slots : S.Q → List Str} {smax : S.Q → Nat} {entries : O.Q → List (Fin MAX_CONNECTIONS)} {omax : O.Q → Nat}

/-- After any calls, the POSIX and the Windows queue treat a payload as they should exactly when it fits or is refused
anyway. The Zephyr queue always does. With a POSIX queue, what the machine receives is queued whole or reported as
dropped under the same condition. -/
theorem payload_whole_iff (hS : S.Documented slots smax) (hO : O.Documented entries omax) (capacity : Nat) (rx : Bool)
    (conn_id : Nat) (data : Str) :
    (∀ ops : List QueueOp,
      let q := final (PosixMessageQueue capacity) ops {}
      (Whole id (PosixMessageQueue capacity) waiting q (push rx conn_id data) rx conn_id data ↔
        data.length ≤ MAX_MSG_DATA ∨ Refuses (queueCapacity capacity) conn_id (laneOf rx q)) ∧
      (Whole id (Win32MessageQueue capacity) waiting q (push rx conn_id data) rx conn_id data ↔
        data.length ≤ MAX_MSG_DATA ∨ Refuses (queueCapacity capacity) conn_id (laneOf rx q))) ∧
    (∀ (calls : List QueueCall) (c : QueueCall), c.op = push rx conn_id data →
      let z := final (ZephyrMessageQueue capacity) calls (ZephyrQueue.new S O capacity)
      Whole QueueCall.op (ZephyrMessageQueue capacity) (zephyrWaiting slots) z c rx conn_id data) ∧
    ∀ w : World, Replies.udp_receive (nextAnswer w) [] = (.ok, data) → data ≠ [] →
      let l := w.net.data.message_queue_.rx
      let after := (receive_data w).2.net.data.message_queue_.rx
      let conn := receivingConn w.net
      WholeOrDropped conn data (l.push_to DEFAULT_CAPACITY conn data).1 l after ↔
        data.length ≤ MAX_MSG_DATA ∨ Refuses DEFAULT_CAPACITY conn l := by
  refine ⟨fun ops => ?_, fun calls c hc => ?_, fun w hd hne => ?_⟩
  · have hq : Ordered (final (PosixMessageQueue capacity) ops {}) :=
      (posix_queues capacity).final ops ⟨⟨[], .empty⟩, [], .empty⟩
    have h := posix_whole_iff capacity rx conn_id data hq
    exact ⟨h, h⟩
  · have hnew := Holds.empty hS hO (zephyrCapacity capacity)
    exact zephyr_whole hS hO capacity rx conn_id data hc
      ((zephyr_queues hS hO capacity).final calls ⟨{}, hnew, hnew⟩)
  · intro l after conn
    have ha : after = (l.push_to DEFAULT_CAPACITY conn data).2 := receive_data_rx w hd hne
    rw [ha]
    exact push_whole_iff _ _ _ _

end Platforms

/-- A datagram of 257 bytes. -/
def longPayload : Str := List.replicate 257 'x'

theorem payload_whole_short :
    Whole id (PosixMessageQueue 0) waiting {} (push true 1 "ab".toList) true 1 "ab".toList ∧
      ∀ w : World, Replies.udp_receive (nextAnswer w) [] = (.ok, "ab".toList) → receivingConn w.net = 1 →
        WholeOrDropped 1 "ab".toList (w.net.data.message_queue_.rx.push_to DEFAULT_CAPACITY 1 "ab".toList).1
          w.net.data.message_queue_.rx (receive_data w).2.net.data.message_queue_.rx := by
  have h := payload_whole_iff (S := .ofList _) (O := .ofList _) Msgq.ofList_documented Msgq.ofList_documented 0 true 1
    "ab".toList
  constructor
  · exact (h.1 []).1.mpr (.inl (by decide))
  · intro w hw hc
    have hd := h.2.2 w hw (by decide)
    simp only [hc] at hd
    exact hd.mpr (.inl (by decide))

/-- The pushed datagram comes out without its last byte, and both calls are content. -/
theorem long_payload_cut :
    answers (PosixMessageQueue 0) [.rx_push 1 longPayload, .rx_pop 1] {} =
        [.pushed .ok, .popped (.ok, some ⟨1, longPayload.take 256⟩)] ∧ longPayload.take 256 ≠ longPayload := by
  decide +kernel

end Payloads

end LteModem
