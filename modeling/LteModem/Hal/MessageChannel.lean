import LteModem.Lib.Bytes
import LteModem.Lib.Machine
import LteModem.Lib.Msgq
import LteModem.Lib.Ring
import LteModem.Lib.Strings
import LteModem.RadioLte.Channels

/-!
# The message channel is a bounded FIFO (`hal/posix_message_channel.cpp`, `hal/zephyr_message_channel.cpp`)

The ring wraps at the size of its array and not at the capacity. Cells keep the bytes of older, longer
frames behind the bytes of a new one.
-/

open Strings Machine Bytes Ring

namespace LteModem

/-! ## The interface -/

/-- `MAX_CAPACITY` of both classes. -/
def MAX_CAPACITY : Nat := 16

/-- The arguments `data` and `length` of `send`. -/
inductive Span where
  | null (length : Nat)
  | bytes (data : Str)
deriving DecidableEq

namespace Span

def length : Span → Nat
  | .null length => length
  | .bytes data => data.length

/-- The bytes that a `send` of this span copies. -/
def data : Span → Str
  | .null _ => []
  | .bytes data => data

def isNull : Span → Bool
  | .null _ => true
  | .bytes _ => false

end Span

/-- The calls of `MessageChannelInterface`. The timeouts are 0. -/
inductive ChannelOp where
  | send (span : Span)
  | receive
  | count

/-- A received frame is its length and that many leading bytes. -/
inductive ChannelAnswer where
  | sent (err : MessageChannelError)
  | received (err : MessageChannelError) (frame : Option (Nat × Str))
  | counted (n : Nat)
deriving DecidableEq

def channelCapacity (capacity : Nat) : Nat :=
  if capacity = 0 ∨ MAX_CAPACITY < capacity then MAX_CAPACITY else capacity

/-- The two checks of `send` on its arguments, the same in both classes. -/
def badSpan (span : Span) : Bool :=
  (span.isNull && span.length != 0) || MESSAGE_CHANNEL_MAX_DATA < span.length

theorem badSpan_iff {span : Span} : badSpan span = true ↔ 512 < span.length ∨ span.isNull = true ∧ 0 < span.length := by
  rw [badSpan, Bool.or_eq_true, Bool.and_eq_true, decide_eq_true_iff, bne_iff_ne, ← Nat.pos_iff_ne_zero, or_comm]
  exact Iff.rfl

theorem channelCapacity_eq (capacity : Nat) :
    channelCapacity capacity = if 1 ≤ capacity ∧ capacity ≤ 16 then capacity else 16 := by
  unfold channelCapacity MAX_CAPACITY
  split_ifs <;> omega

/-! ## The POSIX class -/

structure MessageFrame where
  data : Str
  length : Nat

def emptyFrame : MessageFrame := ⟨List.replicate MESSAGE_CHANNEL_MAX_DATA '\x00', 0⟩

structure PosixChannel where
  capacity_ : Nat
  buffer_ : Nat → MessageFrame := fun _ => emptyFrame
  head_ : Nat := 0
  tail_ : Nat := 0
  count_ : Nat := 0

def PosixMessageChannel : ChannelOp → PosixChannel → ChannelAnswer × PosixChannel
  | .send span, c =>
    if badSpan span then (.sent .invalid_size, c)
    else if c.capacity_ ≤ c.count_ then (.sent .full, c)
    else
      let slot := c.buffer_ c.tail_
      let slot : MessageFrame :=
        { length := span.length, data := if span.length ≠ 0 then memcpy slot.data 0 span.data else slot.data }
      (.sent .ok,
        { c with
          buffer_ := Function.update c.buffer_ c.tail_ slot
          tail_ := (c.tail_ + 1) % MAX_CAPACITY
          count_ := c.count_ + 1 })
  | .receive, c =>
    if c.count_ = 0 then (.received .empty none, c)
    else
      let msg := c.buffer_ c.head_
      (.received .ok (some (msg.length, msg.data.take msg.length)),
        { c with head_ := (c.head_ + 1) % MAX_CAPACITY, count_ := c.count_ - 1 })
  | .count, c => (.counted c.count_, c)

/-! ## The Zephyr class -/

/-- A local array of `SLOT_SIZE` zeros. -/
def zeroSlot : Str := List.replicate (MESSAGE_CHANNEL_MAX_DATA + 2) '\x00'

/-- `k_msgq_put` and `k_msgq_get` fail with `-ENOMSG` when they do not wait. -/
def ZephyrMessageChannel (M : Msgq Str) : ChannelOp → M.Q → ChannelAnswer × M.Q
  | .send span, queue_ =>
    if badSpan span then (.sent .invalid_size, queue_)
    else
      let out := M.put (prefixed zeroSlot span.data) queue_
      (.sent (if out.1 then .ok else .full), out.2)
  | .receive, queue_ =>
    let out := M.get queue_
    match out.1 with
    | none => (.received .empty none, out.2)
    | some slot =>
      if MESSAGE_CHANNEL_MAX_DATA < toUint16 slot then (.received .invalid_size none, out.2)
      else (.received .ok (some (toUint16 slot, (slot.drop 2).take (toUint16 slot))), out.2)
  | .count, queue_ => (.counted (M.num_used queue_), queue_)

/-! ## What they are for -/

/-- A list of at most `capacity` frames. -/
def FrameFifo (capacity : Nat) : ChannelOp → List Str → ChannelAnswer × List Str
  | .send span, frames =>
    if badSpan span then (.sent .invalid_size, frames)
    else if frames.length < capacity then (.sent .ok, frames ++ [span.data])
    else (.sent .full, frames)
  | .receive, [] => (.received .empty none, [])
  | .receive, frame :: frames => (.received .ok (some (frame.length, frame)), frames)
  | .count, frames => (.counted frames.length, frames)

theorem frameFifo_send_eq (capacity : Nat) (span : Span) (frames : List Str) :
    FrameFifo capacity (.send span) frames =
      if 512 < span.length ∨ span.isNull = true ∧ 0 < span.length then (.sent .invalid_size, frames)
      else if frames.length < capacity then (.sent .ok, frames ++ [span.data])
      else (.sent .full, frames) := by
  rw [FrameFifo]
  exact if_congr badSpan_iff rfl rfl

theorem frameFifo_send (capacity : Nat) (data : Str) (frames : List Str) :
    (FrameFifo capacity (.send (.bytes data)) frames).1 =
      .sent (sendError capacity frames.length data.length) := by
  have hbad : badSpan (.bytes data) = decide (MESSAGE_CHANNEL_MAX_DATA < data.length) := rfl
  by_cases hlong : MESSAGE_CHANNEL_MAX_DATA < data.length
  · simp [FrameFifo, sendError, hbad, hlong]
  · by_cases hroom : frames.length < capacity
    · simp [FrameFifo, sendError, hbad, hlong, hroom, Nat.not_le.mpr hroom]
    · simp [FrameFifo, sendError, hbad, hlong, hroom, Nat.not_lt.mp hroom]

/-! ## The ring -/

def MessageFrame.payload (frame : MessageFrame) : Nat × Str := (frame.length, frame.data.take frame.length)

def received (frame : Str) : Nat × Str := (frame.length, frame)

theorem data_length {span : Span} (h : badSpan span = false) : span.data.length = span.length := by
  cases span with
  | null length => simp_all [badSpan, Span.isNull, Span.length, Span.data]
  | bytes data => rfl

theorem length_le {span : Span} (h : badSpan span = false) : span.data.length ≤ MESSAGE_CHANNEL_MAX_DATA := by
  rw [data_length h]
  simp_all [badSpan]

theorem payload_of_send {span : Span} (h : badSpan span = false) (old : Str) :
    MessageFrame.payload
        { length := span.length, data := if span.length ≠ 0 then memcpy old 0 span.data else old } =
      received span.data := by
  have hlen := data_length h
  by_cases h0 : span.length = 0
  · have hnil : span.data = [] := List.length_eq_zero_iff.mp (hlen.trans h0)
    simp [MessageFrame.payload, received, h0, hnil]
  · have hread : (memcpy old 0 span.data).take span.data.length = span.data :=
      @read_memcpy _ old span.data 0 (Nat.zero_le _)
    simp only [MessageFrame.payload, received, ne_eq, h0, not_false_eq_true, if_true]
    rw [← hlen, hread]

/-- The cells from `head_` on hold the frames. -/
structure RingOf (capacity : Nat) (c : PosixChannel) (frames : List Str) : Prop where
  capacity_ : c.capacity_ = capacity
  head_ : c.head_ < MAX_CAPACITY
  tail_ : c.tail_ = (c.head_ + c.count_) % MAX_CAPACITY
  count_ : c.count_ ≤ c.capacity_
  frames_ : (window MAX_CAPACITY c.buffer_ c.head_ c.count_).map MessageFrame.payload = frames.map received

theorem RingOf.length {capacity : Nat} {c : PosixChannel} {frames : List Str} (h : RingOf capacity c frames) :
    frames.length = c.count_ := by
  simpa using (congrArg List.length h.frames_).symm

theorem posix_channel_simulates {capacity : Nat} (hcap : capacity ≤ MAX_CAPACITY) :
    Simulates PosixMessageChannel (FrameFifo capacity) (fun _ _ => True) (RingOf capacity) := by
  intro op c frames _ h
  have hlen := h.length
  have hcapacity := h.capacity_
  cases op with
  | send span =>
    cases hbad : badSpan span with
    | true => simpa [PosixMessageChannel, FrameFifo, hbad] using h
    | false =>
      by_cases hfull : c.capacity_ ≤ c.count_
      · have hroom : ¬ frames.length < capacity := by omega
        simpa [PosixMessageChannel, FrameFifo, hbad, hfull, hroom] using h
      · have hroom : frames.length < capacity := by omega
        simp only [PosixMessageChannel, FrameFifo, hbad, hfull, hroom, Bool.false_eq_true, if_false, if_true]
        refine ⟨trivial, h.capacity_, h.head_, ?_, by simp only; omega, ?_⟩
        · simp only
          rw [h.tail_, Nat.mod_add_mod, Nat.add_assoc]
        · simp only
          rw [h.tail_, window_push _ _ (by omega), List.map_append, h.frames_, List.map_append]
          simp only [List.map_singleton]
          rw [payload_of_send hbad]
  | receive =>
    cases frames with
    | nil =>
      have hempty : c.count_ = 0 := hlen.symm
      simpa [PosixMessageChannel, FrameFifo, hempty] using h
    | cons frame frames =>
      obtain ⟨count, hcount⟩ : ∃ count, c.count_ = count + 1 := ⟨frames.length, hlen.symm⟩
      have hframes := h.frames_
      rw [hcount, window_pop _ _ h.head_, List.map_cons, List.map_cons] at hframes
      obtain ⟨hfirst, hrest⟩ := List.cons.inj hframes
      have hne : c.count_ ≠ 0 := by omega
      have hcountle := h.count_
      simp only [PosixMessageChannel, FrameFifo, hne, if_false]
      refine ⟨congrArg (fun p => ChannelAnswer.received .ok (some p)) hfirst, h.capacity_, Nat.mod_lt _ (by decide),
        ?_, by simp only; omega, by simpa [hcount] using hrest⟩
      simp only
      rw [h.tail_, Nat.mod_add_mod, hcount]
      congr 1
      omega
  | count => exact ⟨congrArg ChannelAnswer.counted hlen.symm, h⟩

/-! ## The slots -/

section Zephyr

variable {M : Msgq Str} {slots : M.Q → List Str} {max_msgs : M.Q → Nat}

structure SlotsOf (slots : M.Q → List Str) (max_msgs : M.Q → Nat) (capacity : Nat) (q : M.Q) (frames : List Str) :
    Prop where
  slots : slots q = frames.map (prefixed zeroSlot)
  max_msgs : max_msgs q = capacity
  sizes : ∀ frame ∈ frames, frame.length ≤ MESSAGE_CHANNEL_MAX_DATA

theorem zephyr_channel_simulates (hM : M.Documented slots max_msgs) (capacity : Nat) :
    Simulates (ZephyrMessageChannel M) (FrameFifo capacity) (fun _ _ => True) (SlotsOf slots max_msgs capacity) := by
  intro op q frames _ h
  have hlen : (slots q).length = frames.length := by rw [h.slots, List.length_map]
  cases op with
  | send span =>
    cases hbad : badSpan span with
    | true => simpa [ZephyrMessageChannel, FrameFifo, hbad] using h
    | false =>
      by_cases hroom : frames.length < capacity
      · obtain ⟨hput, hslots⟩ :=
          hM.put_room (prefixed zeroSlot span.data) q (by rw [hlen, h.max_msgs]; exact hroom)
        simp only [ZephyrMessageChannel, FrameFifo, hbad, hroom, hput, Bool.false_eq_true, if_false, if_true]
        refine ⟨trivial, ?_, (hM.put_max _ _).trans h.max_msgs, fun frame hframe => ?_⟩
        · rw [hslots, h.slots, List.map_append, List.map_singleton]
        · obtain hframe | hframe := List.mem_append.mp hframe
          · exact h.sizes frame hframe
          · rw [List.mem_singleton.mp hframe]
            exact length_le hbad
      · obtain ⟨hput, hslots⟩ :=
          hM.put_full (prefixed zeroSlot span.data) q (by rw [hlen, h.max_msgs]; omega)
        simp only [ZephyrMessageChannel, FrameFifo, hbad, hroom, hput, Bool.false_eq_true, if_false]
        exact ⟨trivial, hslots.trans h.slots, (hM.put_max _ _).trans h.max_msgs, h.sizes⟩
  | receive =>
    cases frames with
    | nil =>
      obtain ⟨hget, hslots⟩ := hM.get_empty q h.slots
      simp only [ZephyrMessageChannel, FrameFifo, hget]
      exact ⟨trivial, hslots, (hM.get_max _).trans h.max_msgs, h.sizes⟩
    | cons frame frames =>
      obtain ⟨hget, hslots⟩ := hM.get_next q _ _ h.slots
      have hsize := h.sizes frame List.mem_cons_self
      have hmax : MESSAGE_CHANNEL_MAX_DATA = 512 := rfl
      have hzero : zeroSlot.length = 514 := List.length_replicate
      have hlength : toUint16 (prefixed zeroSlot frame) = frame.length :=
        toUint16_prefixed (by omega) (by omega)
      simp only [ZephyrMessageChannel, FrameFifo, hget, hlength, Nat.not_lt.mpr hsize, if_false,
        read_prefixed (show frame.length + 2 ≤ zeroSlot.length by omega)]
      exact ⟨trivial, hslots, (hM.get_max _).trans h.max_msgs, fun f hf => h.sizes f (List.mem_cons_of_mem _ hf)⟩
  | count => exact ⟨congrArg ChannelAnswer.counted ((hM.num_used q).trans hlen), h⟩

end Zephyr

/-! ## Runs -/

def acceptedFrames (l : List (ChannelOp × ChannelAnswer)) : List (Nat × Str) :=
  l.filterMap fun
    | (.send span, .sent .ok) => some (received span.data)
    | _ => none

def receivedFrames (l : List ChannelAnswer) : List (Nat × Str) :=
  l.filterMap fun
    | .received .ok frame => frame
    | _ => none

theorem frameFifo_conserves (capacity : Nat) (ops : List ChannelOp) (frames : List Str) :
    frames.map received ++ acceptedFrames (ops.zip (answers (FrameFifo capacity) ops frames)) =
      receivedFrames (answers (FrameFifo capacity) ops frames) ++
        (final (FrameFifo capacity) ops frames).map received := by
  induction ops generalizing frames with
  | nil => simp [answers, final, acceptedFrames, receivedFrames]
  | cons op ops ih =>
    have hrest := ih (FrameFifo capacity op frames).2
    simp only [acceptedFrames, receivedFrames] at hrest
    simp only [answers, final, acceptedFrames, receivedFrames, List.zip_cons_cons]
    cases op with
    | send span =>
      cases hbad : badSpan span with
      | true => simpa [FrameFifo, hbad] using hrest
      | false =>
        by_cases hroom : frames.length < capacity
        · simpa [FrameFifo, hbad, hroom] using hrest
        · simpa [FrameFifo, hbad, hroom] using hrest
    | receive =>
      cases frames with
      | nil => simpa [FrameFifo] using hrest
      | cons frame frames => simpa [FrameFifo, received] using hrest
    | count => simpa [FrameFifo] using hrest

theorem channelCapacity_le (capacity : Nat) : channelCapacity capacity ≤ MAX_CAPACITY := by
  rw [channelCapacity_eq, MAX_CAPACITY]
  split_ifs <;> omega

/-- For every capacity and every run: the ring is well formed, both classes answer as a bounded list of
frames does, and what was accepted is what came out followed by what is stored. -/
theorem message_channel_is_bounded_fifo {M : Msgq Str} {slots : M.Q → List Str} {max_msgs : M.Q → Nat}
    (hM : M.Documented slots max_msgs) (capacity : Nat) (ops : List ChannelOp) :
    let new : PosixChannel := { capacity_ := channelCapacity capacity }
    let posix := answers PosixMessageChannel ops new
    let c := final PosixMessageChannel ops new
    (c.tail_ = (c.head_ + c.count_) % MAX_CAPACITY ∧ c.count_ ≤ c.capacity_ ∧ c.head_ < MAX_CAPACITY) ∧
      posix = answers (FrameFifo (channelCapacity capacity)) ops [] ∧
      acceptedFrames (ops.zip posix) =
        receivedFrames posix ++ (window MAX_CAPACITY c.buffer_ c.head_ c.count_).map MessageFrame.payload ∧
      answers (ZephyrMessageChannel M) ops (M.init (channelCapacity capacity)) = posix := by
  intro new posix c
  have hnew : RingOf (channelCapacity capacity) new [] :=
    ⟨rfl, Nat.zero_lt_succ _, rfl, Nat.zero_le _, rfl⟩
  have hslots : SlotsOf slots max_msgs (channelCapacity capacity) (M.init (channelCapacity capacity)) [] :=
    ⟨(hM.init _).1, (hM.init _).2, by simp⟩
  obtain ⟨hanswers, hring⟩ := (posix_channel_simulates (channelCapacity_le capacity)).run
    (Along.of_forall (fun _ _ => trivial) new) hnew
  obtain ⟨hzephyr, -⟩ := (zephyr_channel_simulates hM _).run (Along.of_forall (fun _ _ => trivial) _) hslots
  refine ⟨⟨hring.tail_, hring.count_, hring.head_⟩, hanswers, ?_, hzephyr.trans hanswers.symm⟩
  have hconserves := frameFifo_conserves (channelCapacity capacity) ops []
  rw [← hanswers, ← hring.frames_] at hconserves
  exact hconserves

theorem message_channel_of_one :
    let ops : List ChannelOp := [.send (.bytes "abc".toList), .send (.bytes "d".toList), .receive,
      .send (.bytes "d".toList), .receive, .receive]
    answers PosixMessageChannel ops { capacity_ := channelCapacity 1 } =
        answers (FrameFifo (channelCapacity 1)) ops [] ∧
      answers (FrameFifo (channelCapacity 1)) ops [] = [.sent .ok, .sent .full,
        .received .ok (some (3, "abc".toList)), .sent .ok, .received .ok (some (1, "d".toList)),
        .received .empty none] :=
  ⟨(message_channel_is_bounded_fifo (M := .ofList _) Msgq.ofList_documented 1 _).2.1, by decide⟩

end LteModem
