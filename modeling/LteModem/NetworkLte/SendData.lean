import LteModem.NetworkLte.Payloads
import LteModem.NetworkLte.Requested
import LteModem.NetworkLte.ServerConnect

/-!
# `send_data` empties the queue in order

What the action sends against the messages that were pushed, for every history of the queue.
-/

open Prog Strings Machine

namespace LteModem

/-! ## The history of a queue -/

/-- The call with the bytes that a message has room for. -/
def QueueOp.cut : QueueOp → QueueOp
  | .tx_push conn_id data => .tx_push conn_id (data.take MAX_MSG_DATA)
  | .rx_push conn_id data => .rx_push conn_id (data.take MAX_MSG_DATA)
  | op => op

theorem QueueOp.cut_fits (op : QueueOp) : op.cut.Fits := by
  cases op <;> first | trivial | exact List.length_take_le _ _

theorem posix_cut (capacity : Nat) (op : QueueOp) : PosixMessageQueue capacity op.cut = PosixMessageQueue capacity op := by
  funext q
  cases op <;> first | rfl | simp only [QueueOp.cut, PosixMessageQueue, NetworkLte.Requested.push_to_take]

/-- The messages in the order in which they were pushed, without those that were popped. -/
def pushed (capacity : Nat) (ops : List QueueOp) : Fifos := final (Fifos.step (queueCapacity capacity)) (ops.map .cut) {}

theorem stores_pushed (capacity : Nat) (ops : List QueueOp) :
    Stores (final (PosixMessageQueue capacity) ops {}) (pushed capacity ops) := by
  have h := (posix_queue_is_bounded_fifo capacity (ops.map .cut) fun op hop => ?_).2.1
  · simp only [final_map, posix_cut] at h
    rw [pushed, final_map]
    exact h
  · obtain ⟨o, -, rfl⟩ := List.mem_map.mp hop
    exact o.cut_fits

namespace NetworkLte.SendData

/-! ## What is sent -/

/-- The connection and the bytes of each `udp_send`, oldest first. -/
def sent : List Entry → List (Nat × Str)
  | [] => []
  | .exchange (.other (.udp_send conn_id data)) _ :: l => sent l ++ [(conn_id, data)]
  | _ :: l => sent l

/-- The connection of the message is connected over UDP. -/
def deliverable (n : Net) (msg : QueueMessage) : Bool :=
  match slot msg.cid with
  | none => false
  | some k => (n.serverInfo k).state = .connected ∧ (n.serverInfo k).protocol.view = "UDP".toList

def deliveries (n : Net) (msgs : Fifo) : List (Nat × Str) :=
  (msgs.filter (deliverable n)).map fun msg => (msg.cid, msg.data)

/-- `v` is `w` after some of the messages of `w` went out as `out`. -/
structure Sends (w v : World) (out : List (Nat × Str)) : Prop where
  serverInfo : v.net.serverInfo = w.net.serverInfo
  rx : v.net.data.message_queue_.rx = w.net.data.message_queue_.rx
  sent : sent v.log = sent w.log ++ out

theorem Sends.trans {w v u : World} {xs ys : List (Nat × Str)} (h : Sends w v xs) (h' : Sends v u ys) :
    Sends w u (xs ++ ys) where
  serverInfo := h'.serverInfo.trans h.serverInfo
  rx := h'.rx.trans h.rx
  sent := by rw [h'.sent, h.sent, List.append_assoc]

theorem deliveries_congr {n m : Net} (h : m.serverInfo = n.serverInfo) (msgs : Fifo) :
    deliveries m msgs = deliveries n msgs := by
  have hd : deliverable m = deliverable n := by
    funext msg
    unfold deliverable
    rw [h]
  rw [deliveries, deliveries, hd]

theorem deliveries_cons (n : Net) (msg : QueueMessage) (msgs : Fifo) :
    deliveries n (msg :: msgs) = deliveries n [msg] ++ deliveries n msgs := by
  cases h : deliverable n msg <;> simp [deliveries, h]

theorem udp_send_run (k : Conn) (data : Str) (w : World) :
    ∃ s v, xE310.udp_send k data w = (some s, v) ∧ Sends w v [(k.id, data)] ∧
      v.net.data.message_queue_ = w.net.data.message_queue_ := by
  have hs : ((w.env w.clock).moves.foldl Net.move w.net).serverInfo = w.net.serverInfo :=
    Net.moves_keep Net.move_serverInfo _ _
  have hq := Payloads.moves_message_queue (w.env w.clock).moves w.net
  exact ⟨_, _, rfl, ⟨hs, congrArg MessageQueue.rx hq, rfl⟩, hq⟩

theorem send_message_run (msg : QueueMessage) (w : World) :
    ∃ v, send_message msg w = (some (), v) ∧ Sends w v (deliveries w.net [msg]) ∧
      v.net.data.message_queue_ = w.net.data.message_queue_ := by
  have nothing (h : deliverable w.net msg = false) : Sends w w (deliveries w.net [msg]) :=
    ⟨rfl, rfl, by simp [deliveries, h]⟩
  unfold send_message
  rw [Prog.bind_of (ServerConnect.net_run w)]
  cases hk : slot msg.cid with
  | none => exact ⟨w, rfl, nothing (by simp [deliverable, hk]), rfl⟩
  | some k =>
    dsimp only
    by_cases hc : (w.net.serverInfo k).state = .connected ∧ (w.net.serverInfo k).protocol.view = "UDP".toList
    · obtain ⟨s, v, hv, hs, hq⟩ := udp_send_run k msg.data w
      have hid : msg.cid = Conn.id k := slot_eq_some hk
      have hd : deliverable w.net msg = true := by
        simp [deliverable, hk, hc]
      refine ⟨v, ?_, ?_, hq⟩
      · rw [if_pos hc, Prog.bind_of hv]
        rfl
      · simpa [deliveries, hd, hid] using hs
    · refine ⟨w, by rw [if_neg hc]; rfl, nothing ?_, rfl⟩
      simpa [deliverable, hk] using hc

theorem tx_pop_next_run {w : World} {msg : QueueMessage} {msgs : Fifo}
    (hq : InStep w.net.data.message_queue_.tx (msg :: msgs)) :
    ∃ v, tx_pop_next w = (some (some msg), v) ∧ Sends w v [] ∧ InStep v.net.data.message_queue_.tx msgs := by
  obtain ⟨ho, hn⟩ := hq.pop_next
  let v : World := { w with net.data.message_queue_.tx := w.net.data.message_queue_.tx.pop_next_from.2 }
  have hv : tx_pop_next w = (some w.net.data.message_queue_.tx.pop_next_from.1.2, v) := rfl
  refine ⟨v, ?_, ⟨rfl, rfl, (List.append_nil _).symm⟩, hn⟩
  rw [hv, ho]
  rfl

/-- By induction on the messages that are left. -/
theorem send_messages_run {msgs : Fifo} {w : World} (hq : InStep w.net.data.message_queue_.tx msgs) :
    ∃ v, send_messages msgs.length w = (some (), v) ∧ Sends w v (deliveries w.net msgs) ∧
      InStep v.net.data.message_queue_.tx [] := by
  induction msgs generalizing w with
  | nil => exact ⟨w, rfl, ⟨rfl, rfl, (List.append_nil _).symm⟩, hq⟩
  | cons msg msgs ih =>
    obtain ⟨u, hu, hpop, hrest⟩ := tx_pop_next_run hq
    obtain ⟨t, ht, hsend, hsame⟩ := send_message_run msg u
    obtain ⟨v, hv, hdone, hempty⟩ := ih (w := t) (by rw [hsame]; exact hrest)
    refine ⟨v, ?_, ?_, hempty⟩
    · rw [List.length_cons, send_messages, Prog.bind_of hu]
      dsimp only
      rw [Prog.bind_of ht, hv]
    · have hall := hpop.trans (hsend.trans hdone)
      rw [deliveries_congr hpop.serverInfo, deliveries_congr (hsend.serverInfo.trans hpop.serverInfo)] at hall
      rw [deliveries_cons]
      exact hall

/-! ## The action -/

def withQueue (q : MessageQueue) (w : World) : World := { w with net.data.message_queue_ := q }

/-- In `data_ready` the action sends the messages of the connections that are connected over UDP, in the order in which
they were pushed, and empties the queue. Elsewhere it does nothing. -/
theorem send_data_drains (capacity : Nat) (ops : List QueueOp) (fuel : Nat) (w : World) :
    let v := withQueue (final (PosixMessageQueue capacity) ops {}) w
    let out := perform fuel .send_data v
    out.1 = some .nothing ∧
      if w.net.state_ = .data_ready then
        Requested.Drained out.2.net.data.message_queue_.tx ∧
          out.2.net.data.message_queue_.rx = v.net.data.message_queue_.rx ∧
          sent out.2.log = sent w.log ++ deliveries w.net (pushed capacity ops).tx
      else out.2 = v := by
  intro v out
  have hq : InStep v.net.data.message_queue_.tx (pushed capacity ops).tx := (stores_pushed capacity ops).tx
  by_cases hs : w.net.state_ = .data_ready
  · obtain ⟨u, hu, hsend, hempty⟩ := send_messages_run hq
    have hready : ¬ v.net.state_ ≠ .data_ready := not_not.mpr hs
    have hrun : send_data v = (some .nothing, u) := by
      unfold send_data
      rw [Prog.bind_of (ServerConnect.net_run v), if_neg hready, hq.splits.length_order, Prog.bind_of hu]
      rfl
    have hout : out = (some .nothing, u) := hrun
    rw [hout, if_pos hs]
    refine ⟨rfl, ?_, hsend.rx, hsend.sent⟩
    exact Requested.Queued.drained (n := u.net) (l := []) ⟨[], rfl, hempty⟩
  · have hready : v.net.state_ ≠ .data_ready := hs
    have hrun : send_data v = (some .nothing, v) := by
      unfold send_data
      rw [Prog.bind_of (ServerConnect.net_run v), if_pos hready]
      rfl
    have hout : out = (some .nothing, v) := hrun
    rw [hout, if_neg hs]
    exact ⟨rfl, rfl⟩

end NetworkLte.SendData

end LteModem
