import LteModem.Hal.SocketQueue
import LteModem.NetworkLte.Urcs

/-!
# A requested action is executed

`call_action` writes the one slot `modem_action_`, and so do the batch, the events and the actions
themselves. A request of `send_data` empties the queue at the end of the next `loop`, unless one of
them takes the slot first.
-/

open Prog Strings

set_option synthInstance.maxSize 100000

namespace LteModem.NetworkLte.Requested

/-- The events that leave the state `data_ready` and the requested action alone. -/
def leaves (t : Taken) (h : Heard) : Bool :=
  match t.event with
  | .none | .data_available | .context_rejected => true
  | .gps_available => h ≠ .fix true
  | .timeout => t.after.lteConfig.data_ready_timeout_sec = 0
  | _ => false

/-- No registration is reported, and the event taken calls for nothing else. -/
def undisturbed : Entry → Bool
  | .polled urcs => urcs.all fun urc => readUrc urc ≠ .registered
  | .handled t h => leaves t h
  | _ => true

def Undisturbed (e : Entry) : Prop := undisturbed e = true

instance : DecidablePred Undisturbed := fun e => inferInstanceAs (Decidable (undisturbed e = true))

/-! ## The queue -/

def Drained (l : Lane) : Prop := l.order = [] ∧ ∀ i, l.queues i = []

/-- The queues and the order of TX are in step, and `A` holds of the number of messages. -/
def Queued (A : Nat → Prop) (n : Net) (_ : List Entry) : Prop :=
  ∃ msgs : Fifo, A msgs.length ∧ InStep n.data.message_queue_.tx msgs

abbrev Kept : Net → List Entry → Prop := Queued fun _ => True
abbrev Sent : Net → List Entry → Prop := Queued (· = 0)

theorem Queued.drained {n : Net} {l : List Entry} (h : Sent n l) : Drained n.data.message_queue_.tx := by
  obtain ⟨msgs, hm, hq⟩ := h
  obtain rfl := List.length_eq_zero_iff.mp hm
  refine ⟨List.length_eq_zero_iff.mp hq.splits.length_order, fun i => ?_⟩
  simp [hq.splits.queues_eq]

section Queue

variable {G : Entry → Prop} {X : World → Prop} {A : Nat → Prop}

theorem Queued.same {n m : Net} {l k : List Entry} (hd : Same n.data m.data) (h : Queued A n l) : Queued A m k := by
  unfold Queued
  rw [hd.tx]
  exact h

instance : Addressless (Queued A) := ⟨fun _ _ _ h => h, fun _ _ h => h⟩
instance : Uncounted (Queued A) := ⟨fun _ _ _ h => h⟩
instance : Unflagged (Queued A) := ⟨fun _ _ _ _ h => h⟩
instance : Restarting (Queued A) := ⟨fun _ _ h => h⟩
instance : Fixless (Queued A) := ⟨fun _ _ _ h => h⟩
instance : Untimed (Queued A) := ⟨fun _ _ _ _ h => h⟩

instance : Free G (Queued A) where
  move n _ m h := h.same (move_same n m)
  data _ _ _ hd h := h.same hd
  last_status _ _ _ h := h
  other _ _ _ _ _ _ h := h
  prompt _ _ _ _ _ _ h := h
  cold _ _ _ h := h
  warm _ _ _ h := h
  config _ _ _ h := h
  reset _ _ h := h
  action _ _ _ _ h := h
  event _ _ _ _ h := h
  urc _ _ _ _ _ _ h := h
  cfun _ _ _ _ _ _ h := h
  ran _ _ _ _ _ _ h := h
  polled _ _ _ _ h := h
  loopEnd _ _ _ _ h := h
  called _ _ _ _ _ h := h

instance : Timeless G (Queued A) where
  st_timer _ _ _ h := h
  timer _ _ _ h := h
  started _ _ _ _ h := h

instance (cmd : AtCmd) : Preserves (Under G (Queued A)) (exchange cmd) X := exchange_preserves fun _ _ _ _ h => h
instance (t : Taken) (h : Heard) : Preserves (Under G (Queued A)) (record (.handled t h)) X :=
  ⟨triple_record fun _ _ _ h => h⟩
instance (s : NetworkLteState) : Preserves (Under G (Queued A)) (change_state s) X :=
  ⟨triple_post (fun _ _ _ h => h.2) (triple_change_state_in (fun _ _ h => h) fun _ _ _ h => h)⟩

theorem tx_pop_next_spec {B : Nat → Prop} (h0 : A 0 → B 0) (h1 : ∀ k, A (k + 1) → B k) :
    Triple (Under G (Queued A)) tx_pop_next
      (fun msg => Under G fun n l => (msg = none → A 0) ∧ Queued B n l) X := by
  refine Triple.bind triple_net fun c => ?_
  refine Triple.bind (Q := fun _ => Under G fun n l =>
    (c.data.message_queue_.tx.pop_next_from.1.2 = none → A 0) ∧ Queued B n l) (triple_updateNet ?_) fun _ =>
    triple_pure fun _ _ h => h
  rintro n l ⟨rfl, msgs, hm, hq⟩
  obtain ⟨ho, hn⟩ := hq.pop_next
  rw [ho]
  cases msgs with
  | nil => exact ⟨fun _ => hm, [], h0 hm, hn⟩
  | cons msg msgs => exact ⟨nofun, msgs, h1 _ hm, hn⟩

instance : Preserves (Under G Kept) tx_pop_next X :=
  ⟨triple_post (fun _ _ _ h => h.2) (tx_pop_next_spec id fun _ _ => trivial)⟩
instance : Preserves (Under G Sent) tx_pop_next X :=
  ⟨triple_post (fun _ _ _ h => h.2) (tx_pop_next_spec (B := (· = 0)) id nofun)⟩

theorem send_messages_spec (count : Nat) :
    Triple (Under G (Queued (· = count))) (send_messages count) (fun _ => Under G Sent) X := by
  induction count with
  | zero => exact triple_pure fun _ _ h => h
  | succ count ih =>
    refine Triple.bind (tx_pop_next_spec (B := (· = count)) nofun fun _ => Nat.succ.inj) fun msg => ?_
    cases msg with
    | none => exact triple_absurd fun _ _ h => nomatch h.1 rfl
    | some msg =>
      refine triple_pre (fun _ _ h => h.2) ?_
      exact Triple.bind (Preserves.out (m := send_message msg)) fun _ => ih

theorem send_data_spec :
    Triple (Under G (In (· = .data_ready) Kept)) send_data (fun _ => Under G Sent) X := by
  refine Triple.bind triple_net fun c => Triple.ite (fun hc => ?_) fun _ => ?_
  · refine triple_absurd ?_
    rintro _ l ⟨rfl, hs, -⟩
    exact hc hs
  · refine triple_pre ?_ (Triple.bind (send_messages_spec _) fun _ => triple_pure fun _ _ h => h)
    rintro n l ⟨rfl, -, msgs, -, hq⟩
    exact ⟨msgs, hq.splits.length_order.symm, hq⟩

theorem push_to_take (l : Lane) (capacity conn_id : Nat) (data : Str) :
    l.push_to capacity conn_id (data.take MAX_MSG_DATA) = l.push_to capacity conn_id data := by
  simp [Lane.push_to, List.take_take]

instance (conn_id : Nat) (data : Str) : Preserves (Under G Kept) (tx_write conn_id data) X := by
  refine ⟨Triple.bind triple_net fun c => ?_⟩
  refine Triple.bind (Q := fun _ => Under G Kept) (triple_updateNet ?_) fun _ => triple_pure fun _ _ h => h
  rintro n l ⟨rfl, msgs, -, hq⟩
  have hd : (data.take MAX_MSG_DATA).length ≤ MAX_MSG_DATA := List.length_take_le _ _
  have hp := (hq.push DEFAULT_CAPACITY conn_id hd).2
  rw [push_to_take] at hp
  exact ⟨_, trivial, hp⟩

end Queue

/-! ## The run before the request -/

section Before

variable {G : Entry → Prop} {X : World → Prop} {A : Nat → Prop}

instance (offers : List Offer) (n : Net) : Preserves (Under G (Queued A)) (record (.searched offers n)) X :=
  ⟨triple_record fun _ _ _ h => h⟩
instance (opened : Option ModemStatus) : Preserves (Under G (Queued A)) (record (.resumed opened)) X :=
  ⟨triple_record fun _ _ _ h => h⟩
instance (k : Conn) (f : ServerInfo → ServerInfo) : Preserves (Under G (Queued A)) (update_server k f) X :=
  ⟨triple_updateNet fun _ _ h => h⟩
instance : Preserves (Under G (Queued A)) force_psm X := by
  unfold force_psm
  infer_instance

theorem run_kept (fuel : Nat) (calls : List Call) : Preserves (Under G Kept) (run fuel calls) := by
  refine run_preserves fuel (fun c => ?_) calls
  have := exec_preserves (G := G) (P := Kept) (X := Under G Kept) fuel c (fun _ _ => inferInstance)
    (fun _ _ => inferInstance) (fun _ => inferInstance) (fun _ _ => inferInstance) fun _ _ => inferInstance
  infer_instance

end Before

/-! ## The loop after the request -/

section Loop

variable {X : World → Prop}

structure Asked (n : Net) (l : List Entry) : Prop where
  state : n.state_ = .data_ready
  action : n.modem_action_ = .send_data
  queue : Kept n l

instance : Stable Undisturbed Asked where
  move n _ m h := ⟨by simpa using h.state, by simpa using h.action, h.queue.same (move_same n m)⟩
  data _ _ _ hd h := ⟨h.state, h.action, h.queue.same hd⟩
  other _ _ _ _ _ _ h := ⟨h.state, h.action, h.queue⟩
  prompt _ _ _ _ _ _ h := ⟨h.state, h.action, h.queue⟩

instance (e : NetworkLteEvent) : Preserves (Under Undisturbed Asked) (on_event e) X := by
  have : Preserves (Under Undisturbed Asked) (updateNet (Net.on_event e)) X :=
    ⟨triple_updateNet fun n l h => ⟨h.state, h.action, h.queue.same (on_event_same e n)⟩⟩
  unfold on_event
  infer_instance

instance : Preserves (Under Undisturbed Asked) poll_urc X := by
  refine poll_urc_preserves (fun urcs hg => ?_) (fun _ _ _ h => ⟨h.state, h.action, h.queue⟩) fun e _ => inferInstance
  simpa [Undisturbed, undisturbed] using hg

instance : Preserves (Under Undisturbed Asked) check_last_status X := by
  unfold check_last_status
  infer_instance

theorem handle_event_spec (t : Taken) :
    Triple (Under Undisturbed fun n l => n = t.after ∧ Asked n l) (handle_event t.event)
      (fun h => Under Undisturbed fun n l => leaves t h = true → Asked n l) X := by
  obtain ⟨e, stamp, dropped, after⟩ := t
  have hasked : ∀ n l, n = after ∧ Asked n l → Asked n l := fun _ _ h => h.2
  have (cmd : AtCmd) : Preserves (Under Undisturbed Asked) (exchange cmd) X :=
    exchange_preserves fun _ _ _ _ h => ⟨h.state, h.action, h.queue⟩
  cases e
  case none => exact triple_pure fun n l h _ => h.2
  case context_rejected => exact triple_pure fun n l h _ => h.2
  case data_available =>
    exact triple_pre hasked (triple_post (fun _ _ _ h _ => h) (Preserves.out (m := receive_data)))
  case gps_available =>
    refine triple_pre hasked (Triple.bind (Preserves.out (m := xE310.ask _ _)) fun pos => ?_)
    refine Triple.ite (fun _ => ?_) fun _ => triple_pure fun _ _ h _ => h
    refine Triple.bind (Q := fun _ => Under Undisturbed Whatever) (triple_whatever fun _ _ _ => trivial) fun _ => ?_
    refine Triple.bind (Q := fun _ => Under Undisturbed Whatever) (triple_whatever fun _ _ _ => trivial) fun _ => ?_
    exact triple_pure fun _ _ _ hf => absurd hf (by simp [leaves])
  case timeout =>
    refine Triple.bind (Q := fun _ => Under Undisturbed fun n l =>
      after.lteConfig.data_ready_timeout_sec = 0 → Asked n l) ?_ fun _ => triple_pure ?_
    · refine Triple.bind triple_net fun c => Triple.ite (fun _ => triple_pure fun _ _ h _ => h.2.2) fun hc => ?_
      -- the machine is in `data_ready`, so the timeout is not zero
      refine triple_pre (P := fun n l => after.lteConfig.data_ready_timeout_sec ≠ 0 ∧ Whatever n l) ?_
        (triple_fact fun h0 => triple_whatever fun _ _ _ h => absurd h h0)
      rintro n l ⟨rfl, rfl, h⟩
      exact ⟨fun h0 => hc ⟨h.state, h0⟩, trivial⟩
    · exact fun n l h hl => h (of_decide_eq_true hl)
  all_goals exact triple_whatever fun _ _ _ h => absurd h (by simp [leaves])

instance : Preserves (Under Undisturbed Asked) process_event X := by
  refine ⟨Triple.bind (triple_take_event ?_) fun t => Triple.bind (handle_event_spec t) fun h => triple_record ?_⟩
  · exact fun _ _ h => ⟨h.state, h.action, h.queue⟩
  · intro n l hg hn
    have ha := hn hg
    exact ⟨ha.state, ha.action, ha.queue⟩

end Loop

theorem execute_actions_asked (fuel : Nat) :
    Triple (Under Undisturbed Asked) (execute_actions fuel) (fun _ => Under Undisturbed Sent)
      (Under Undisturbed Sent) := by
  refine Triple.bind (triple_get_action (R := fun a n l => a = .send_data ∧ In (· = .data_ready) Kept n l) ?_)
    fun a => ?_
  · exact fun n l h => ⟨h.action, h.state, h.queue⟩
  · refine triple_fact ?_
    rintro rfl
    refine Triple.bind (Preserves.out (m := net)) fun n => ?_
    exact Triple.bind send_data_spec fun h => Preserves.out

theorem loop_asked (fuel : Nat) :
    Triple (Under Undisturbed Asked) (loop fuel .none) (fun _ => Under Undisturbed Sent)
      (Under Undisturbed Sent) := by
  refine Triple.bind (Preserves.out (m := poll_urc)) fun _ => ?_
  refine Triple.bind (Preserves.out (m := check_last_status)) fun _ => ?_
  refine Triple.bind (Preserves.out (m := process_event)) fun _ => ?_
  refine Triple.bind (Preserves.out (m := net)) fun n => Triple.ite (fun h => absurd rfl h.2) fun _ => ?_
  exact Triple.bind (execute_actions_asked fuel) fun _ => Preserves.out

theorem request_spec (fuel : Nat) :
    Triple (Under Undisturbed (In (· = .data_ready) Kept)) (run fuel [.call_action .send_data, .loop])
      (fun _ => Under Undisturbed Sent) (Under Undisturbed Sent) := by
  have h (n : Net) : Preserves (Under Undisturbed Asked) (record (.called .loop n)) (Under Undisturbed Sent) :=
    ⟨triple_record fun _ _ _ h => ⟨h.state, h.action, h.queue⟩⟩
  refine Triple.bind (Preserves.out (m := net)) fun n => Triple.bind (Preserves.out (m := record _)) fun _ => ?_
  refine Triple.bind (Q := fun _ => Under Undisturbed Asked) (triple_updateNet ?_) fun _ => ?_
  · exact fun n l h => ⟨h.1, rfl, h.2⟩
  · refine Triple.bind (Preserves.out (m := net)) fun n => Triple.bind (h n).out fun _ => ?_
    refine Triple.bind ?_ fun _ => triple_pure fun _ _ h => h
    exact Triple.bind (loop_asked fuel) fun _ => triple_pure fun _ _ h => h

/-- What is sent stays sent: only `tx_write` fills the queue. -/
theorem run_loop_sent (fuel : Nat) : Preserves (Under (fun _ => True) Sent) (run fuel [.loop]) := by
  have : Preserves (Under (fun _ => True) Sent) (Call.loop.exec fuel) := by
    unfold Call.exec void
    infer_instance
  unfold run run
  infer_instance

/-- The data is gone after the first of the two loops already. -/
theorem requested_data_is_sent (config : NetworkLteConfig) (with_timer : Bool) (env : Nat → Tick) (fuel : Nat)
    (before : List Call) :
    let w := (run fuel before (initial config with_timer env)).2
    let v := (run fuel [.call_action .send_data, .loop] { w with log := [] }).2
    let u := (run fuel [.call_action .send_data, .loop, .loop] { w with log := [] }).2
    w.net.state_ = .data_ready → (∀ e ∈ v.log, Undisturbed e) → Drained u.net.data.message_queue_.tx := by
  intro w v u hs hv
  have hw : Kept w.net w.log := (run_kept (G := fun _ => True) fuel before).final
    (s := initial config with_timer env) (fun _ => ⟨[], trivial, .empty⟩) fun _ _ => trivial
  have hsent : Sent v.net v.log := (request_spec fuel).final (fun _ => ⟨hs, hw⟩) hv
  have hu : Sent u.net u.log := by
    rcases run_append_final fuel [.call_action .send_data, .loop] [.loop] { w with log := [] } with h | h
    · have h : u = v := h
      rw [h]
      exact hsent
    · have h : u = (run fuel [.loop] v).2 := h
      rw [h]
      exact (run_loop_sent fuel).final (fun _ => hsent) fun _ _ => trivial
  exact hu.drained

/-- A network that takes the modem in at once and sends a batch at tick 43. -/
def online (urcs : List Str) : Nat → Tick := fun i =>
  { body := .ofView _ "+CEREG: 0,1,1,1".toList, urcs := if i = 43 then urcs else [] }

def write : List Call :=
  [.network_connect, firstServer, .tx_write 1 "hello".toList]

theorem requested_data_is_sent_rejected :
    let w := (run 9 write (initial {} false (online ["+CGEV: REJECT".toList]))).2
    let u := (run 9 [.call_action .send_data, .loop, .loop] { w with log := [] }).2
    w.net.data.message_queue_.tx.count 1 = 1 ∧ u.net.state_ = .data_ready ∧ Drained u.net.data.message_queue_.tx :=
  ⟨by decide +kernel, by decide +kernel, requested_data_is_sent _ _ _ _ _ (by decide +kernel) (by decide +kernel)⟩

/-- The report of the registration replaces the request, and nothing brings it back. -/
theorem registration_loses_request :
    let w := (run 9 write (initial {} false (online ["+CEREG: 1".toList]))).2
    let u := (run 9 [.call_action .send_data, .loop, .loop] { w with log := [] }).2
    (w.net.state_ = .data_ready ∧ w.net.data.message_queue_.tx.count 1 = 1) ∧
      u.net.state_ = .data_ready ∧ u.net.data.message_queue_.tx.count 1 = 1 := by
  decide +kernel

end LteModem.NetworkLte.Requested
