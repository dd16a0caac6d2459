import LteModem.NetworkLte.SendData

/-!
# What becomes of the payloads (`tx_write`, `send_data`)

The log says which payloads were accepted, and which messages `send_data` took out of the queue. In every run, what
was accepted and not taken is in the queue, in its order, and what was taken is sent where its connection is up.
-/

open Prog Strings

set_option synthInstance.maxSize 100000

namespace LteModem

/-! ## The messages in a lane -/

def drain (queues : Fin MAX_CONNECTIONS → List QueueMessage) : List (Fin MAX_CONNECTIONS) → Fifo
  | [] => []
  | i :: order =>
    match queues i with
    | [] => []
    | msg :: rest => msg :: drain (Function.update queues i rest) order

/-- The messages in the order in which `pop_next_from` takes them. -/
def Lane.messages (l : Lane) : Fifo := drain l.queues l.order

theorem InStep.messages {l : Lane} {msgs : Fifo} (h : InStep l msgs) : l.messages = msgs := by
  induction msgs generalizing l with
  | nil =>
    have ho : l.order = [] := List.length_eq_zero_iff.mp h.splits.length_order
    rw [Lane.messages, ho, drain]
  | cons msg msgs ih =>
    obtain ⟨hout, hnext⟩ := h.pop_next
    unfold Lane.pop_next_from at hout hnext
    unfold Lane.messages
    rcases ho : l.order with _ | ⟨i, order⟩
    · simp only [ho, Fifo.pop_next, Prod.mk.injEq, reduceCtorEq, false_and] at hout
    · rcases hq : l.queues i with _ | ⟨m, rest⟩
      · simp only [ho, hq, Fifo.pop_next, Prod.mk.injEq, reduceCtorEq, false_and] at hout
      · simp only [ho, hq, Fifo.pop_next, Prod.mk.injEq, Option.some.injEq, true_and] at hout hnext
        rw [drain, hq, hout]
        exact congrArg _ (ih hnext)

namespace NetworkLte.Deliveries

open SendData

/-! ## What the log says -/

/-- The message that a call adds to the queue. -/
def acceptedBy (n : Net) : Call → Fifo
  | .tx_write conn_id data =>
    if (n.data.message_queue_.tx.push_to DEFAULT_CAPACITY conn_id data).1 = .ok then
      [⟨conn_id, data.take MAX_MSG_DATA⟩]
    else []
  | _ => []

/-- What `tx_write` accepted, oldest first. -/
def accepted : List Entry → Fifo
  | [] => []
  | .called c n :: l => accepted l ++ acceptedBy n c
  | _ :: l => accepted l

def takenBy (n : Net) : ModemAction → Fifo
  | .send_data => if n.state_ = .data_ready then n.data.message_queue_.tx.messages else []
  | _ => []

/-- What `send_data` took out of the queue. -/
def taken : List Entry → Fifo
  | [] => []
  | .ran a n _ :: l => taken l ++ takenBy n a
  | _ :: l => taken l

/-- What was taken for a connection that was connected over UDP. -/
def delivered : List Entry → List (Nat × Str)
  | [] => []
  | .ran a n _ :: l => delivered l ++ deliveries n (takenBy n a)
  | _ :: l => delivered l

/-- What was accepted is `msgs`, of which the queue holds what was not taken. -/
structure Ledger (msgs : Fifo) (n : Net) (l : List Entry) : Prop where
  queue : InStep n.data.message_queue_.tx n.data.message_queue_.tx.messages
  accepted : accepted l = msgs
  kept : msgs = taken l ++ n.data.message_queue_.tx.messages
  sent : sent l = delivered l

/-- Entries that say nothing about payloads. -/
def quiet : Entry → Bool
  | .exchange (.other (.udp_send _ _)) _ | .ran .send_data _ _ | .called (.tx_write _ _) _ => false
  | _ => true

theorem quiet_accepted {e : Entry} (h : quiet e = true) (l : List Entry) : Deliveries.accepted (e :: l) = accepted l := by
  cases e with
  | called c n => cases c <;> first | exact absurd h Bool.false_ne_true | exact List.append_nil _
  | _ => rfl

theorem quiet_taken {e : Entry} (h : quiet e = true) (l : List Entry) : taken (e :: l) = taken l := by
  cases e with
  | ran a n r => cases a <;> first | exact absurd h Bool.false_ne_true | exact List.append_nil _
  | _ => rfl

theorem quiet_delivered {e : Entry} (h : quiet e = true) (l : List Entry) : delivered (e :: l) = delivered l := by
  cases e with
  | ran a n r => cases a <;> first | exact absurd h Bool.false_ne_true | exact List.append_nil _
  | _ => rfl

theorem quiet_sent {e : Entry} (h : quiet e = true) (l : List Entry) : SendData.sent (e :: l) = SendData.sent l := by
  cases e with
  | exchange cmd a =>
    cases cmd with
    | other c => cases c <;> first | exact absurd h Bool.false_ne_true | rfl
    | _ => rfl
  | _ => rfl

variable {msgs : Fifo}

theorem Ledger.note {n : Net} {l : List Entry} {e : Entry} (h : Ledger msgs n l) (he : quiet e = true) :
    Ledger msgs n (e :: l) where
  queue := h.queue
  accepted := by rw [quiet_accepted he, h.accepted]
  kept := by rw [quiet_taken he, ← h.kept]
  sent := by rw [quiet_sent he, quiet_delivered he, h.sent]

theorem Ledger.same {n m : Net} {l : List Entry} (h : Ledger msgs n l)
    (hq : m.data.message_queue_.tx = n.data.message_queue_.tx) : Ledger msgs m l where
  queue := hq ▸ h.queue
  accepted := h.accepted
  kept := hq ▸ h.kept
  sent := h.sent

/-! ## Steps that concern no payload -/

abbrev Kept (msgs : Fifo) : World → Prop := Under Always (Ledger msgs)

theorem updateNet_keeps {f : Net → Net} (h : ∀ n, (f n).data.message_queue_.tx = n.data.message_queue_.tx) :
    Preserves (Kept msgs) (updateNet f) :=
  ⟨triple_updateNet fun n _ hn => hn.same (h n)⟩

theorem updateData_keeps {f : NetData → NetData} (h : ∀ d, (f d).message_queue_.tx = d.message_queue_.tx) :
    Preserves (Kept msgs) (updateData f) :=
  updateNet_keeps fun n => h n.data

theorem record_keeps {e : Entry} (h : quiet e = true) : Preserves (Kept msgs) (record e) :=
  ⟨triple_record fun _ _ _ hn => hn.note h⟩

instance : Still Always (Ledger msgs) where
  move n _ m h := h.same (move_same n m).tx
  data _ _ _ hd h := h.same hd.tx

theorem exchange_keeps {cmd : AtCmd} (h : ∀ a, quiet (.exchange cmd a) = true) : Preserves (Kept msgs) (exchange cmd) :=
  exchange_preserves fun _ _ a _ hn => (hn.note (h a)).same rfl

instance : Addressless (Ledger msgs) := ⟨fun _ _ _ h => h.same rfl, fun _ _ h => h.same rfl⟩
instance : Uncounted (Ledger msgs) := ⟨fun _ _ _ h => h.same rfl⟩
instance : Unflagged (Ledger msgs) := ⟨fun _ _ _ _ h => h.same rfl⟩
instance : Fixless (Ledger msgs) := ⟨fun _ _ _ h => h.same rfl⟩
instance : Untimed (Ledger msgs) := ⟨fun _ _ _ _ h => h.same rfl⟩

/-- All commands but the one that sends a payload. -/
@[reducible] def silent : Command → Bool
  | .udp_send _ _ => false
  | _ => true

instance {p : Prop} [Decidable p] {c d : Command} [hc : Holds (silent c)] [hd : Holds (silent d)] :
    Holds (silent (if p then c else d)) := by
  split
  · exact hc
  · exact hd

instance (c : Command) [hc : Holds (silent c)] : Preserves (Kept msgs) (exchange (.other c)) :=
  exchange_keeps fun _ => by
    have := hc.out
    cases c <;> first | rfl | exact absurd this Bool.false_ne_true

instance (i : Nat) : Preserves (Kept msgs) (exchange (.cfun i)) := exchange_keeps fun _ => rfl
instance : Preserves (Kept msgs) (exchange .reboot) := exchange_keeps fun _ => rfl
instance (s : Subscription) (b : Bool) : Preserves (Kept msgs) (exchange (.urc s b)) := exchange_keeps fun _ => rfl
instance (command : Str) : Preserves (Kept msgs) (exchange (.raw command)) := exchange_keeps fun _ => rfl
instance (id : Nat) : Preserves (Kept msgs) (exchange (.udp_status id)) := exchange_keeps fun _ => rfl
instance (id : Nat) : Preserves (Kept msgs) (exchange (.udp_close id)) := exchange_keeps fun _ => rfl
instance (id : Nat) (host : Str) (r p : Nat) : Preserves (Kept msgs) (exchange (.udp_open id host r p)) :=
  exchange_keeps fun _ => rfl

instance (a : ModemAction) : Preserves (Kept msgs) (call_action a) := updateNet_keeps fun _ => rfl
instance (b : Bool) : Preserves (Kept msgs) (set_fColdBoot b) := updateNet_keeps fun _ => rfl
instance (b : Bool) : Preserves (Kept msgs) (set_fWarmBoot b) := updateNet_keeps fun _ => rfl
instance (s : ModemStatus) : Preserves (Kept msgs) (set_last_status s) := updateNet_keeps fun _ => rfl
instance (c : NetworkLteConfig) : Preserves (Kept msgs) (set_lteConfig c) := updateNet_keeps fun _ => rfl
instance : Preserves (Kept msgs) reset_servers := updateNet_keeps fun _ => rfl
instance : Preserves (Kept msgs) clear_event := updateNet_keeps fun _ => rfl
instance (k : Conn) (f : ServerInfo → ServerInfo) : Preserves (Kept msgs) (update_server k f) := updateNet_keeps fun _ => rfl
instance (opened : Option ModemStatus) : Preserves (Kept msgs) (record (.resumed opened)) := record_keeps rfl
instance : Preserves (Kept msgs) get_event := by unfold get_event; infer_instance

instance (e : NetworkLteEvent) : Preserves (Kept msgs) (on_event e) := by
  have : Preserves (Kept msgs) (updateNet (Net.on_event e)) := updateNet_keeps fun n => (on_event_same e n).tx
  unfold on_event
  infer_instance

instance (t : Nat) (r : Bool) : Preserves (Kept msgs) (start_state_timer t r) :=
  ⟨triple_start_state_timer (Still.move Always) fun _ _ _ h => h.same rfl⟩
instance : Preserves (Kept msgs) stop_state_timer :=
  ⟨triple_stop_state_timer (Still.move Always) fun _ _ h => h.same rfl⟩
instance (ms : Nat) : Preserves (Kept msgs) (start_timer ms) := on_timer_preserves fun _ _ _ _ _ h => h.same rfl
instance : Preserves (Kept msgs) stop_timer := on_timer_preserves fun _ _ _ _ _ h => h.same rfl
instance (ms : Nat) : Preserves (Kept msgs) (reset_timer ms) := on_timer_preserves fun _ _ _ _ _ h => h.same rfl

/-! ## change_state -/

instance : Preserves (Kept msgs) xE310.get_iot_tech := by unfold xE310.get_iot_tech; infer_instance
instance (tech : RadioTech) : Preserves (Kept msgs) (xE310.set_iot_tech tech) := by
  unfold xE310.set_iot_tech; infer_instance

instance : Preserves (Kept msgs) refresh_info := by
  have (clock : FixedString MODEM_SHORT_STR) (sq : SignalQuality) (oper apn : FixedString MODEM_MEDIUM_STR) :
      Preserves (Kept msgs) (updateData fun d =>
        { d with
          modemClock := clock
          signalQuality := sq
          regInfo := { d.regInfo with operator_name := oper, apn } }) :=
    updateData_keeps fun _ => rfl
  unfold refresh_info
  infer_instance

instance (prev : NetworkLteState) : Preserves (Kept msgs) (leave_state prev) := by unfold leave_state; infer_instance

instance (s : NetworkLteState) : Preserves (Kept msgs) (enter_timer s) := by
  have (e : TimerError) : Preserves (Kept msgs) (record (.started e)) := record_keeps rfl
  refine ⟨Triple.bind (Preserves.out (m := net)) fun n => ?_⟩
  rcases entryTimer n.lteConfig s with _ | ⟨timeout_ms, raises⟩ <;> exact Preserves.out

instance (s : NetworkLteState) : Preserves (Kept msgs) (enter_state s) := by unfold enter_state; infer_instance

instance (s : NetworkLteState) : Preserves (Kept msgs) (change_state s) := by
  have : Preserves (Kept msgs) (updateNet (Net.enter s)) := updateNet_keeps fun _ => rfl
  have (n : Net) : Preserves (Kept msgs) (record (.left n)) := record_keeps rfl
  unfold change_state set_state
  infer_instance

/-! ## The actions -/

instance (status : ModemStatus) : Preserves (Kept msgs) (check_status_response status) := by
  unfold check_status_response; infer_instance
instance : Preserves (Kept msgs) reboot := by unfold reboot; infer_instance

instance (fuel : Nat) : Preserves (Kept msgs) (check_responsiveness fuel) := by
  induction fuel with
  | zero => unfold check_responsiveness; infer_instance
  | succ fuel ih => unfold check_responsiveness; infer_instance

instance : Preserves (Kept msgs) power_on := by
  have : Preserves (Kept msgs) (updateData fun d => { d with nNetworkAttempts := 0 }) := updateData_keeps fun _ => rfl
  unfold power_on
  infer_instance

instance : Preserves (Kept msgs) power_off := by unfold power_off; infer_instance
instance : Preserves (Kept msgs) turn_on_radio := by unfold turn_on_radio; infer_instance
instance : Preserves (Kept msgs) switch_off_radio := by unfold switch_off_radio; infer_instance
instance : Preserves (Kept msgs) enter_sleep_action := by unfold enter_sleep_action; infer_instance
instance : Preserves (Kept msgs) wake_up := by unfold wake_up; infer_instance
instance (b : Bool) : Preserves (Kept msgs) (set_urcs b) := by unfold set_urcs; infer_instance
instance (n : Net) : Preserves (Kept msgs) (set_changed_bands n) := by unfold set_changed_bands; infer_instance
instance (n : Net) : Preserves (Kept msgs) (set_changed_rat n) := by unfold set_changed_rat; infer_instance
instance (c : NetworkLteConfig) : Preserves (Kept msgs) (apply_boot_configuration c) := by
  unfold apply_boot_configuration; infer_instance
instance : Preserves (Kept msgs) setup_radio := by unfold setup_radio; infer_instance

instance : Preserves (Kept msgs) query_network_status := by
  have (r : RegistrationInfo) : Preserves (Kept msgs) (updateData fun d => { d with regInfo := r }) :=
    updateData_keeps fun _ => rfl
  unfold query_network_status
  infer_instance

instance (cid : Nat) (apn : FixedString MODEM_MEDIUM_STR) (tech : RadioTech) (bands : Nat) :
    Preserves (Kept msgs) (check_attach cid apn tech bands) := by
  have (apn : FixedString MODEM_MEDIUM_STR) :
      Preserves (Kept msgs) (updateData fun d => { d with regInfo := { d.regInfo with apn } }) :=
    updateData_keeps fun _ => rfl
  unfold check_attach
  infer_instance

instance : Preserves (Kept msgs) start_attach := by unfold start_attach; infer_instance
instance : Preserves (Kept msgs) attach_network := by unfold attach_network; infer_instance
instance : Preserves (Kept msgs) query_pdp_context := by unfold query_pdp_context; infer_instance
instance : Preserves (Kept msgs) open_pdp_context := by unfold open_pdp_context; infer_instance
instance : Preserves (Kept msgs) read_data := by unfold read_data; infer_instance
instance : Preserves (Kept msgs) enter_transparent_mode_action := by unfold enter_transparent_mode_action; infer_instance
instance : Preserves (Kept msgs) leave_transparent_mode_action := by unfold leave_transparent_mode_action; infer_instance
instance (b : Bool) : Preserves (Kept msgs) (xE310.set_gnss_power b) := by unfold xE310.set_gnss_power; infer_instance
instance (b : Bool) : Preserves (Kept msgs) (switch_on_gnss b) := by unfold switch_on_gnss; infer_instance
instance : Preserves (Kept msgs) enter_gnss_fix := by unfold enter_gnss_fix; infer_instance
instance : Preserves (Kept msgs) leave_gnss_fix := by unfold leave_gnss_fix; infer_instance

theorem perform_keeps (fuel : Nat) {a : ModemAction} (h : a ≠ .send_data) : Preserves (Kept msgs) (perform fuel a) := by
  cases a
  case send_data => exact absurd rfl h
  all_goals
    unfold perform
    infer_instance

/-! ## send_data -/

/-- The books of the log as they were. -/
structure Noted (w v : World) : Prop where
  accepted : accepted v.log = accepted w.log
  taken : taken v.log = taken w.log
  delivered : delivered v.log = delivered w.log

/-- Commands and answers are not in the books. -/
def As (w : World) (_ : Net) (l : List Entry) : Prop := Noted w { w with log := l }

instance (w : World) : Blind (As w) := ⟨fun _ _ _ h => h⟩

instance (w : World) : Stable Always (As w) where
  move _ _ _ h := h
  data _ _ _ _ h := h
  other _ _ _ _ _ _ h := ⟨h.accepted, h.taken, h.delivered⟩
  prompt _ _ _ _ _ _ h := ⟨h.accepted, h.taken, h.delivered⟩

theorem send_messages_noted (count : Nat) (w : World) : Noted w (send_messages count w).2 :=
  have h : Preserves (Under Always (As w)) (send_messages count) := inferInstance
  have hn := h.final (s := w) (fun _ => ⟨rfl, rfl, rfl⟩) fun _ _ => trivial
  ⟨hn.accepted, hn.taken, hn.delivered⟩

theorem send_data_ledger {w : World} (h : Ledger msgs w.net w.log) :
    ∃ v, send_data w = (some .nothing, v) ∧ Ledger msgs v.net (.ran .send_data w.net .nothing :: v.log) := by
  unfold send_data
  rw [Prog.bind_of (ServerConnect.net_run w)]
  by_cases hs : w.net.state_ = .data_ready
  · obtain ⟨v, hv, hsend, hempty⟩ := send_messages_run h.queue
    have hnoted : Noted w v := by
      have := send_messages_noted w.net.data.message_queue_.tx.messages.length w
      rwa [hv] at this
    have htaken : takenBy w.net .send_data = w.net.data.message_queue_.tx.messages := if_pos hs
    refine ⟨v, ?_, ?_, hnoted.accepted.trans h.accepted, ?_, ?_⟩
    · rw [if_neg (not_not.mpr hs), h.queue.splits.length_order, Prog.bind_of hv]
      rfl
    · rw [hempty.messages]
      exact hempty
    · rw [hempty.messages, List.append_nil]
      change msgs = taken v.log ++ takenBy w.net .send_data
      rw [hnoted.taken, htaken, ← h.kept]
    · change SendData.sent v.log = delivered v.log ++ deliveries w.net (takenBy w.net .send_data)
      rw [hsend.sent, hnoted.delivered, htaken, h.sent]
  · have htaken : takenBy w.net .send_data = [] := if_neg hs
    refine ⟨w, by rw [if_pos hs]; rfl, h.queue, h.accepted, ?_, ?_⟩
    · change msgs = taken w.log ++ takenBy w.net .send_data ++ _
      rw [htaken, List.append_nil]
      exact h.kept
    · change SendData.sent w.log = delivered w.log ++ deliveries w.net (takenBy w.net .send_data)
      rw [htaken]
      exact h.sent.trans (List.append_nil _).symm

instance (fuel : Nat) : Preserves (Kept msgs) (execute_actions fuel) := by
  refine ⟨Triple.bind (triple_get_action (R := fun _ => Ledger msgs) fun _ _ h => h.same rfl) fun a => ?_⟩
  by_cases ha : a = .send_data
  · subst ha
    intro w hw
    obtain ⟨v, hv, hl⟩ := send_data_ledger (hw fun _ _ => trivial)
    rw [Prog.bind_of (ServerConnect.net_run w), Prog.bind_of (show perform fuel .send_data w = _ from hv)]
    exact fun _ => hl
  · have (n : Net) (h : Heard) : Preserves (Kept msgs) (record (.ran a n h)) :=
      record_keeps (by cases a <;> first | rfl | exact absurd rfl ha)
    have : Preserves (Kept msgs) (perform fuel a) := perform_keeps fuel ha
    exact Preserves.out

/-! ## tx_write -/

theorem tx_write_ledger {w : World} (conn_id : Nat) (data : Str) (h : Ledger msgs w.net w.log) :
    ∃ v, tx_write conn_id data { w with log := .called (.tx_write conn_id data) w.net :: w.log } =
        (some (w.net.data.message_queue_.tx.push_to DEFAULT_CAPACITY conn_id data).1, v) ∧
      Ledger (msgs ++ acceptedBy w.net (.tx_write conn_id data)) v.net v.log := by
  have hpush := h.queue.push DEFAULT_CAPACITY conn_id (List.length_take_le MAX_MSG_DATA data)
  rw [Requested.push_to_take] at hpush
  obtain ⟨herr, hnext⟩ := hpush
  refine ⟨_, rfl, ?_, ?_, ?_, h.sent⟩
  · change InStep (w.net.data.message_queue_.tx.push_to DEFAULT_CAPACITY conn_id data).2
      (w.net.data.message_queue_.tx.push_to DEFAULT_CAPACITY conn_id data).2.messages
    rw [hnext.messages]
    exact hnext
  · change accepted w.log ++ acceptedBy w.net (.tx_write conn_id data) = _
    rw [h.accepted]
  · change msgs ++ acceptedBy w.net (.tx_write conn_id data) =
      taken w.log ++ (w.net.data.message_queue_.tx.push_to DEFAULT_CAPACITY conn_id data).2.messages
    have hlast : w.net.data.message_queue_.tx.messages ++ acceptedBy w.net (.tx_write conn_id data) =
        (Fifo.push DEFAULT_CAPACITY conn_id (data.take MAX_MSG_DATA) w.net.data.message_queue_.tx.messages).2 := by
      rw [acceptedBy, herr, Fifo.push]
      split_ifs <;> simp_all
    rw [hnext.messages, ← hlast, ← List.append_assoc, ← h.kept]

/-! ## The other calls -/

instance (e : NetworkLteEvent) : Preserves (Kept msgs) (handle_event e) := by
  have (s : NetworkLteState) : Preserves (Kept msgs) (call_action (timeoutAction s)) := inferInstance
  unfold handle_event on_timeout on_detached take_fix
  cases e <;> infer_instance

instance (urcs : List Str) : Preserves (Kept msgs) (handle_urcs urcs) := by
  have (urc : Str) : Preserves (Kept msgs) (handle_urc urc) := by
    have (id : Nat) : Preserves (Kept msgs) (updateData fun d => { d with last_data_conn_id_ := id }) :=
      updateData_keeps fun _ => rfl
    exact handle_urc_preserves urc fun _ _ => inferInstance
  infer_instance

instance (fuel : Nat) (target : NetworkLteState) : Preserves (Kept msgs) (loop fuel target) := by
  have (urcs : List Str) : Preserves (Kept msgs) (record (.polled urcs)) := record_keeps rfl
  have (t : Taken) (h : Heard) : Preserves (Kept msgs) (record (.handled t h)) := record_keeps rfl
  have (n : Net) : Preserves (Kept msgs) (record (.loopEnd n)) := record_keeps rfl
  unfold loop poll_urc check_last_status process_event end_loop
  infer_instance

instance (target : NetworkLteState) (fuel : Nat) : Preserves (Kept msgs) (go_to_state target fuel) := by
  have (target state : NetworkLteState) : Preserves (Kept msgs) (call_towards target state) := by
    unfold call_towards
    cases towards target state <;> infer_instance
  induction fuel with
  | zero => unfold go_to_state; infer_instance
  | succ fuel ih => unfold go_to_state; infer_instance

instance (fuel : Nat) : Preserves (Kept msgs) (wait_for_fix fuel) := by
  induction fuel with
  | zero => unfold wait_for_fix; infer_instance
  | succ fuel ih => unfold wait_for_fix; infer_instance

instance : Preserves (Kept msgs) force_psm := by
  have (op : Operator) : Preserves (Kept msgs) (try_operator op) := by unfold try_operator; infer_instance
  have (ops : List Operator) : Preserves (Kept msgs) (try_operators ops) := by
    induction ops with
    | nil => unfold try_operators; infer_instance
    | cons op ops ih => unfold try_operators; infer_instance
  have (offers : List Offer) (n : Net) : Preserves (Kept msgs) (record (.searched offers n)) := record_keeps rfl
  unfold force_psm resume_state_timer
  infer_instance

instance (fuel : Nat) : Preserves (Kept msgs) (network_connect fuel) := by unfold network_connect; infer_instance
instance : Preserves (Kept msgs) network_disconnect := by unfold network_disconnect; infer_instance
instance (fuel : Nat) : Preserves (Kept msgs) (enter_sleep fuel) := by unfold enter_sleep; infer_instance
instance (fuel : Nat) : Preserves (Kept msgs) (enter_transparent_mode fuel) := by
  unfold enter_transparent_mode; infer_instance
instance (fuel : Nat) : Preserves (Kept msgs) (exit_transparent_mode fuel) := by
  unfold exit_transparent_mode; infer_instance
instance (fuel : Nat) : Preserves (Kept msgs) (leave_transparent_mode fuel) := by
  unfold leave_transparent_mode; infer_instance
instance (command : Str) : Preserves (Kept msgs) (send_at_command command) := by unfold send_at_command; infer_instance
instance (fuel : Nat) : Preserves (Kept msgs) (update_modem fuel) := by unfold update_modem; infer_instance
instance (fuel : Nat) : Preserves (Kept msgs) (acquire_gnss_position fuel) := by
  unfold acquire_gnss_position; infer_instance

theorem exec_keeps (fuel : Nat) {c : Call} (h : ∀ conn_id data, c ≠ .tx_write conn_id data) :
    Preserves (Kept msgs) (c.exec fuel) := by
  have (n : Nat) : Preserves (Kept msgs) (updateData fun d => { d with nNetworkAttempts := n }) := updateData_keeps fun _ => rfl
  have (n : Nat) : Preserves (Kept msgs) (updateData fun d => { d with nPdpRetries := n }) := updateData_keeps fun _ => rfl
  cases c
  case tx_write conn_id data => exact absurd rfl (h conn_id data)
  all_goals
    unfold Call.exec
    first | infer_instance | (unfold void; infer_instance)

/-! ## Runs -/

/-- The books are kept, whatever was accepted. -/
def Books (w : World) : Prop := Ledger (accepted w.log) w.net w.log

theorem Kept.books {w : World} (h : Kept msgs w) : Books w := by
  have hl := h fun _ _ => trivial
  rw [Books, hl.accepted]
  exact hl

theorem call_books (fuel : Nat) (c : Call) :
    Triple Books (do let n ← net; record (.called c n); c.exec fuel) (fun _ => Books) Books := by
  by_cases h : ∃ conn_id data, c = .tx_write conn_id data
  · obtain ⟨conn_id, data, rfl⟩ := h
    intro w hw
    obtain ⟨v, hv, hl⟩ := tx_write_ledger conn_id data hw
    have hrun : (do let n ← net; record (.called (.tx_write conn_id data) n); (Call.tx_write conn_id data).exec fuel :
        Prog World Unit) w = (some (), v) := by
      rw [Prog.bind_of (ServerConnect.net_run w)]
      change void (tx_write conn_id data) _ = _
      rw [void, Prog.bind_of hv]
      rfl
    rw [hrun]
    exact Kept.books fun _ => hl
  · simp only [not_exists] at h
    have hkeep (msgs : Fifo) : Preserves (Kept msgs) (do let n ← net; record (.called c n); c.exec fuel) := by
      have : Preserves (Kept msgs) (c.exec fuel) := exec_keeps fuel h
      have (n : Net) : Preserves (Kept msgs) (record (.called c n)) :=
        record_keeps (by cases c <;> first | rfl | exact absurd rfl (h _ _))
      infer_instance
    intro w hw
    have hend := (hkeep (accepted w.log)).out w fun _ => hw
    rcases hr : (do let n ← net; record (.called c n); c.exec fuel : Prog World Unit) w with ⟨_ | a, v⟩ <;>
      rw [hr] at hend <;> exact Kept.books hend

theorem run_books (fuel : Nat) (calls : List Call) : Preserves Books (run fuel calls) := by
  induction calls with
  | nil => exact ⟨fun _ h => h⟩
  | cons c calls ih =>
    have hrun : run fuel (c :: calls) =
        (do let n ← net; record (.called c n); c.exec fuel) >>= fun _ => run fuel calls := rfl
    rw [hrun]
    exact ⟨Triple.bind (call_books fuel c) fun _ => ih.out⟩

theorem delivered_sublist (l : List Entry) : (delivered l).Sublist ((taken l).map fun msg => (msg.cid, msg.data)) := by
  have hsome : ∀ (n : Net) (msgs : Fifo), (deliveries n msgs).Sublist (msgs.map fun msg => (msg.cid, msg.data)) :=
    fun n msgs => List.filter_sublist.map _
  induction l with
  | nil => exact List.Sublist.refl []
  | cons e l ih =>
    cases e with
    | ran a n h =>
      rw [delivered, taken, List.map_append]
      exact ih.append (hsome n _)
    | _ => exact ih

/-- In every run, what `tx_write` accepted is what `send_data` took and then, in its order, what the queue still
holds. What was sent is what was taken for a connection that was up, so nothing else is ever sent, and nothing twice
or out of order. -/
theorem payloads_conserved (config : NetworkLteConfig) (with_timer : Bool) (env : Nat → Tick) (fuel : Nat)
    (calls : List Call) :
    let w := (run fuel calls (initial config with_timer env)).2
    accepted w.log = taken w.log ++ w.net.data.message_queue_.tx.messages ∧ SendData.sent w.log = delivered w.log ∧
      (SendData.sent w.log).Sublist ((accepted w.log).map fun msg => (msg.cid, msg.data)) := by
  intro w
  have h : Books w := (run_books fuel calls).final (s := initial config with_timer env)
    ⟨InStep.empty, rfl, rfl, rfl⟩
  refine ⟨h.kept, h.sent, ?_⟩
  rw [h.kept, h.sent, List.map_append]
  exact (delivered_sublist w.log).trans (List.sublist_append_left _ _)

/-- The second payload is taken for a connection that is not up, and the third one waits. -/
example :
    let w := (run 6 [.network_connect, firstServer, .tx_write 1 ['a'], .tx_write 2 ['b'], .call_action .send_data,
      .loop, .tx_write 1 ['c']] (initial {} false
        (script [(25, "+CEREG: 0,1"), (31, "#SGACT: 1,1"), (32, "+CGPADDR: 1,\"10.0.0.7\"")] []))).2
    taken w.log = [⟨1, ['a']⟩, ⟨2, ['b']⟩] ∧ SendData.sent w.log = [(1, ['a'])] ∧
      w.net.data.message_queue_.tx.messages = [⟨1, ['c']⟩] := by
  decide +kernel

end NetworkLte.Deliveries

end LteModem
