import LteModem.NetworkLte.Machine

/-!
# The calls (`network_lte.cpp`) and their runs

A run is any sequence of calls in any surroundings. It ends where a call is cut off.
-/

open Strings

namespace LteModem.NetworkLte

/-! ## Network -/

def network_connect (fuel : Nat) : Prog World Bool := do
  let n ← net
  .when n.fWarmBoot do
    let _ ← xE310.send (.other .network_detach)
  let n ← net
  if n.state_ = .gnss_fix_mode ∨ n.state_ = .transparent_mode ∨ n.state_ = .modem_fota ∨ n.state_ = .done then
    pure false
  else if n.state_ = .data_ready then pure true
  else do
    let _ ← go_to_state .data_ready fuel
    let n ← net
    pure (n.state_ = .data_ready)

def network_disconnect : Prog World Bool := do
  let status ← xE310.send (.other .network_detach)
  if status = .ok then do
    change_state .network_detached
    pure true
  else pure true

def enter_sleep (fuel : Nat) : Prog World Bool := do
  let n ← net
  if n.state_ ≠ .sleep_mode ∧ n.state_ ≠ .off_mode ∧ n.state_ ≠ .switched_off then do
    let _ ← go_to_state .sleep_mode fuel
    let n ← net
    pure (n.state_ = .sleep_mode ∨ n.state_ = .off_mode ∨ n.state_ = .switched_off)
  else pure true

/-! ## Servers -/

def new_connection (k : Conn) (protocol ip port : Str) : Prog World Unit :=
  update_server k fun _ =>
    { state := .disconnected
      protocol := .ofView _ protocol
      address := .ofView _ ip
      port := (atoi (cstr (port.take 7)) % 2 ^ 16).toNat }

/-- The end of `server_connect`: the answer to `AT#SD`, if there was one. -/
def server_open (k : Conn) (protocol ip : Str) (port : Nat) : Prog World (Option ModemStatus) :=
  if protocol = "UDP".toList then do
    let status ← xE310.udp_open k ip port
    if status ≠ .ok then do
      let _ ← xE310.udp_close k
      pure (some status)
    else do
      update_server k fun _ =>
        { state := .connected, protocol := .ofView _ protocol, address := .ofView _ ip, port }
      pure (some status)
  else pure none

def server_connect (k : Conn) (protocol ip : Str) (port : Nat) : Prog World Bool := do
  let n ← net
  if n.state_ ≠ .data_ready ∧ n.state_ ≠ .sleep_mode then pure false
  else if n.state_ = .data_ready then do
    let conn_state ← xE310.udp_status k 0
    let state := ServerState.ofUInt8 conn_state.2
    update_server k ({ · with state })
    if state = .connected then pure true
    else if state = .suspended then do
      let status ← xE310.udp_close k
      if status ≠ .ok then pure false
      else do
        update_server k ({ · with state := .connected })
        let opened ← server_open k protocol ip port
        record (.resumed opened)
        pure (opened = some .ok)
    else if state = .dns_resolving ∨ state = .connecting then pure false
    else do
      let opened ← server_open k protocol ip port
      pure (opened = some .ok)
  else pure false

def server_disconnect (k : Conn) : Prog World Bool := do
  let n ← net
  if (n.serverInfo k).state ≠ .connected then pure false
  else if (n.serverInfo k).protocol.view = "UDP".toList then do
    let status ← xE310.udp_close k
    if status ≠ .ok then pure false
    else do
      update_server k ({ · with state := .disconnected })
      pure true
  else pure false

def tx_write (conn_id : Nat) (data : Str) : Prog World QueueError := do
  let n ← net
  let out := n.data.message_queue_.tx.push_to DEFAULT_CAPACITY conn_id data
  updateData fun d => { d with message_queue_ := { d.message_queue_ with tx := out.2 } }
  pure out.1

def rx_read (conn_id : Nat) : Prog World (QueueError × Option QueueMessage) := do
  let n ← net
  let out := n.data.message_queue_.rx.pop_from conn_id
  updateData fun d => { d with message_queue_ := { d.message_queue_ with rx := out.2 } }
  pure out.1

/-! ## force_psm -/

/-- The network grants power saving: it is on, and at least one timer is not zero. -/
def Offer.grants (o : Offer) : Bool :=
  (o.stat = .registered_home || o.stat = .registered_roaming) &&
    match o.psm with
    | some (status, psm) => status = .ok && psm.mode ≠ .disable && !(psm.t3412 = 0 && psm.t3324 = 0)
    | none => false

def try_operator (op : Operator) : Prog World Offer := do
  let _ ← xE310.set_operator_manual op.numeric.view op.act
  let reg_info ← xE310.get_registration_status {} .unknown
  let stat := reg_info.2.stat
  if stat = .registered_home ∨ stat = .registered_roaming then do
    let psm ← xE310.get_telit_psm {}
    pure ⟨stat, some psm⟩
  else pure ⟨stat, none⟩

/-- The operators in turn, up to the first one that grants power saving. -/
def try_operators : List Operator → Prog World (List Offer)
  | [] => pure []
  | op :: ops => do
    let offer ← try_operator op
    if offer.grants then pure [offer]
    else do
      let offers ← try_operators ops
      pure (offer :: offers)

/-- As on entry to `data_ready`, whatever the state is by now. -/
def resume_state_timer (c : NetworkLteConfig) : Prog World TimerError :=
  if 0 < c.data_ready_timeout_sec then start_state_timer (c.data_ready_timeout_sec * 1000) true
  else start_state_timer UINT32_MAX false

def force_psm : Prog World Bool := do
  let n ← net
  if n.state_ ≠ .data_ready then pure false
  else do
    stop_state_timer
    set_urcs false
    let _ ← xE310.send (.other .disable_all_notifyev)
    let operators ← xE310.get_available_operators []
    let offers ← try_operators operators.2
    let m ← net
    record (.searched offers m)
    let attached := offers.any Offer.grants
    change_state (if attached then .data_ready else .idle_mode)
    let n ← net
    let _ ← resume_state_timer n.lteConfig
    set_urcs true
    let _ ← xE310.send (.other (.set_plmnsearchexh_notify true))
    pure attached

/-! ## Special modes -/

def enter_transparent_mode (fuel : Nat) : Prog World Bool := do
  let n ← net
  if n.state_ ≠ .transparent_mode then do
    let _ ← go_to_state .transparent_mode fuel
    let n ← net
    pure (n.state_ = .transparent_mode)
  else pure true

def exit_transparent_mode (fuel : Nat) : Prog World Bool := do
  let n ← net
  if n.state_ ≠ .transparent_mode then pure false
  else do
    let _ ← go_to_state .idle_mode fuel
    let n ← net
    pure (n.state_ ≠ .transparent_mode)

def leave_transparent_mode (fuel : Nat) : Prog World Bool := do
  let n ← net
  if n.state_ ≠ .transparent_mode then pure false
  else do
    call_action .leave_transparent_mode
    execute_actions fuel
    let n ← net
    pure (n.state_ ≠ .transparent_mode)

/-- The answer, or the text that the source puts in its place. -/
def send_at_command (command : Str) : Prog World (Bool × Str) := do
  let n ← net
  if n.state_ ≠ .transparent_mode then pure (false, "ERROR: Not in transparent mode".toList)
  else do
    let a ← exchange (.raw command)
    if a.status = .timeout then pure (false, "ERROR: Timeout".toList)
    else if a.status = .busy then pure (false, "ERROR: Busy".toList)
    else if a.status ≠ .ok then pure (false, "ERROR: Failed to send AT command".toList)
    else pure (true, a.body)

def update_modem (fuel : Nat) : Prog World Bool := do
  let n ← net
  .when (n.state_ ≠ .modem_fota) do
    let _ ← go_to_state .modem_fota fuel
  let n ← net
  if n.state_ ≠ .modem_fota then pure false
  else do
    set_fColdBoot true
    let _ ← go_to_state .setup_mode fuel
    pure true

def wait_for_fix : Nat → Prog World Unit
  | 0 => .cutOff
  | fuel + 1 => do
    let n ← net
    if n.state_ = .gnss_fix_mode then do
      let _ ← loop fuel .none
      wait_for_fix fuel
    else pure ()

def acquire_gnss_position (fuel : Nat) : Prog World (Option GnssPosition) := do
  let n ← net
  .when (n.state_ ≠ .gnss_fix_mode) do
    let _ ← go_to_state .gnss_fix_mode fuel
  let n ← net
  if n.state_ ≠ .gnss_fix_mode then pure none
  else do
    wait_for_fix fuel
    let n ← net
    pure (if n.data.gnssPosition.fix.valid then some n.data.gnssPosition else none)

/-! ## Queries -/

def refresh_clock : Prog World ModemStatus := do
  let n ← net
  let clock ← xE310.get_clock n.data.modemClock
  updateData fun d => { d with modemClock := clock.2 }
  pure clock.1

def scan_networks (start_ch end_ch : Nat) : Prog World Bool := do
  let n ← net
  let result ← xE310.scan_networks start_ch end_ch n.data.csurvResult
  updateData fun d => { d with csurvResult := result.2 }
  pure (result.1 = .ok)

def pop_trace : Prog World (Option NetworkTraceEntry) := do
  let n ← net
  updateData fun d => { d with trace_buffer_ := d.trace_buffer_.tail }
  pure n.data.trace_buffer_.head?

/-! ## Runs -/

/-- A call whose result does not matter. -/
def void {α : Type} (m : Prog World α) : Prog World Unit := do
  let _ ← m

def Call.exec (fuel : Nat) : Call → Prog World Unit
  | .loop target_state => void (NetworkLte.loop fuel target_state)
  | .network_connect => void (NetworkLte.network_connect fuel)
  | .network_disconnect => void NetworkLte.network_disconnect
  | .new_connection k protocol ip port => NetworkLte.new_connection k protocol ip port
  | .server_connect k protocol ip port => void (NetworkLte.server_connect k protocol ip port)
  | .server_disconnect k => void (NetworkLte.server_disconnect k)
  | .tx_write conn_id data => void (NetworkLte.tx_write conn_id data)
  | .rx_read conn_id => void (NetworkLte.rx_read conn_id)
  | .force_psm => void NetworkLte.force_psm
  | .enter_sleep => void (NetworkLte.enter_sleep fuel)
  | .enter_transparent_mode => void (NetworkLte.enter_transparent_mode fuel)
  | .exit_transparent_mode => void (NetworkLte.exit_transparent_mode fuel)
  | .leave_transparent_mode => void (NetworkLte.leave_transparent_mode fuel)
  | .send_at_command command => void (NetworkLte.send_at_command command)
  | .update_modem => void (NetworkLte.update_modem fuel)
  | .acquire_gnss_position => void (NetworkLte.acquire_gnss_position fuel)
  | .refresh_clock => void NetworkLte.refresh_clock
  | .scan_networks start_ch end_ch => void (NetworkLte.scan_networks start_ch end_ch)
  | .set_config config => set_lteConfig config
  | .set_network_attempts n => updateData fun d => { d with nNetworkAttempts := n }
  | .set_attach_retries n => updateData fun d => { d with nAttachRetries := n }
  | .set_pdp_retries n => updateData fun d => { d with nPdpRetries := n }
  | .start_timer timeout_ms => void (NetworkLte.start_timer timeout_ms)
  | .stop_timer => void NetworkLte.stop_timer
  | .reset_timer timeout_ms => void (NetworkLte.reset_timer timeout_ms)
  | .pop_trace => void NetworkLte.pop_trace
  | .call_action action => NetworkLte.call_action action

def run (fuel : Nat) : List Call → Prog World Unit
  | [] => pure ()
  | c :: calls => do
    let n ← net
    record (.called c n)
    c.exec fuel
    run fuel calls

theorem run_cons (fuel : Nat) (c : Call) (calls : List Call) (w : World) :
    run fuel (c :: calls) w = (do c.exec fuel; run fuel calls) { w with log := .called c w.net :: w.log } :=
  rfl

theorem run_append {fuel : Nat} {calls : List Call} {w v : World} (h : run fuel calls w = (some (), v))
    (more : List Call) : run fuel (calls ++ more) w = run fuel more v := by
  induction calls generalizing w with
  | nil =>
    obtain rfl : w = v := by simpa [run] using h
    rfl
  | cons c calls ih =>
    rw [run_cons, Prog.bind_run] at h
    rw [List.cons_append, run_cons, Prog.bind_run]
    rcases hc : c.exec fuel { w with log := .called c w.net :: w.log } with ⟨_ | _, t⟩
    · simp [hc] at h
    · simp only [hc] at h ⊢
      exact ih h

theorem run_append_final (fuel : Nat) (calls more : List Call) (w : World) :
    (run fuel (calls ++ more) w).2 = (run fuel calls w).2 ∨
      (run fuel (calls ++ more) w).2 = (run fuel more (run fuel calls w).2).2 := by
  rcases h : run fuel calls w with ⟨_ | _, v⟩
  · left
    induction calls generalizing w with
    | nil => simp [run] at h
    | cons c calls ih =>
      rw [run_cons, Prog.bind_run] at h
      rw [List.cons_append, run_cons, Prog.bind_run]
      rcases hc : c.exec fuel { w with log := .called c w.net :: w.log } with ⟨_ | _, t⟩
      · simp only [hc] at h ⊢
        exact congrArg Prod.snd h
      · simp only [hc] at h ⊢
        exact ih t h
  · right
    rw [run_append h]

/-- A fresh machine, with or without a timer of its own. -/
def initial (config : NetworkLteConfig) (with_timer : Bool) (env : Nat → Tick) : World where
  net := { lteConfig := config, timer_ := if with_timer then some {} else none }
  env

/-- Surroundings in which every command succeeds, with an answer or a line at some of the ticks. -/
def script (answers lines : List (Nat × String)) : Nat → Tick := fun i =>
  { body := .ofView _ ((answers.lookup i).getD "").toList
    urcs := (lines.lookup i).toList.map (·.toList) }

def firstServer : Call := .server_connect ⟨0, by decide⟩ "UDP".toList "10.0.0.1".toList 7000

end LteModem.NetworkLte
