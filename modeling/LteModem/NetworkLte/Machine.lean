import LteModem.NetworkLte.World

/-!
# The state machine (`network_lte.cpp`)

`fuel` bounds the two loops that need not end, `go_to_state` and the one of `check_responsiveness`.
-/

open Strings

namespace LteModem.NetworkLte

/-! ## change_state -/

/-- The timeout of the state timer on entry to a state, and whether its callback raises the timeout event. -/
def entryTimer (c : NetworkLteConfig) : NetworkLteState → Option (Nat × Bool)
  | .network_attaching => some (c.attach_timeout_sec * 1000, true)
  | .pdp_context_opening => some (c.pdp_timeout_sec * 1000, true)
  | .data_ready =>
    if 0 < c.data_ready_timeout_sec then some (c.data_ready_timeout_sec * 1000, true)
    else some (UINT32_MAX, false)
  | .transparent_mode => some (c.transparent_timeout_sec * 1000, true)
  | .sleep_mode | .off_mode => some (UINT32_MAX, false)
  | .gnss_fix_mode => some (c.gps_timeout_sec * 1000, true)
  | _ => none

def set_state (s : NetworkLteState) : Prog World Unit := do
  let t ← tick
  updateNet (Net.stamp t.now)
  updateNet (Net.enter s)

def leave_state (prev : NetworkLteState) : Prog World Unit :=
  if prev.timed then do
    let elapsed ← state_timer_elapsed
    updateData fun d => { d with stateTimers_ := d.stateTimers_.add elapsed prev }
    stop_state_timer
  else pure ()

/-- What the machine asks for on entry to `data_ready`. -/
def refresh_info : Prog World Unit := do
  let n ← net
  let clock ← xE310.get_clock n.data.modemClock
  let sq ← xE310.get_signal_quality n.data.signalQuality
  let oper ← xE310.get_operator n.data.regInfo.operator_name
  let apn ← xE310.get_apn n.lteConfig.cid n.data.regInfo.apn
  let _ ← xE310.get_telit_psm {}
  updateData fun d =>
    { d with
      modemClock := clock.2
      signalQuality := sq.2
      regInfo := { d.regInfo with operator_name := oper.2, apn := apn.2 } }

def enter_timer (s : NetworkLteState) : Prog World Unit := do
  let n ← net
  match entryTimer n.lteConfig s with
  | none => pure ()
  | some (timeout_ms, raises) => do
    let e ← start_state_timer timeout_ms raises
    record (.started e)

def enter_state (s : NetworkLteState) : Prog World Unit := do
  .when (s = .data_ready) refresh_info
  enter_timer s
  if s = .network_detached then do
    updateData fun d => { d with ip_address := .empty _, context_state := .inactive }
    reset_servers
    call_action .attach_network
  else if s = .pdp_context_closed then do
    updateData fun d => { d with ip_address := .empty _ }
    reset_servers
    call_action .open_pdp_context
  else pure ()

def change_state (s : NetworkLteState) : Prog World Unit := do
  let n ← net
  if s = n.state_ then pure ()
  else do
    set_state s
    leave_state n.state_
    let m ← net
    record (.left m)
    enter_state s

/-! ## handle_urc -/

def trim_sv (s : Str) : Str := strip [' ', '\t', '\r'] s

def is_uint_sv (s : Str) : Bool := s ≠ [] && s.all isDigit

/-- `<stat>`, or the second of two numbers that look like `<n>,<stat>`. -/
def registrationStat (payload : Str) : Int :=
  let f := (fieldsToEnd 8 payload).map trim_sv
  let first := atoi (f.getD 0 [])
  let second := atoi (f.getD 1 [])
  if is_uint_sv (f.getD 0 []) then
    if is_uint_sv (f.getD 1 []) ∧ 0 ≤ first ∧ first ≤ 5 ∧ 0 ≤ second ∧ second ≤ 10 then second else first
  else -1

/-- `%STATEV:` and `NO CARRIER` change nothing. -/
def handle_urc (urc : Str) : Prog World Unit :=
  if urc.take 6 = "+CREG:".toList ∨ urc.take 7 = "+CEREG:".toList then
    let stat := registrationStat ((cut ':' urc).2.getD [])
    if stat = 1 ∨ stat = 5 then do
      call_action .query_pdp_context
      updateData fun d => { d with nAttachRetries := 0 }
    else pure ()
  else if urc.take 6 = "+CGEV:".toList then
    let ev := (urc.drop 6).dropWhile (· = ' ')
    if ev.take 8 = "NW_DEACT".toList ∨ ev.take 8 = "ME DEACT".toList then on_event .context_closed
    else if ev.take 9 = "NW_DETACH".toList ∨ ev.take 9 = "ME_DETACH".toList ∨ ev.take 9 = "ME DETACH".toList then
      on_event .network_detached
    else if ev.take 6 = "REJECT".toList then on_event .context_rejected
    else pure ()
  else if urc.take 8 = "%STATEV:".toList then pure ()
  else if urc.take 8 = "#PSMURC:".toList then on_event .psm_enter
  else if urc.take 25 = "%NOTIFYEV:\"PLMNSEARCHEXH\"".toList then on_event .network_detached
  else if urc.take 6 = "SRING:".toList then
    let id := (urc.drop 6).dropWhile (· = ' ')
    if id = [] then pure ()
    else do
      updateData fun d => { d with last_data_conn_id_ := toUInt8 (atoi (cstr id)) }
      on_event .data_available
  else if urc.take 7 = "$GPGSA,".toList then on_event .gps_available
  else pure ()

def handle_urcs : List Str → Prog World Unit
  | [] => pure ()
  | urc :: urcs => do
    handle_urc urc
    handle_urcs urcs

/-! ## The actions -/

def check_status_response (status : ModemStatus) : Prog World Bool :=
  if status = .ok then pure true
  else if status = .timeout then do
    on_event .at_command_no_response
    pure false
  else pure false

def reboot : Prog World Heard := do
  let status ← xE310.send .reboot
  let ok ← check_status_response status
  if ok then do
    change_state .rebooting
    call_action .power_on
    pure (.status status)
  else pure (.status status)

def check_responsiveness : Nat → Prog World Heard
  | 0 => .cutOff
  | fuel + 1 => do
    let status ← xE310.send (.other .at_ok)
    if status ≠ .ok then check_responsiveness fuel
    else do
      change_state .idle_mode
      call_action .query_network_status
      pure .nothing

def power_on : Prog World Heard := do
  let _ ← xE310.send (.other (.set_baudrate 115200))
  let _ ← xE310.send (.other (.set_echo false))
  let status ← xE310.send (.other .at_ok)
  if status ≠ .ok then do
    change_state .switched_off
    pure (.status status)
  else do
    let _ ← xE310.send (.other (.set_echo false))
    change_state .idle_mode
    call_action .setup_radio
    set_fColdBoot true
    updateData fun d => { d with nNetworkAttempts := 0 }
    pure (.status status)

def power_off : Prog World Heard := do
  change_state .switched_off
  pure .nothing

def turn_on_radio : Prog World Heard := do
  change_state .idle_mode
  call_action .setup_radio
  pure .nothing

def switch_off_radio : Prog World Heard := do
  let n ← net
  if n.lteConfig.fCfunSleep then do
    let _ ← xE310.power_off_radio
    let _ ← xE310.shutdown
    change_state .off_mode
    pure .nothing
  else pure .nothing

def enter_sleep_action : Prog World Heard := do
  call_action .switch_off_radio
  pure .nothing

def wake_up : Prog World Heard := do
  let n ← net
  if n.prev_state_ = .data_ready then do
    change_state .data_ready
    call_action .query_network_status
    pure .nothing
  else do
    set_fWarmBoot true
    change_state .idle_mode
    call_action .setup_radio
    pure .nothing

/-- The four subscriptions in the order of the source. -/
def set_urcs (enable : Bool) : Prog World Unit := do
  let _ ← xE310.set_psm_urc enable
  let _ ← xE310.set_cell_state_urc enable
  let _ ← xE310.set_registration_urc enable
  let _ ← xE310.set_pdp_urc enable

def psmConfig (c : NetworkLteConfig) : TelitCpsmsConfig where
  mode := .enable
  fHasPeriodicTau := true
  req_periodic_tau := c.psm_t3412
  fHasActiveTime := true
  req_active_time := c.psm_t3324

def set_changed_bands (n : Net) : Prog World (Option ModemStatus) :=
  if n.data.fChangeBands then do
    updateData fun d => { d with fChangeBands := false }
    let status ← xE310.set_lte_bands
      (if n.data.nAttachRetries = 0 then n.lteConfig.default_lte_bands else n.lteConfig.fallback_lte_bands)
    pure (some status)
  else pure none

def set_changed_rat (n : Net) : Prog World (Option ModemStatus) :=
  if n.data.fChangeRAT then do
    updateData fun d => { d with fChangeRAT := false }
    let status ← xE310.set_iot_tech
      (if n.data.nAttachRetries = 0 then n.lteConfig.default_iot_tech else n.lteConfig.fallback_iot_tech)
    pure (some status)
  else pure none

/-- The configuration branch of `setup_radio`. -/
def apply_boot_configuration (c : NetworkLteConfig) : Prog World Unit := do
  set_fWarmBoot false
  set_fColdBoot false
  let _ ← xE310.send (.other (if c.fPsmEnable then .set_telit_psm (psmConfig c) else .disable_telit_psm))
  set_urcs true
  let _ ← xE310.send (.other (.set_plmnsearchexh_notify true))

def setup_radio : Prog World Heard := do
  let n ← net
  if n.data.fChangeBands ∨ n.data.fChangeRAT then do
    let bands ← set_changed_bands n
    let tech ← set_changed_rat n
    .when (bands = some .ok ∨ tech = some .ok) (call_action .reboot)
    pure (.setup bands tech)
  else do
    .when (n.fWarmBoot ∨ n.fColdBoot) (apply_boot_configuration n.lteConfig)
    change_state .idle_mode
    call_action .query_network_status
    pure .nothing

def query_network_status : Prog World Heard := do
  let n ← net
  let r ← xE310.get_registration_status n.data.regInfo .cat_m1
  updateData fun d => { d with regInfo := r.2 }
  let ok ← check_status_response r.1
  let stat := r.2.stat
  if !ok then pure (.registration r.1 stat)
  else if stat = .denied ∨ stat = .not_registered ∨ stat = .searching ∨ stat = .unknown then do
    change_state .network_detached
    pure (.registration r.1 stat)
  else if stat = .registered_home ∨ stat = .registered_roaming then do
    call_action .query_pdp_context
    pure (.registration r.1 stat)
  else pure (.registration r.1 stat)

/-- The checks of `attach_network` against one of the two configurations. -/
def check_attach (cid : Nat) (apn : FixedString MODEM_MEDIUM_STR) (tech : RadioTech) (bands : Nat) :
    Prog World Unit := do
  let n ← net
  let current ← xE310.get_apn cid n.data.regInfo.apn
  updateData fun d => { d with regInfo := { d.regInfo with apn := current.2 } }
  .when (current.1 = .ok ∧ current.2.view ≠ apn.view) do
    let _ ← xE310.send (.other (.set_apn cid apn.view))
  let current ← xE310.get_iot_tech
  .when (current.1 = .ok ∧ current.2 ≠ tech) <| updateData fun d => { d with fChangeRAT := true }
  let current ← xE310.get_bands {}
  .when (current.1 = .ok ∧ current.2.lte_mask ≠ bands) <| updateData fun d => { d with fChangeBands := true }

def count_attach : Prog World Unit :=
  updateData fun d => { d with nAttachRetries := (d.nAttachRetries + 1) % 2 ^ 8 }

/-- After the checks: another technology or other bands need a reboot first, and the attempt does not count. -/
def start_attach : Prog World Heard := do
  let n ← net
  if n.data.fChangeRAT ∨ n.data.fChangeBands then do
    call_action .setup_radio
    pure (.attach true)
  else do
    change_state .network_attaching
    let _ ← xE310.power_radio
    count_attach
    pure (.attach false)

def attach_network : Prog World Heard := do
  let _ ← xE310.power_off_radio
  let n ← net
  let c := n.lteConfig
  if n.data.nAttachRetries = 0 then do
    check_attach c.cid c.default_apn c.default_iot_tech c.default_lte_bands
    start_attach
  else if n.data.nAttachRetries < c.max_attach_retries then do
    check_attach c.cid c.fallback_apn c.fallback_iot_tech c.fallback_lte_bands
    start_attach
  else do
    on_event .attach_error
    count_attach
    pure .nothing

def query_pdp_context : Prog World Heard := do
  let n ← net
  let pdp ← xE310.get_pdp_state n.lteConfig.cid false
  if pdp.1 ≠ .ok then pure (.pdp pdp.1 pdp.2 .ok)
  else if !pdp.2 then do
    change_state .pdp_context_closed
    call_action .open_pdp_context
    pure (.pdp pdp.1 pdp.2 .ok)
  else do
    let ip ← xE310.get_ip_address n.lteConfig.cid n.data.ip_address
    updateData fun d => { d with ip_address := ip.2 }
    if ip.1 ≠ .ok then pure (.pdp pdp.1 pdp.2 ip.1)
    else do
      change_state .data_ready
      pure (.pdp pdp.1 pdp.2 ip.1)

def open_pdp_context : Prog World Heard := do
  let n ← net
  let status ← xE310.send (.other (.activate_pdp n.lteConfig.cid))
  if status = .ok then do
    change_state .data_ready
    pure (.status status)
  else pure (.status status)

/-- `tx_pop_next`. -/
def tx_pop_next : Prog World (Option QueueMessage) := do
  let n ← net
  let out := n.data.message_queue_.tx.pop_next_from
  updateData fun d => { d with message_queue_ := { d.message_queue_ with tx := out.2 } }
  pure out.1.2

def send_message (msg : QueueMessage) : Prog World Unit := do
  let n ← net
  match slot msg.cid with
  | none => pure ()
  | some k =>
    if (n.serverInfo k).state = .connected ∧ (n.serverInfo k).protocol.view = "UDP".toList then do
      let _ ← xE310.udp_send k msg.data
    else pure ()

/-- Each round takes one message out of the queue, so `count` rounds for `count` messages empty it. -/
def send_messages : Nat → Prog World Unit
  | 0 => pure ()
  | count + 1 => do
    let msg ← tx_pop_next
    match msg with
    | none => pure ()
    | some msg => do
      send_message msg
      send_messages count

def send_data : Prog World Heard := do
  let n ← net
  if n.state_ ≠ .data_ready then pure .nothing
  else do
    send_messages n.data.message_queue_.tx.order.length
    pure .nothing

def read_data : Prog World Heard := do
  let n ← net
  let _ ← xE310.udp_receive n.lteConfig.conn_id []
  pure .nothing

def enter_transparent_mode_action : Prog World Heard := do
  change_state .transparent_mode
  set_urcs false
  let _ ← xE310.send (.other .disable_all_notifyev)
  pure .nothing

def leave_transparent_mode_action : Prog World Heard := do
  set_urcs true
  let _ ← xE310.send (.other (.set_plmnsearchexh_notify true))
  change_state .idle_mode
  call_action .query_network_status
  pure .nothing

def switch_on_gnss (powered : Bool) : Prog World ModemStatus :=
  if powered then pure .ok else xE310.set_gnss_power true

def enter_gnss_fix : Prog World Heard := do
  set_urcs false
  let _ ← xE310.power_off_radio
  let powered ← xE310.is_gnss_powered
  let status ← switch_on_gnss powered.2
  if status ≠ .ok then do
    call_action .leave_gnss_fix
    pure (.status status)
  else do
    change_state .gnss_fix_mode
    let _ ← xE310.send (.other (.set_gnss_urc true))
    pure (.status status)

def leave_gnss_fix : Prog World Heard := do
  let _ ← xE310.set_gnss_power false
  let _ ← xE310.send (.other (.set_gnss_urc false))
  change_state .idle_mode
  call_action .query_network_status
  pure .nothing

def perform (fuel : Nat) : ModemAction → Prog World Heard
  | .none | .factory_reset | .data_complete => pure .nothing
  | .reboot => reboot
  | .check_responsiveness => check_responsiveness fuel
  | .power_on => power_on
  | .power_off => power_off
  | .turn_on_radio => turn_on_radio
  | .switch_off_radio => switch_off_radio
  | .enter_sleep => enter_sleep_action
  | .wake_up => wake_up
  | .setup_radio => setup_radio
  | .query_network_status => query_network_status
  | .query_pdp_context => query_pdp_context
  | .attach_network => attach_network
  | .open_pdp_context => open_pdp_context
  | .send_data => send_data
  | .read_data => read_data
  | .enter_transparent_mode => enter_transparent_mode_action
  | .leave_transparent_mode => leave_transparent_mode_action
  | .enter_gnss_fix => enter_gnss_fix
  | .leave_gnss_fix => leave_gnss_fix

def execute_actions (fuel : Nat) : Prog World Unit := do
  let action ← get_action
  let n ← net
  let h ← perform fuel action
  record (.ran action n h)

/-! ## The events -/

def receive_data : Prog World Heard := do
  let n ← net
  let conn := if 0 < n.data.last_data_conn_id_ then n.data.last_data_conn_id_ else n.lteConfig.conn_id
  let buf ← xE310.udp_receive conn []
  if buf.1 = .ok ∧ buf.2 ≠ [] then do
    updateData fun d =>
      { d with message_queue_ :=
        { d.message_queue_ with rx := (d.message_queue_.rx.push_to DEFAULT_CAPACITY conn buf.2).2 } }
    pure .nothing
  else pure .nothing

def take_fix : Prog World Heard := do
  let pos ← xE310.get_gnss_position {}
  if pos.2.fix.valid then do
    updateData fun d => { d with gnssPosition := pos.2 }
    call_action .leave_gnss_fix
    pure (.fix true)
  else pure (.fix false)

def timeoutAction : NetworkLteState → ModemAction
  | .data_ready => .enter_sleep
  | .transparent_mode => .leave_transparent_mode
  | .gnss_fix_mode => .leave_gnss_fix
  | _ => .attach_network

def on_timeout : Prog World Unit := do
  let n ← net
  if n.state_ = .data_ready ∧ n.lteConfig.data_ready_timeout_sec = 0 then pure ()
  else do
    call_action (timeoutAction n.state_)
    change_state .done

def on_detached : Prog World Unit := do
  reset_servers
  let n ← net
  if n.state_ ≠ .switched_off ∧ n.state_ ≠ .off_mode ∧ n.state_ ≠ .sleep_mode then
    change_state .network_detached
  else pure ()

/-- The event switch of `loop`. -/
def handle_event : NetworkLteEvent → Prog World Heard
  | .psm_enter => do change_state .sleep_mode; pure .nothing
  | .psm_exit => do
    let n ← net
    change_state (if n.prev_state_ = .data_ready then .data_ready else .idle_mode)
    pure .nothing
  | .network_detached => do on_detached; pure .nothing
  | .network_attached => do change_state .pdp_context_closed; pure .nothing
  | .context_closed => do reset_servers; change_state .network_detached; pure .nothing
  | .context_opened => do change_state .data_ready; pure .nothing
  | .data_available => receive_data
  | .gps_available => take_fix
  | .timeout => do on_timeout; pure .nothing
  | .attach_error => do call_action .enter_sleep; pure .nothing
  | .at_command_no_response => do call_action .check_responsiveness; pure .nothing
  | _ => pure .nothing

/-! ## loop and go_to_state -/

def poll_urc : Prog World Unit := do
  let n ← net
  if n.state_ ≠ .transparent_mode then do
    let t ← tick
    record (.polled t.urcs)
    handle_urcs t.urcs
  else pure ()

def check_last_status : Prog World Unit := do
  let n ← net
  if n.last_status_ = .timeout then on_event .at_command_no_response else pure ()

def process_event : Prog World Unit := do
  let t ← get_event
  let h ← handle_event t.event
  record (.handled t h)

def end_loop : Prog World NetworkLteState := do
  let _ ← tick
  let n ← net
  record (.loopEnd n)
  pure n.state_

def loop (fuel : Nat) (target_state : NetworkLteState) : Prog World NetworkLteState := do
  poll_urc
  check_last_status
  process_event
  let n ← net
  if n.state_ = target_state ∧ target_state ≠ .none then end_loop
  else do
    execute_actions fuel
    end_loop

/-- The action that `go_to_state` calls for before each round; none in the states it gives up in. -/
def towards (target : NetworkLteState) : NetworkLteState → Option ModemAction
  | .switched_off =>
    if target = .data_ready ∨ target = .transparent_mode ∨ target = .gnss_fix_mode then some .power_on else none
  | .off_mode =>
    if target = .data_ready ∨ target = .transparent_mode ∨ target = .gnss_fix_mode then some .turn_on_radio
    else none
  | .sleep_mode => if target = .data_ready ∨ target = .transparent_mode then some .wake_up else none
  | .transparent_mode | .gnss_fix_mode =>
    if target = .data_ready ∨ target = .idle_mode then some .leave_transparent_mode else none
  | _ =>
    if target = .transparent_mode then some .enter_transparent_mode
    else if target = .gnss_fix_mode then some .enter_gnss_fix
    else none

def call_towards (target state : NetworkLteState) : Prog World Unit :=
  match towards target state with
  | none => pure ()
  | some a => call_action a

def go_to_state (target : NetworkLteState) : Nat → Prog World Bool
  | 0 => .cutOff
  | fuel + 1 => do
    let n ← net
    if n.state_ = target then pure true
    else if n.state_ = .done ∨ n.state_ = .modem_fota then pure false
    else do
      call_towards target n.state_
      let _ ← loop fuel target
      let _ ← tick
      let n ← net
      if n.event_ = .network_error ∨ n.event_ = .attach_error ∨ n.event_ = .context_error then pure false
      else go_to_state target fuel

end LteModem.NetworkLte
