import LteModem.Lib.Prog
import LteModem.MessageQueue
import LteModem.Timer
import LteModem.XE310.Replies

/-!
# The data of the network state machine (`modem/network_lte.h`, `network_lte_config.h`)

`Net` is the object that `loop` works on, with the timers and the callbacks of the timer thread that
are out but have not run yet. Four fields are for the proofs only: `visit` counts the state changes,
a started timer remembers the visit and the configuration of its start, `event_visit` is the visit of
the timer that raised the pending event, and `timing` keeps the times of the state changes.
-/

open Strings

namespace LteModem

inductive NetworkLteState where
  | none | rebooting | switched_off | off_mode | sleep_mode | setup_mode | idle_mode | network_detached
  | network_attaching | pdp_context_closed | pdp_context_opening | data_ready | transparent_mode
  | modem_fota | gnss_fix_mode | done
deriving DecidableEq, Repr

inductive NetworkLteEvent where
  | none | psm_enter | psm_exit | network_detached | network_attached | context_opened | context_closed
  | context_rejected | data_available | gps_available | attach_started | pdp_opening | timeout
  | network_error | attach_error | context_error | at_command_no_response
deriving DecidableEq, Repr

inductive ModemAction where
  | none | reboot | factory_reset | check_responsiveness | power_on | power_off | turn_on_radio
  | switch_off_radio | enter_sleep | wake_up | setup_radio | query_network_status | query_pdp_context
  | attach_network | open_pdp_context | send_data | read_data | data_complete | enter_transparent_mode
  | leave_transparent_mode | enter_gnss_fix | leave_gnss_fix
deriving DecidableEq, Repr

def is_error_event : NetworkLteEvent → Bool
  | .network_error | .attach_error | .context_error | .at_command_no_response => true
  | _ => false

def B3_8_20_BAND_MASK : Nat := 524420
def DEFAULT_APN : String := "connect.cxn"

structure NetworkLteConfig where
  cid : Nat := 1
  attach_timeout_sec : Nat := 120
  pdp_timeout_sec : Nat := 15
  data_ready_timeout_sec : Nat := 30
  transparent_timeout_sec : Nat := 300
  gps_timeout_sec : Nat := 120
  max_attach_retries : Nat := 2
  default_lte_bands : Nat := B3_8_20_BAND_MASK
  default_iot_tech : RadioTech := .cat_m1
  default_apn : FixedString MODEM_MEDIUM_STR := .ofView _ DEFAULT_APN.toList
  fallback_lte_bands : Nat := B3_8_20_BAND_MASK
  fallback_iot_tech : RadioTech := .cat_m1
  fallback_apn : FixedString MODEM_MEDIUM_STR := .ofView _ DEFAULT_APN.toList
  fPsmEnable : Bool := true
  fCfunSleep : Bool := true
  psm_t3412 : Nat := 3600
  psm_t3324 : Nat := 60
  conn_id : Nat := 1
deriving DecidableEq

structure ServerInfo where
  state : ServerState := .disconnected
  protocol : FixedString MODEM_SHORT_STR := .empty _
  address : FixedString MODEM_IP_STR := .empty _
  port : Nat := 0

/-- The index `conn_id - 1` of a connection. -/
abbrev Conn := Fin MAX_CONNECTIONS

def Conn.id (k : Conn) : Nat := k.val + 1

inductive NetworkTraceKind where
  | state_change | event_set | action_set | error
deriving DecidableEq, Repr

structure NetworkTraceEntry where
  kind : NetworkTraceKind := .state_change
  previous_state : NetworkLteState := .none
  current_state : NetworkLteState := .none
  event : NetworkLteEvent := .none
  action : ModemAction := .none
deriving DecidableEq

def TRACE_CAPACITY : Nat := 10

structure StateTimers where
  network_attaching_ms : Nat := 0
  pdp_context_opening_ms : Nat := 0
  data_ready_ms : Nat := 0
  transparent_mode_ms : Nat := 0
  gnss_fix_mode_ms : Nat := 0
  sleep_mode_ms : Nat := 0
  off_mode_ms : Nat := 0

/-- `+=` on the counter of a timed state, a `uint32_t`. -/
def StateTimers.add (t : StateTimers) (ms : Nat) : NetworkLteState → StateTimers
  | .network_attaching => { t with network_attaching_ms := (t.network_attaching_ms + ms) % 2 ^ 32 }
  | .pdp_context_opening => { t with pdp_context_opening_ms := (t.pdp_context_opening_ms + ms) % 2 ^ 32 }
  | .data_ready => { t with data_ready_ms := (t.data_ready_ms + ms) % 2 ^ 32 }
  | .transparent_mode => { t with transparent_mode_ms := (t.transparent_mode_ms + ms) % 2 ^ 32 }
  | .gnss_fix_mode => { t with gnss_fix_mode_ms := (t.gnss_fix_mode_ms + ms) % 2 ^ 32 }
  | .sleep_mode => { t with sleep_mode_ms := (t.sleep_mode_ms + ms) % 2 ^ 32 }
  | .off_mode => { t with off_mode_ms := (t.off_mode_ms + ms) % 2 ^ 32 }
  | _ => t

/-- The states that `change_state` times. -/
def NetworkLteState.timed : NetworkLteState → Bool
  | .network_attaching | .pdp_context_opening | .data_ready | .transparent_mode | .gnss_fix_mode
  | .sleep_mode | .off_mode => true
  | _ => false

inductive ContextState where
  | inactive | active
deriving DecidableEq, Repr

/-- A visit to a state that is over: when `change_state` assigned the state, and when the next one. -/
structure Visit where
  state : NetworkLteState
  entered : Nat
  left : Nat
deriving DecidableEq

/-- When the states were assigned, and when the state timer was read last. -/
structure Timing where
  entered : Nat := 0
  visits : List Visit := []
  measured : Nat := 0

/-- What the machine knows about the modem and the network, and its counters and queues. -/
structure NetData where
  regInfo : RegistrationInfo := {}
  ip_address : FixedString MODEM_IP_STR := .empty _
  context_state : ContextState := .inactive
  signalQuality : SignalQuality := {}
  modemClock : FixedString MODEM_SHORT_STR := .empty _
  csurvResult : CsurvResult := {}
  gnssPosition : GnssPosition := {}
  nNetworkAttempts : Nat := 0
  nAttachRetries : Nat := 0
  nPdpRetries : Nat := 0
  fChangeBands : Bool := false
  fChangeRAT : Bool := false
  message_queue_ : MessageQueue := {}
  last_data_conn_id_ : Nat := 0
  stateTimers_ : StateTimers := {}
  trace_buffer_ : List NetworkTraceEntry := []
  timing : Timing := {}

def NetData.push_trace (d : NetData) (e : NetworkTraceEntry) : NetData :=
  let kept := if d.trace_buffer_.length < TRACE_CAPACITY then d.trace_buffer_ else d.trace_buffer_.tail
  { d with trace_buffer_ := kept ++ [e] }

/-- A timer callback: `on_timer_expired`, or nothing. -/
structure Callback where
  raises : Bool
  visit : Nat
  config : NetworkLteConfig

structure Net where
  lteConfig : NetworkLteConfig
  state_ : NetworkLteState := .switched_off
  prev_state_ : NetworkLteState := .none
  event_ : NetworkLteEvent := .none
  modem_action_ : ModemAction := .none
  fColdBoot : Bool := false
  fWarmBoot : Bool := true
  serverInfo : Conn → ServerInfo := fun _ => {}
  st_timer : Timer Callback := {}
  timer_ : Option (Timer Callback) := none
  /-- Expired, and the callback has not run yet. -/
  callbacks : List Callback := []
  last_status_ : ModemStatus := .ok
  data : NetData := {}
  visit : Nat := 0
  event_visit : Nat := 0

namespace Net

def on_event (e : NetworkLteEvent) (n : Net) : Net :=
  let d := n.data.push_trace { kind := .event_set, event := e }
  { n with event_ := e, data := if is_error_event e then d.push_trace { kind := .error, event := e } else d }

def call_action (a : ModemAction) (n : Net) : Net :=
  { n with modem_action_ := a, data := n.data.push_trace { kind := .action_set, action := a } }

/-- The assignments of `change_state`. -/
def enter (s : NetworkLteState) (n : Net) : Net :=
  { n with
    prev_state_ := n.state_
    state_ := s
    visit := n.visit + 1
    data := n.data.push_trace { previous_state := n.state_, current_state := s } }

/-- The clock at a change of state. -/
def stamp (now : Nat) (n : Net) : Net :=
  let t := n.data.timing
  { n with data.timing := { t with entered := now, visits := ⟨n.state_, t.entered, now⟩ :: t.visits } }

/-! ## The timer thread -/

inductive Move where
  | expire_state_timer
  | expire_timer
  | callback (i : Nat)
deriving DecidableEq, Repr

/-- A callback that does nothing need not wait to run. -/
def put (n : Net) (cb : Option Callback) : Net :=
  { n with callbacks := n.callbacks ++ (cb.filter (·.raises)).toList }

def move (n : Net) : Move → Net
  | .expire_state_timer => { n with st_timer := n.st_timer.expire.2 }.put n.st_timer.expire.1
  | .expire_timer =>
    match n.timer_ with
    | none => n
    | some t => { n with timer_ := some t.expire.2 }.put t.expire.1
  | .callback i =>
    match n.callbacks[i]? with
    | none => n
    | some cb => { (n.on_event .timeout) with callbacks := n.callbacks.eraseIdx i, event_visit := cb.visit }

theorem move_keeps (n : Net) (m : Move) :
    (n.move m).lteConfig = n.lteConfig ∧ (n.move m).state_ = n.state_ ∧
      (n.move m).prev_state_ = n.prev_state_ ∧ (n.move m).modem_action_ = n.modem_action_ ∧
      (n.move m).fColdBoot = n.fColdBoot ∧ (n.move m).fWarmBoot = n.fWarmBoot ∧
      (n.move m).serverInfo = n.serverInfo ∧ (n.move m).last_status_ = n.last_status_ ∧
      (n.move m).visit = n.visit := by
  unfold move put
  split
  · simp
  · split <;> simp
  · split <;> simp [on_event]

@[simp] theorem move_lteConfig (n : Net) (m : Move) : (n.move m).lteConfig = n.lteConfig := (n.move_keeps m).1
@[simp] theorem move_state_ (n : Net) (m : Move) : (n.move m).state_ = n.state_ := (n.move_keeps m).2.1
@[simp] theorem move_prev_state_ (n : Net) (m : Move) : (n.move m).prev_state_ = n.prev_state_ :=
  (n.move_keeps m).2.2.1
@[simp] theorem move_modem_action_ (n : Net) (m : Move) : (n.move m).modem_action_ = n.modem_action_ :=
  (n.move_keeps m).2.2.2.1
@[simp] theorem move_fColdBoot (n : Net) (m : Move) : (n.move m).fColdBoot = n.fColdBoot :=
  (n.move_keeps m).2.2.2.2.1
@[simp] theorem move_fWarmBoot (n : Net) (m : Move) : (n.move m).fWarmBoot = n.fWarmBoot :=
  (n.move_keeps m).2.2.2.2.2.1
@[simp] theorem move_serverInfo (n : Net) (m : Move) : (n.move m).serverInfo = n.serverInfo :=
  (n.move_keeps m).2.2.2.2.2.2.1
@[simp] theorem move_last_status_ (n : Net) (m : Move) : (n.move m).last_status_ = n.last_status_ :=
  (n.move_keeps m).2.2.2.2.2.2.2.1
@[simp] theorem move_visit (n : Net) (m : Move) : (n.move m).visit = n.visit :=
  (n.move_keeps m).2.2.2.2.2.2.2.2

theorem moves_keep {α : Type} {f : Net → α} (h : ∀ n m, f (n.move m) = f n) (moves : List Move) (n : Net) :
    f (moves.foldl move n) = f n := by
  induction moves generalizing n with
  | nil => rfl
  | cons m moves ih => exact (ih (n.move m)).trans (h n m)

theorem move_event_ (n : Net) (m : Move) : (n.move m).event_ = n.event_ ∨ (n.move m).event_ = .timeout := by
  unfold move put
  split
  · simp
  · split <;> simp
  · split <;> simp [on_event]

theorem move_st_timer (n : Net) (m : Move) (h : (n.move m).st_timer.running = true) :
    (n.move m).st_timer = n.st_timer := by
  revert h
  unfold move put
  split
  · simp
  · split <;> simp
  · split <;> simp [on_event]

end Net

end LteModem
