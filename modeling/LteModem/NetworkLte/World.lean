import LteModem.NetworkLte.State

/-!
# The machine in its surroundings

A program of the machine runs in a `World`: the machine, the modem and the timer thread as a stream of
arbitrary ticks, and a log. Whenever a program talks to the modem or touches what the timer thread
shares with it (`event_` and the timers), it takes the next tick, and what the timer thread did until
then happens first.
-/

open Strings

namespace LteModem.NetworkLte

/-- What the surroundings do before one step of the machine, and what they answer to it. -/
structure Tick where
  moves : List Net.Move := []
  status : ModemStatus := .ok
  body : FixedString AT_RESPONSE_MAX := .empty _
  urcs : List Str := []
  now : Nat := 0
  /-- What an uninitialised variable of this type holds. -/
  tech : RadioTech := .unknown

def Tick.answer (t : Tick) : Answer := ⟨t.status, t.body.view⟩

/-- The calls of the users of the machine. -/
inductive Call where
  | loop (target_state : NetworkLteState := .none)
  | network_connect
  | network_disconnect
  | new_connection (k : Conn) (protocol ip port : Str)
  | server_connect (k : Conn) (protocol ip : Str) (port : Nat)
  | server_disconnect (k : Conn)
  | tx_write (conn_id : Nat) (data : Str)
  | rx_read (conn_id : Nat)
  | force_psm
  | enter_sleep
  | enter_transparent_mode
  | exit_transparent_mode
  | leave_transparent_mode
  | send_at_command (command : Str)
  | update_modem
  | acquire_gnss_position
  | refresh_clock
  | scan_networks (start_ch end_ch : Nat)
  | set_config (config : NetworkLteConfig)
  | set_network_attempts (n : Nat)
  | set_attach_retries (n : Nat)
  | set_pdp_retries (n : Nat)
  | start_timer (timeout_ms : Nat)
  | stop_timer
  | reset_timer (timeout_ms : Nat)
  | pop_trace
  | call_action (action : ModemAction)

/-- What an action or an event case heard from the modem, as far as it decides what comes next. -/
inductive Heard where
  | nothing
  | status (s : ModemStatus)
  | setup (bands tech : Option ModemStatus)
  | registration (s : ModemStatus) (stat : RegStatus)
  | attach (changed : Bool)
  | pdp (s : ModemStatus) (active : Bool) (ip : ModemStatus)
  | fix (valid : Bool)
deriving DecidableEq

/-- What `get_event` took: the event, the visit it was raised for, what was in `event_` when it was
cleared, and the machine after that. -/
structure Taken where
  event : NetworkLteEvent
  stamp : Nat
  dropped : NetworkLteEvent
  after : Net

/-- What `force_psm` heard about one operator. -/
structure Offer where
  stat : RegStatus
  psm : Option (ModemStatus × TelitCpsmsStatus)

inductive Entry where
  | exchange (cmd : AtCmd) (a : Answer)
  /-- The batch that `loop` handles. -/
  | polled (urcs : List Str)
  /-- `change_state` started the state timer. -/
  | started (e : TimerError)
  /-- `change_state` is done with the old state. -/
  | left (n : Net)
  | handled (t : Taken) (h : Heard)
  | ran (a : ModemAction) (before : Net) (h : Heard)
  | searched (offers : List Offer) (n : Net)
  /-- A suspended connection was closed and, for UDP, opened again with this answer. -/
  | resumed (opened : Option ModemStatus)
  | loopEnd (n : Net)
  | called (c : Call) (n : Net)

structure World where
  net : Net
  env : Nat → Tick
  clock : Nat := 0
  /-- Newest first. -/
  log : List Entry := []

/-! ## Steps -/

def tick : Prog World Tick := fun w =>
  let t := w.env w.clock
  (some t, { w with net := t.moves.foldl Net.move w.net, clock := w.clock + 1 })

def net : Prog World Net := .gets (·.net)

def updateNet (f : Net → Net) : Prog World Unit := .modify fun w => { w with net := f w.net }

def record (e : Entry) : Prog World Unit := .modify fun w => { w with log := e :: w.log }

def updateData (f : NetData → NetData) : Prog World Unit := updateNet fun n => { n with data := f n.data }

def set_last_status (s : ModemStatus) : Prog World Unit := updateNet fun n => { n with last_status_ := s }

def set_fColdBoot (b : Bool) : Prog World Unit := updateNet fun n => { n with fColdBoot := b }

def set_fWarmBoot (b : Bool) : Prog World Unit := updateNet fun n => { n with fWarmBoot := b }

def set_lteConfig (c : NetworkLteConfig) : Prog World Unit := updateNet fun n => { n with lteConfig := c }

def update_server (k : Conn) (f : ServerInfo → ServerInfo) : Prog World Unit :=
  updateNet fun n => { n with serverInfo := Function.update n.serverInfo k (f (n.serverInfo k)) }

/-- `serverInfo[i++].state = disconnected`, for all of them. -/
def reset_servers : Prog World Unit :=
  updateNet fun n => { n with serverInfo := fun k => { n.serverInfo k with state := .disconnected } }

def call_action (a : ModemAction) : Prog World Unit := updateNet (Net.call_action a)

def get_action : Prog World ModemAction := fun w =>
  (some w.net.modem_action_, { w with net := { w.net with modem_action_ := .none } })

def on_event (e : NetworkLteEvent) : Prog World Unit := do
  let _ ← tick
  updateNet (Net.on_event e)

def clear_event : Prog World Unit := updateNet fun n => { n with event_ := .none }

/-- A read, then a store: an event that is raised in between is dropped. -/
def get_event : Prog World Taken := do
  let _ ← tick
  let n ← net
  let _ ← tick
  let m ← net
  clear_event
  let after ← net
  pure ⟨n.event_, n.event_visit, m.event_, after⟩

/-! ## Timers -/

def start_state_timer (timeout_ms : Nat) (raises : Bool) : Prog World TimerError := do
  let t ← tick
  let n ← net
  let out := n.st_timer.start t.now timeout_ms { raises, visit := n.visit, config := n.lteConfig }
  updateNet fun n => { n with st_timer := out.2 }
  pure out.1

def stop_state_timer : Prog World Unit := do
  let _ ← tick
  updateNet fun n => { n with st_timer := n.st_timer.stop.2 }

def state_timer_elapsed : Prog World Nat := do
  let t ← tick
  updateData fun d => { d with timing.measured := t.now }
  let n ← net
  pure (n.st_timer.elapsed_ms t.now)

/-- An operation on the timer of the constructor, which need not be there. -/
def on_timer (f : Net → Nat → Timer Callback → TimerError × Timer Callback) : Prog World TimerError := do
  let t ← tick
  let n ← net
  match n.timer_ with
  | none => pure .not_running
  | some timer =>
    let out := f n t.now timer
    updateNet fun n => { n with timer_ := some out.2 }
    pure out.1

def start_timer (timeout_ms : Nat) : Prog World TimerError :=
  on_timer fun n now t => t.start now timeout_ms { raises := true, visit := n.visit, config := n.lteConfig }

def stop_timer : Prog World TimerError := on_timer fun _ _ t => t.stop

/-- The restarted timer counts as started by the current visit. -/
def reset_timer (timeout_ms : Nat) : Prog World TimerError :=
  on_timer fun n now t =>
    let out := t.reset now timeout_ms
    (out.1, { out.2 with cb := out.2.cb.map ({ · with visit := n.visit }) })

/-! ## The modem -/

def take_answer (cmd : AtCmd) (a : Answer) : Prog World Unit := .modify fun w =>
  { w with net := { w.net with last_status_ := a.status }, log := .exchange cmd a :: w.log }

/-- `xE310::send_raw`. -/
def exchange (cmd : AtCmd) : Prog World Answer := do
  let t ← tick
  take_answer cmd t.answer
  pure t.answer

/-- `send_with_prompt`, which leaves `last_status_` alone. -/
def exchange_with_prompt (cmd : AtCmd) : Prog World Answer := do
  let t ← tick
  record (.exchange cmd t.answer)
  pure t.answer

namespace xE310

/-- A command of which only the status counts. -/
def send (cmd : AtCmd) : Prog World ModemStatus := do
  let a ← exchange cmd
  pure a.status

abbrev set_urc (s : Subscription) (enable : Bool) : Prog World ModemStatus := send (.urc s enable)

abbrev set_psm_urc : Bool → Prog World ModemStatus := set_urc .psm
abbrev set_cell_state_urc : Bool → Prog World ModemStatus := set_urc .cell_state
abbrev set_registration_urc : Bool → Prog World ModemStatus := set_urc .registration
abbrev set_pdp_urc : Bool → Prog World ModemStatus := set_urc .pdp

abbrev power_radio : Prog World ModemStatus := send (.cfun 1)
abbrev power_off_radio : Prog World ModemStatus := send (.cfun 4)

def shutdown : Prog World ModemStatus := do
  let _ ← send (.cfun 4)
  send (.cfun 11)

def set_iot_tech (tech : RadioTech) : Prog World ModemStatus :=
  if tech = .cat_m1 then send (.other (.set_iot_tech 0 0))
  else if tech = .nb_iot then send (.other (.set_iot_tech 1 0))
  else pure .invalid_param

abbrev set_lte_bands (lte_mask : Nat) : Prog World ModemStatus :=
  send (.other (.set_bands 0 0 lte_mask 0 0))

/-- `power_radio` also sets `last_status_`, so it is put back. -/
def set_gnss_power (enable : Bool) : Prog World ModemStatus := do
  let status ← send (.other (.set_gnss_power enable))
  if enable then pure status
  else do
    let _ ← power_radio
    set_last_status status
    pure status

/-- A query whose answer goes through a parser of `Replies`. -/
def ask {α : Type} (c : Command) (parse : Answer → α) : Prog World α := do
  let a ← exchange (.other c)
  pure (parse a)

abbrev get_clock (clock : FixedString MODEM_SHORT_STR) : Prog World (ModemStatus × FixedString MODEM_SHORT_STR) :=
  ask .get_clock (Replies.get_clock · clock)

abbrev get_signal_quality (sq : SignalQuality) : Prog World (ModemStatus × SignalQuality) :=
  ask .get_signal_quality (Replies.get_signal_quality · sq)

abbrev get_operator (oper : FixedString MODEM_MEDIUM_STR) :
    Prog World (ModemStatus × FixedString MODEM_MEDIUM_STR) :=
  ask .get_operator (Replies.get_operator · oper)

abbrev get_apn (cid : Nat) (apn : FixedString MODEM_MEDIUM_STR) :
    Prog World (ModemStatus × FixedString MODEM_MEDIUM_STR) :=
  ask .get_apn (Replies.get_apn · cid apn)

abbrev get_telit_psm (st : TelitCpsmsStatus) : Prog World (ModemStatus × TelitCpsmsStatus) :=
  ask .get_telit_psm (Replies.get_telit_psm · st)

abbrev get_registration_status (info : RegistrationInfo) (tech : RadioTech) :
    Prog World (ModemStatus × RegistrationInfo) :=
  ask (.get_registration_status tech) (Replies.get_registration_status · info)

/-- The variable that receives the technology has no initial value. -/
def get_iot_tech : Prog World (ModemStatus × RadioTech) := do
  let t ← tick
  ask .get_iot_tech (Replies.get_iot_tech · t.tech)

abbrev get_bands (bands : BandConfig) : Prog World (ModemStatus × BandConfig) :=
  ask .get_bands (Replies.get_bands · bands)

/-- An empty code leaves the choice to the modem. -/
abbrev set_operator_manual (oper : Str) (tech : RadioTech) : Prog World ModemStatus :=
  send (.other (if oper = [] then .set_operator_auto else .set_operator_manual oper tech))

abbrev get_available_operators (operators : List Operator) : Prog World (ModemStatus × List Operator) :=
  ask .get_available_operators (Replies.get_available_operators · operators)

abbrev get_pdp_state (cid : Nat) (active : Bool) : Prog World (ModemStatus × Bool) :=
  ask .get_pdp_state (Replies.get_pdp_state · cid active)

abbrev get_ip_address (cid : Nat) (ip : FixedString MODEM_IP_STR) :
    Prog World (ModemStatus × FixedString MODEM_IP_STR) :=
  ask (.get_ip_address cid) (Replies.get_ip_address · ip)

abbrev is_gnss_powered : Prog World (ModemStatus × Bool) := ask .is_gnss_powered Replies.is_gnss_powered

abbrev get_gnss_position (pos : GnssPosition) : Prog World (ModemStatus × GnssPosition) :=
  ask .get_gnss_position (Replies.get_gnss_position · pos)

abbrev udp_receive (conn_id : Nat) (data : Str) : Prog World (ModemStatus × Str) :=
  ask (.udp_receive conn_id 1500) (Replies.udp_receive · data)

def udp_status (k : Conn) (state : Nat) : Prog World (ModemStatus × Nat) := do
  let a ← exchange (.udp_status k.id)
  pure (Replies.udp_status a state)

/-- The local port is the remote one unless it is given. -/
abbrev udp_open (k : Conn) (host : Str) (port : Nat) : Prog World ModemStatus :=
  send (.udp_open k.id host port port)

abbrev udp_close (k : Conn) : Prog World ModemStatus := send (.udp_close k.id)

def udp_send (k : Conn) (data : Str) : Prog World ModemStatus := do
  let a ← exchange_with_prompt (.other (.udp_send k.id data))
  pure a.status

def scan_networks (start_ch end_ch : Nat) (result : CsurvResult) : Prog World (ModemStatus × CsurvResult) := do
  let status ← send (.other .csurv_format)
  if status ≠ .ok then pure (status, result)
  else ask (.csurv start_ch end_ch) (Replies.scan_networks · result)

end xE310

end LteModem.NetworkLte
