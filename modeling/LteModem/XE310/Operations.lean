import LteModem.XE310.Queries
import LteModem.XE310.WholeCommands

/-!
# The operations of the modem (`modem/xe310.h`, `xe310.cpp`)

Every function of `xE310` that returns a `ModemStatus`, over the exchanges of the controller. The state
machine sees in `last_status_` alone that the modem has stopped answering.
-/

open Strings

namespace LteModem

inductive SimDetMode where
  | gpio | always
deriving DecidableEq, Repr

def SimDetMode.toNat : SimDetMode → Nat
  | .gpio => 0
  | .always => 1

inductive MruListRat where
  | lte_m | nb_iot | ntn
deriving DecidableEq, Repr

def MruListRat.toNat : MruListRat → Nat
  | .lte_m => 0
  | .nb_iot => 2
  | .ntn => 5

/-- The mode, and all four timers if there is one. -/
def CpsmsConfig.params (cfg : CpsmsConfig) : Str :=
  let timers := [cfg.req_periodic_rau, cfg.req_gprs_ready_timer, cfg.req_periodic_tau, cfg.req_active_time]
  let quoted (t : FixedString MODEM_SHORT_STR) : Str :=
    if t.view = [] then [','] else ",\"".toList ++ cstr t.view ++ ['"']
  decimal cfg.mode.toNat ++ if ∀ t ∈ timers, t.view = [] then [] else timers.flatMap quoted

/-- `info` is left out: it is never written. -/
structure XE310 (σ : Type) where
  controller_ : ModemController σ
  last_status_ : ModemStatus := .ok

namespace XE310

open WholeCommands (Call)

variable {σ : Type} (u : Uart σ) (fuel : Nat)

def onController {α : Type} (m : Prog (ModemController σ) α) : Prog (XE310 σ) α :=
  fun x => ((m x.controller_).1, { x with controller_ := (m x.controller_).2 })

def send_raw (command : Str) (response : AtResponse) (timeout_ms : Nat) :
    Prog (XE310 σ) (ModemStatus × AtResponse) := do
  let r ← onController (ModemController.send_raw u fuel command response timeout_ms true)
  .modify fun x => { x with last_status_ := r.1 }
  pure r

/-! ## Settings -/

/-- The functions that send one command and return what came of it. -/
inductive Setting where
  | set_baudrate (baudrate : Nat) | set_echo (enable : Bool) | at_ok
  | set_sim_detection (mode : SimDetMode)
  | set_psm (cfg : CpsmsConfig) | disable_psm
  | set_telit_psm (cfg : TelitCpsmsConfig) | disable_telit_psm | set_psm_urc (enable : Bool)
  | power_radio | power_off_radio | reboot
  | set_cell_state_urc (enable : Bool) | set_registration_urc (enable : Bool)
  | delete_mru_list (rat : MruListRat)
  | set_lte_bands (lte_mask : Nat)
  | set_bands (gsm_mask umts_mask lte_mask tdscdma_mask lte_mask_over_64 : Nat)
  | network_attach | network_detach
  | set_radio_tech (tech : RadioTech)
  | set_operator_manual (oper : Str) (tech : RadioTech) | set_operator_auto
  | set_apn (cid : Nat) (apn : Str) | set_pdp_urc (enable : Bool)
  | disable_all_notifyev | set_plmnsearchexh_notify (enable : Bool)
  | activate_pdp (cid : Nat) | deactivate_pdp (cid : Nat)
  | udp_open (conn_id : Nat) (host : Str) (remote_port local_port : Nat)
  | udp_listen (conn_id local_port cid : Nat) | udp_close (conn_id : Nat)
  | set_gnss_urc (enable : Bool)

def Setting.text : Setting → Str
  | .set_baudrate baudrate => (Command.set_baudrate baudrate).text
  | .set_echo enable => (Command.set_echo enable).text
  | .at_ok => Command.at_ok.text
  | .set_sim_detection mode => snprintf 32 ("AT#SIMDET=".toList ++ decimal mode.toNat)
  | .set_psm cfg => snprintf 256 ("AT+CPSMS=".toList ++ cfg.params)
  | .disable_psm => "AT+CPSMS=0".toList
  | .set_telit_psm cfg => (Command.set_telit_psm cfg).text
  | .disable_telit_psm => Command.disable_telit_psm.text
  | .set_psm_urc enable => Subscription.psm.text enable
  | .power_radio => (AtCmd.cfun 1).text
  | .power_off_radio => (AtCmd.cfun 4).text
  | .reboot => AtCmd.reboot.text
  | .set_cell_state_urc enable => Subscription.cell_state.text enable
  | .set_registration_urc enable => Subscription.registration.text enable
  | .delete_mru_list rat =>
    snprintf 64 ("AT%TRSHCMD=\"BSPFILE\",\"ERASE_LTEPP\",\"".toList ++ decimal rat.toNat ++ ['"'])
  | .set_lte_bands lte_mask => (Command.set_bands 0 0 lte_mask 0 0).text
  | .set_bands gsm umts lte tdscdma lte_over => (Command.set_bands gsm umts lte tdscdma lte_over).text
  | .network_attach => "AT+CGATT=1".toList
  | .network_detach => Command.network_detach.text
  | .set_radio_tech tech => snprintf 64 ("AT+COPS=0,,,".toList ++ decimalInt tech.toInt)
  | .set_operator_manual oper tech => (Call.set_operator_manual oper tech).text
  | .set_operator_auto => Command.set_operator_auto.text
  | .set_apn cid apn => (Call.set_apn cid apn).text
  | .set_pdp_urc enable => Subscription.pdp.text enable
  | .disable_all_notifyev => Command.disable_all_notifyev.text
  | .set_plmnsearchexh_notify enable => (Command.set_plmnsearchexh_notify enable).text
  | .activate_pdp cid => (Command.activate_pdp cid).text
  | .deactivate_pdp cid => snprintf 32 ("AT#SGACT=0,".toList ++ decimal cid)
  | .udp_open conn_id host remote_port local_port => (Call.udp_open conn_id host remote_port local_port).text
  | .udp_listen conn_id local_port cid =>
    snprintf 64 ("AT#SL=".toList ++ decimal conn_id ++ ",1,".toList ++ decimal local_port ++ ",255,".toList ++
      decimal cid)
  | .udp_close conn_id => (AtCmd.udp_close conn_id).text
  | .set_gnss_urc enable => (Command.set_gnss_urc enable).text

def Setting.timeout_ms : Setting → Nat
  | .power_radio | .power_off_radio => 15000
  | .network_attach | .network_detach => 30000
  | .set_radio_tech _ => 45000
  | .set_operator_manual _ _ | .set_operator_auto => 210000
  | _ => 5000

/-- `reboot` then waits for two seconds. -/
def Setting.run (c : Setting) : Prog (XE310 σ) ModemStatus := do
  let r ← send_raw u fuel c.text {} c.timeout_ms
  pure r.1

/-! ## Queries -/

/-- The functions with an output parameter that keeps its value when they fail. -/
inductive Query where
  | request_imei_sv | request_model_id | request_sw_package_version | request_telit_id
  | request_identification | get_imei | get_clock | read_iccid | read_imsi | query_sim_status
  | send_sim_command (command : Str) | get_psm | get_telit_psm | get_psm_urc
  | network_survey (start_ch end_ch : Nat) | get_iot_tech | get_bands
  | get_registration_status (tech : RadioTech) | get_signal_quality | get_operator
  | get_available_operators | scan_networks (start_ch end_ch : Nat) | get_apn (cid : Nat)
  | get_pdp_state (cid : Nat) | get_ip_address (cid : Nat) | get_pdp_info (cid : Nat)
  | udp_receive (conn_id max_bytes : Nat) | udp_status (conn_id : Nat)
  | send_at_command (command : Str) (timeout_ms : Nat) | get_gnss_position

def Query.text : Query → Str
  | .request_imei_sv => "AT+IMEISV".toList
  | .request_model_id => "AT#CGMM".toList
  | .request_sw_package_version => "AT#SWPKGV".toList
  | .request_telit_id => "AT#TID".toList
  | .request_identification => "ATI".toList
  | .get_imei => "AT+CGSN".toList
  | .get_clock => Command.get_clock.text
  | .read_iccid => "AT#CCID".toList
  | .read_imsi => "AT+CIMI".toList
  | .query_sim_status => "AT#QSS?".toList
  | .send_sim_command command => (Call.send_sim_command command).text
  | .get_psm => "AT+CPSMS?".toList
  | .get_telit_psm => Command.get_telit_psm.text
  | .get_psm_urc => "AT#PSMURC?".toList
  | .network_survey start_ch end_ch =>
    if start_ch = 0 ∧ end_ch = 0 then "AT#CSURVC".toList
    else snprintf 64 ("AT#CSURVC=".toList ++ decimal start_ch ++ [','] ++ decimal end_ch)
  | .get_iot_tech => Command.get_iot_tech.text
  | .get_bands => Command.get_bands.text
  | .get_registration_status tech => (Command.get_registration_status tech).text
  | .get_signal_quality => Command.get_signal_quality.text
  | .get_operator => Command.get_operator.text
  | .get_available_operators => Command.get_available_operators.text
  | .scan_networks start_ch end_ch => (Command.csurv start_ch end_ch).text
  | .get_apn _ => Command.get_apn.text
  | .get_pdp_state _ => Command.get_pdp_state.text
  | .get_ip_address cid => (Command.get_ip_address cid).text
  | .get_pdp_info cid => snprintf 32 ("AT+CGCONTRDP=".toList ++ decimal cid)
  | .udp_receive conn_id max_bytes => (Command.udp_receive conn_id max_bytes).text
  | .udp_status conn_id => (AtCmd.udp_status conn_id).text
  | .send_at_command command _ => command
  | .get_gnss_position => Command.get_gnss_position.text

def Query.timeout_ms : Query → Nat
  | .network_survey _ _ | .scan_networks _ _ => 120000
  | .get_available_operators => 210000
  | .send_at_command _ timeout_ms => timeout_ms
  | _ => 5000

/-- What the output parameters hold. -/
def Query.Out (L : FloatLib) : Query → Type
  | .request_imei_sv | .get_imei | .get_clock | .read_iccid | .read_imsi => FixedString MODEM_SHORT_STR
  | .request_model_id | .request_telit_id | .get_operator | .get_apn _ => FixedString MODEM_MEDIUM_STR
  | .request_identification => FixedString MODEM_LONG_STR
  | .request_sw_package_version => SoftwarePackageVersion
  | .query_sim_status => SimStatus
  | .send_sim_command _ | .send_at_command _ _ => FixedString AT_RESPONSE_MAX
  | .get_psm => CpsmsConfig
  | .get_telit_psm => TelitCpsmsStatus
  | .get_psm_urc | .get_pdp_state _ => Bool
  | .network_survey _ _ => NetworkSurveyResult L
  | .get_iot_tech => RadioTech × Nat
  | .get_bands => BandConfig
  | .get_registration_status _ => RegistrationInfo
  | .get_signal_quality => SignalQuality
  | .get_available_operators => List Operator
  | .scan_networks _ _ => CsurvResult
  | .get_ip_address _ => FixedString MODEM_IP_STR
  | .get_pdp_info _ => PdpInfo
  | .udp_receive _ _ => Str
  | .udp_status _ => Nat
  | .get_gnss_position => GnssPosition

def Query.read (L : FloatLib) : (q : Query) → Answer → q.Out L → ModemStatus × q.Out L
  | .request_imei_sv, a, out => Replies.request_imei_sv a out
  | .request_model_id, a, out => Replies.request_model_id a out
  | .request_sw_package_version, a, out => Replies.request_sw_package_version a out
  | .request_telit_id, a, out => Replies.request_telit_id a out
  | .request_identification, a, out => Replies.request_identification a out
  | .get_imei, a, out => Replies.get_imei a out
  | .get_clock, a, out => Replies.get_clock a out
  | .read_iccid, a, out => Replies.read_iccid a out
  | .read_imsi, a, out => Replies.read_imsi a out
  | .query_sim_status, a, out => Replies.query_sim_status a out
  | .send_sim_command _, a, out => Replies.send_sim_command a out
  | .get_psm, a, out => Replies.get_psm a out
  | .get_telit_psm, a, out => Replies.get_telit_psm a out
  | .get_psm_urc, a, out => Replies.get_psm_urc a out
  | .network_survey _ _, a, out => Replies.network_survey L a out
  | .get_iot_tech, a, out => Replies.get_iot_tech_priority a out
  | .get_bands, a, out => Replies.get_bands a out
  | .get_registration_status _, a, out => Replies.get_registration_status a out
  | .get_signal_quality, a, out => Replies.get_signal_quality a out
  | .get_operator, a, out => Replies.get_operator a out
  | .get_available_operators, a, out => Replies.get_available_operators a out
  | .scan_networks _ _, a, out => Replies.scan_networks a out
  | .get_apn cid, a, out => Replies.get_apn a cid out
  | .get_pdp_state cid, a, out => Replies.get_pdp_state a cid out
  | .get_ip_address _, a, out => Replies.get_ip_address a out
  | .get_pdp_info _, a, out => Replies.get_pdp_info a out
  | .udp_receive _ _, a, out => Replies.udp_receive a out
  | .udp_status _, a, out => Replies.udp_status a out
  | .send_at_command _ _, a, out => Replies.send_at_command a out
  | .get_gnss_position, a, out => Replies.get_gnss_position a out

/-- What is sent ahead of the query: `scan_networks` sets the output format. -/
def Query.prepare : Query → Prog (XE310 σ) (ModemStatus × AtResponse)
  | .scan_networks _ _ => send_raw u fuel Command.csurv_format.text {} 5000
  | _ => pure (.ok, {})

def Query.run (L : FloatLib) (q : Query) (out : q.Out L) : Prog (XE310 σ) (ModemStatus × q.Out L) := do
  let (status, response) ← q.prepare u fuel
  if status ≠ .ok then pure (status, out)
  else
    let (status, response) ← send_raw u fuel q.text response q.timeout_ms
    pure (q.read L ⟨status, response.body.view⟩ out)

/-! ## The others -/

def is_gnss_powered : Prog (XE310 σ) (ModemStatus × Bool) := do
  let (status, response) ← send_raw u fuel Command.is_gnss_powered.text {} 5000
  pure (Replies.is_gnss_powered ⟨status, response.body.view⟩)

def shutdown : Prog (XE310 σ) ModemStatus := do
  let (_, response) ← send_raw u fuel (AtCmd.cfun 4).text {} 15000
  let (status, _) ← send_raw u fuel (AtCmd.cfun 11).text response 15000
  pure status

/-- Commands up to the first that fails. -/
def send_each (response : AtResponse) : List String → Prog (XE310 σ) ModemStatus
  | [] => pure .ok
  | command :: rest => do
    let (status, response) ← send_raw u fuel command.toList response 5000
    if status ≠ .ok then pure status else send_each response rest

def set_scan_tables : Prog (XE310 σ) ModemStatus :=
  send_each u fuel {} [
    "AT%SETCFG=\"SCANTABLE\",\"0\",\"8\"",
    "AT%SETCFG=\"SCANTABLE\",\"1\",\"8\",\"0\",\"1\",\"0\",\"0\",\"0\",\"0\"",
    "AT%SETCFG=\"SCANTABLE\",\"1\",\"8\",\"1\",\"5\",\"1\",\"0\",\"1\",\"3\"",
    "AT%SETCFG=\"SCANTABLE\",\"1\",\"8\",\"2\",\"1\",\"0\",\"4\",\"0\",\"0\"",
    "AT%SETCFG=\"SCANTABLE\",\"1\",\"8\",\"3\",\"1\",\"1\",\"4\",\"1\",\"3\"",
    "AT%SETCFG=\"SCANTABLE\",\"1\",\"8\",\"11\",\"1\",\"1\",\"6\",\"2\",\"10\""]

def select_tables : Prog (XE310 σ) ModemStatus :=
  send_each u fuel {} [
    "AT%SETCFG=\"SCANTABLESELECTOR\",\"0\",\"8\"",
    "AT%SETCFG=\"SCANTABLESELECTOR\",\"1\",\"8\""]

/-- As built for the ME310M1, which forces the priority to 0. -/
def set_iot_tech (tech : RadioTech) (_gsm_priority : Nat) : Prog (XE310 σ) ModemStatus :=
  let send (n : Nat) : Prog (XE310 σ) ModemStatus := do
    let (status, _) ← send_raw u fuel (Command.set_iot_tech n 0).text {} 5000
    pure status
  if tech = .cat_m1 then send 0 else if tech = .nb_iot then send 1 else pure .invalid_param

/-- `power_radio` also sets `last_status_`, so it is put back. -/
def set_gnss_power (enable : Bool) : Prog (XE310 σ) ModemStatus := do
  let (status, _) ← send_raw u fuel (Command.set_gnss_power enable).text {} 5000
  Prog.when (enable = false) do
    let _ ← Setting.power_radio.run u fuel
  .modify fun x => { x with last_status_ := status }
  pure status

/-- This one goes to the controller itself. -/
def udp_send (conn_id : Nat) (data : Str) : Prog (XE310 σ) ModemStatus := do
  let (status, _) ← onController
    (ModemController.send_with_prompt u (Command.udp_send conn_id data).text data {} 5000)
  pure status

inductive Operation (L : FloatLib) where
  | setting (c : Setting)
  | query (q : Query) (out : q.Out L)
  | is_gnss_powered | shutdown | set_scan_tables | select_tables
  | set_iot_tech (tech : RadioTech) (gsm_priority : Nat)
  | set_gnss_power (enable : Bool)
  | udp_send (conn_id : Nat) (data : Str)

def Operation.run {L : FloatLib} : Operation L → Prog (XE310 σ) ModemStatus
  | .setting c => c.run u fuel
  | .query q out => do
    let (status, _) ← q.run u fuel L out
    pure status
  | .is_gnss_powered => do
    let (status, _) ← XE310.is_gnss_powered u fuel
    pure status
  | .shutdown => XE310.shutdown u fuel
  | .set_scan_tables => XE310.set_scan_tables u fuel
  | .select_tables => XE310.select_tables u fuel
  | .set_iot_tech tech gsm_priority => XE310.set_iot_tech u fuel tech gsm_priority
  | .set_gnss_power enable => XE310.set_gnss_power u fuel enable
  | .udp_send conn_id data => XE310.udp_send u conn_id data

end XE310

end LteModem
