import LteModem.FixedString
import LteModem.ModemController

/-!
# The commands of the modem (`modem/xe310.h`, `xe310.cpp`)

Each command is a value with the text that goes out for it. The commands that switch a subscription,
a socket or the power are kept apart from the others, because what was commanded last matters for them.
-/

open Strings

namespace LteModem

def MODEM_SHORT_STR : Nat := 32
def MODEM_MEDIUM_STR : Nat := 64
def MODEM_IP_STR : Nat := 48

/-! ## Enumerations

A value that the modem reports outside of the enumeration is kept as `other`.
-/

inductive RadioTech where
  | unknown | gsm | lte | cat_m1 | nb_iot | other (v : Int)
deriving DecidableEq, Repr

/-- `static_cast<RadioTech>(v)`, an `int8_t`. -/
def RadioTech.ofInt (v : Int) : RadioTech :=
  match (v + 128) % 256 - 128 with
  | -1 => .unknown
  | 0 => .gsm
  | 6 => .lte
  | 7 => .cat_m1
  | 9 => .nb_iot
  | w => .other w

def RadioTech.toInt : RadioTech → Int
  | .unknown => -1
  | .gsm => 0
  | .lte => 6
  | .cat_m1 => 7
  | .nb_iot => 9
  | .other v => v

inductive RegStatus where
  | not_registered | registered_home | searching | denied | unknown | registered_roaming | sms_only
  | sms_only_roaming | emergency | csfb_home | csfb_roaming | other (v : Nat)
deriving DecidableEq, Repr

/-- A conversion to `uint8_t`. -/
def toUInt8 (v : Int) : Nat := (v % 256).toNat

def RegStatus.ofInt (v : Int) : RegStatus :=
  match toUInt8 v with
  | 0 => .not_registered
  | 1 => .registered_home
  | 2 => .searching
  | 3 => .denied
  | 4 => .unknown
  | 5 => .registered_roaming
  | 6 => .sms_only
  | 7 => .sms_only_roaming
  | 8 => .emergency
  | 9 => .csfb_home
  | 10 => .csfb_roaming
  | n => .other n

inductive PsmMode where
  | disable | enable | other (v : Nat)
deriving DecidableEq, Repr

def PsmMode.ofInt (v : Int) : PsmMode :=
  match toUInt8 v with
  | 0 => .disable
  | 1 => .enable
  | n => .other n

def PsmMode.toNat : PsmMode → Nat
  | .disable => 0
  | .enable => 1
  | .other v => v

/-- A bit mask: its values are not only the named ones. -/
inductive PsmVersion where
  | no_coord | rel12_no_retain | rel12_retain | edrx | other (v : Nat)
deriving DecidableEq, Repr

def PsmVersion.toNat : PsmVersion → Nat
  | .no_coord => 1
  | .rel12_no_retain => 2
  | .rel12_retain => 4
  | .edrx => 8
  | .other v => v

inductive ServerState where
  | unknown | disconnected | connected | suspended | pending_data | listening | incoming_connection
  | dns_resolving | connecting | other (v : Nat)
deriving DecidableEq, Repr

/-- `static_cast<ServerState>` of a `uint8_t`. -/
def ServerState.ofUInt8 : Nat → ServerState
  | 0 => .disconnected
  | 1 => .connected
  | 2 => .suspended
  | 3 => .pending_data
  | 4 => .listening
  | 5 => .incoming_connection
  | 6 => .dns_resolving
  | 7 => .connecting
  | 255 => .unknown
  | n => .other n

/-- `GnssFixType`: 0 and 1 are no fix. -/
structure GnssFixType where
  value : Nat
deriving DecidableEq, Repr

def GnssFixType.valid (f : GnssFixType) : Bool := 1 < f.value

/-! ## Commands -/

inductive Subscription where
  | psm | cell_state | registration | pdp
deriving DecidableEq, Repr

structure TelitCpsmsConfig where
  mode : PsmMode := .disable
  fHasPeriodicRau : Bool := false
  req_periodic_rau : Nat := 0
  fHasGprsReadyTimer : Bool := false
  req_gprs_ready_timer : Nat := 0
  fHasPeriodicTau : Bool := false
  req_periodic_tau : Nat := 0
  fHasActiveTime : Bool := false
  req_active_time : Nat := 0
  fHasPsmVersion : Bool := false
  psm_version : PsmVersion := .rel12_retain
  fHasPsmThreshold : Bool := false
  psm_threshold : Nat := 60
deriving DecidableEq

inductive Command where
  | set_baudrate (rate : Nat) | set_echo (on : Bool) | at_ok | get_clock
  | set_telit_psm (cfg : TelitCpsmsConfig) | get_telit_psm | disable_telit_psm
  | set_iot_tech (n gsm_priority : Nat) | get_iot_tech
  | set_bands (gsm umts lte tdscdma lte_over_64 : Nat) | get_bands
  | get_registration_status (tech : RadioTech) | network_detach | get_signal_quality
  | set_operator_manual (oper : Str) (tech : RadioTech) | set_operator_auto | get_operator
  | get_available_operators | csurv_format | csurv (start_ch end_ch : Nat)
  | set_apn (cid : Nat) (apn : Str) | get_apn | disable_all_notifyev
  | set_plmnsearchexh_notify (on : Bool) | activate_pdp (cid : Nat) | get_pdp_state
  | get_ip_address (cid : Nat) | udp_send (conn_id : Nat) (data : Str) | udp_receive (conn_id max_bytes : Nat)
  | is_gnss_powered | set_gnss_power (on : Bool) | set_gnss_urc (on : Bool) | get_gnss_position
deriving DecidableEq

inductive AtCmd where
  | urc (s : Subscription) (on : Bool)
  | udp_open (conn_id : Nat) (host : Str) (remote_port local_port : Nat)
  | udp_status (conn_id : Nat)
  | udp_close (conn_id : Nat)
  | cfun (n : Nat)
  | reboot
  | raw (command : Str)
  | other (c : Command)
deriving DecidableEq

def onOff (on : Bool) (yes no : String) : Str := (if on then yes else no).toList

/-- The optional fields in their order, with their presence flags. -/
def TelitCpsmsConfig.optionals (c : TelitCpsmsConfig) : List (Bool × Nat) :=
  [(c.fHasPeriodicRau, c.req_periodic_rau), (c.fHasGprsReadyTimer, c.req_gprs_ready_timer),
    (c.fHasPeriodicTau, c.req_periodic_tau), (c.fHasActiveTime, c.req_active_time),
    (c.fHasPsmVersion, c.psm_version.toNat), (c.fHasPsmThreshold, c.psm_threshold)]

/-- The mode, then the fields up to the last one that is present. -/
def TelitCpsmsConfig.params (c : TelitCpsmsConfig) : Str :=
  decimal c.mode.toNat ++ (c.optionals.rdropWhile (!·.1)).flatMap fun (has, v) =>
    ',' :: if has then decimal v else []

def Command.text : Command → Str
  | .set_baudrate rate => snprintf 64 ("AT+IPR=".toList ++ decimal rate)
  | .set_echo on => onOff on "ATE1" "ATE0"
  | .at_ok => "AT".toList
  | .get_clock => "AT+CCLK?".toList
  | .set_telit_psm cfg => snprintf 256 ("AT#CPSMS=".toList ++ cfg.params)
  | .get_telit_psm => "AT#CPSMS?".toList
  | .disable_telit_psm => "AT#CPSMS=0".toList
  | .set_iot_tech n gsm => snprintf 32 ("AT#WS46=".toList ++ decimal n ++ [','] ++ decimal gsm)
  | .get_iot_tech => "AT#WS46?".toList
  | .set_bands gsm umts lte tdscdma lte_over =>
    snprintf 128 ("AT#BND=".toList ++ decimal gsm ++ [','] ++ decimal umts ++ [','] ++ decimal lte ++ [','] ++
      decimal tdscdma ++ [','] ++ decimal lte_over)
  | .get_bands => "AT#BND?".toList
  | .get_registration_status tech => if tech = .gsm then "AT+CREG?".toList else "AT+CEREG?".toList
  | .network_detach => "AT+CGATT=0".toList
  | .get_signal_quality => "AT+CESQ".toList
  | .set_operator_manual oper tech =>
    snprintf 128 ("AT+COPS=1,2,\"".toList ++ cstr oper ++ "\",".toList ++ decimalInt tech.toInt)
  | .set_operator_auto => "AT+COPS=0".toList
  | .get_operator => "AT+COPS?".toList
  | .get_available_operators => "AT+COPS=?".toList
  | .csurv_format => "AT#CSURVF=2".toList
  | .csurv start_ch end_ch =>
    if start_ch = 0 ∧ end_ch = 0 then "AT#CSURV".toList
    else snprintf 64 ("AT#CSURV=".toList ++ decimal start_ch ++ [','] ++ decimal end_ch)
  | .set_apn cid apn =>
    snprintf 128 ("AT+CGDCONT=".toList ++ decimal cid ++ ",\"IP\",\"".toList ++ cstr apn ++ ['"'])
  | .get_apn => "AT+CGDCONT?".toList
  | .disable_all_notifyev => "AT%NOTIFYEV=\"ALL\",0".toList
  | .set_plmnsearchexh_notify on =>
    onOff on "AT%NOTIFYEV=\"PLMNSEARCHEXH\",1" "AT%NOTIFYEV=\"PLMNSEARCHEXH\",0"
  | .activate_pdp cid => snprintf 32 ("AT#SGACT=1,".toList ++ decimal cid)
  | .get_pdp_state => "AT#SGACT?".toList
  | .get_ip_address cid => snprintf 32 ("AT+CGPADDR=".toList ++ decimal cid)
  | .udp_send conn_id data =>
    snprintf 64 ("AT#SSENDEXT=".toList ++ decimal conn_id ++ [','] ++ decimal data.length)
  | .udp_receive conn_id max_bytes =>
    snprintf 64 ("AT#SRECV=".toList ++ decimal conn_id ++ [','] ++ decimal max_bytes)
  | .is_gnss_powered => "AT$GPSP?".toList
  | .set_gnss_power on => onOff on "AT$GPSP=1" "AT$GPSP=0"
  | .set_gnss_urc on => onOff on "AT$GNSSNMEA=1,4" "AT$GNSSNMEA=0,0"
  | .get_gnss_position => "AT$GPSACP".toList

def Subscription.text : Subscription → Bool → Str
  | .psm, on => onOff on "AT#PSMURC=1" "AT#PSMURC=0"
  | .cell_state, on => onOff on "AT%STATEV=1" "AT%STATEV=0"
  | .registration, on => onOff on "AT+CEREG=4" "AT+CEREG=0"
  | .pdp, on => onOff on "AT+CGEREP=1" "AT+CGEREP=0"

def AtCmd.text : AtCmd → Str
  | .urc s on => s.text on
  | .udp_open conn_id host remote_port local_port =>
    snprintf 256 ("AT#SD=".toList ++ decimal conn_id ++ ",1,".toList ++ decimal remote_port ++ ",\"".toList ++
      cstr host ++ "\",0,".toList ++ decimal local_port ++ ",1,0,1".toList)
  | .udp_status conn_id => snprintf 32 ("AT#SS=".toList ++ decimal conn_id)
  | .udp_close conn_id => snprintf 32 ("AT#SH=".toList ++ decimal conn_id)
  | .cfun n => "AT+CFUN=".toList ++ decimal n
  | .reboot => "AT#REBOOT".toList
  | .raw command => command
  | .other c => c.text

example : (AtCmd.udp_open 1 "10.0.0.1".toList 7000 7000).text =
    "AT#SD=1,1,7000,\"10.0.0.1\",0,7000,1,0,1".toList := by decide

end LteModem
