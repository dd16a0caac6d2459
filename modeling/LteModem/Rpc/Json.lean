import LteModem.Lib.JsonText
import LteModem.NetworkLte.State
import LteModem.XE310.Surveys

/-!
# Reports as JSON (`examples/desktop/rpc_helpers.h`)

The records are those of the rest of the model, with the fields that only the reports show. An `item` is the
format string with its arguments. `to_json` prints it, into a buffer where the source has one.
-/

open Strings Json

namespace LteModem

/-! ## Enumerations -/

def NetworkLteState.to_str : NetworkLteState → Name
  | .none => name "none"
  | .rebooting => name "rebooting"
  | .switched_off => name "switched_off"
  | .off_mode => name "off_mode"
  | .sleep_mode => name "sleep_mode"
  | .setup_mode => name "setup_mode"
  | .idle_mode => name "idle_mode"
  | .network_detached => name "network_detached"
  | .network_attaching => name "network_attaching"
  | .pdp_context_closed => name "pdp_context_closed"
  | .pdp_context_opening => name "pdp_context_opening"
  | .data_ready => name "data_ready"
  | .transparent_mode => name "transparent_mode"
  | .modem_fota => name "modem_fota"
  | .done => name "done"
  | .gnss_fix_mode => name "unknown"

def SimStatus.to_str : SimStatus → Name
  | .not_inserted => name "not_inserted"
  | .inserted => name "inserted"
  | .inserted_and_pin_unlocked => name "inserted_and_pin_unlocked"
  | .inserted_and_ready => name "inserted_and_ready"
  | .other _ => name "unknown"

def RadioTech.to_str : RadioTech → Name
  | .gsm => name "gsm"
  | .lte => name "lte"
  | .cat_m1 => name "cat_m1"
  | .nb_iot => name "nb_iot"
  | .unknown | .other _ => name "unknown"

def RegStatus.to_str : RegStatus → Name
  | .not_registered => name "not_registered"
  | .registered_home => name "registered_home"
  | .searching => name "searching"
  | .denied => name "denied"
  | .unknown => name "unknown"
  | .registered_roaming => name "registered_roaming"
  | .sms_only => name "sms_only"
  | .sms_only_roaming => name "sms_only_roaming"
  | .emergency => name "emergency"
  | .csfb_home => name "csfb_home"
  | .csfb_roaming => name "csfb_roaming"
  | .other _ => name "unknown"

def PsmMode.to_str (v : PsmMode) : Name := if v = .enable then name "enable" else name "disable"

def ContextState.to_str (v : ContextState) : Name := if v = .active then name "active" else name "inactive"

def ServerState.to_str : ServerState → Name
  | .unknown => name "unknown"
  | .disconnected => name "disconnected"
  | .connected => name "connected"
  | _ => name "unknown"

def SurvCellType.to_str : SurvCellType → Name
  | .cell_2g_bcch => name "2g_bcch"
  | .cell_2g_non_bcch => name "2g_non_bcch"
  | .cell_4g => name "4g"

def GnssFixType.to_str (v : GnssFixType) : Name :=
  match v.value with
  | 0 => name "invalid"
  | 1 => name "invalid_fix"
  | 2 => name "fix_2d"
  | 3 => name "fix_3d"
  | _ => name "unknown"

namespace Rpc

/-! ## Records -/

/-- `RegistrationInfo`, with the fields that the state machine does not read. -/
structure RegistrationInfo extends LteModem.RegistrationInfo where
  active_time : FixedString MODEM_SHORT_STR := .empty _
  periodic_tau : FixedString MODEM_SHORT_STR := .empty _
  cause_type : Nat := 0
  reject_cause : Nat := 0
  fHasReject : Bool := false
  fHasPsm : Bool := false

structure ModemInfo where
  imei_sv : FixedString MODEM_SHORT_STR := .empty _
  iccid : FixedString MODEM_SHORT_STR := .empty _
  imsi : FixedString MODEM_SHORT_STR := .empty _
  model_id : FixedString MODEM_MEDIUM_STR := .empty _
  sw_package_version : SoftwarePackageVersion := {}
  telit_id : FixedString MODEM_MEDIUM_STR := .empty _
  identification : FixedString MODEM_LONG_STR := .empty _
  imei : FixedString MODEM_SHORT_STR := .empty _

structure NetworkInfo where
  context_state : ContextState := .inactive
  ip_address : FixedString MODEM_IP_STR := .empty _

/-- `ServerInfo`, with the fields that the state machine keeps elsewhere. -/
structure ServerInfo extends LteModem.ServerInfo where
  conn_id : Nat := 0
  fHasData : Bool := false

def DEFAULT_PLMN : String := "26801"

/-- `NetworkLteConfig`, with the fields that the state machine does not read. -/
structure NetworkLteConfig extends LteModem.NetworkLteConfig where
  max_network_attempts : Nat := 2
  max_pdp_retries : Nat := 2
  plmn : FixedString MODEM_SHORT_STR := .ofView _ DEFAULT_PLMN.toList
deriving DecidableEq

/-- The position as it crosses the threads. -/
structure GnssPositionMsg where
  utc : FixedString 16 := .empty _
  latitude : FixedString 16 := .empty _
  longitude : FixedString 16 := .empty _
  hdop : FixedString 16 := .empty _
  altitude : FixedString 16 := .empty _
  fix : GnssFixType := ⟨0⟩
  cog : FixedString 16 := .empty _
  spkm : FixedString 16 := .empty _
  spkn : FixedString 16 := .empty _
  date : FixedString 16 := .empty _
  nsat : Nat := 0
  hepe : FixedString 16 := .empty _
  vepe : FixedString 16 := .empty _

/-- The printing of a `float` with `%.1f`: a sign, an integer below 2^128 and one digit, or a word. -/
structure FloatText (L : FloatLib) where
  print : L.F → Str
  shape : ∀ x, (∃ negative n d, n < 2 ^ 128 ∧ isDigit d = true ∧ print x = fixed negative n d) ∨ print x ∈ nonFinite

theorem FloatText.valid {L : FloatLib} (P : FloatText L) (x : L.F) :
    isNumber (P.print x) = true ∨ P.print x ∈ nonFinite := by
  refine (P.shape x).imp_left ?_
  rintro ⟨negative, n, d, -, hd, h⟩
  rw [h]
  exact isNumber_fixed negative n hd

def FloatText.item {L : FloatLib} (P : FloatText L) (x : L.F) : Item := .float (P.print x) (P.valid x)

/-! ## Formats -/

def SoftwarePackageVersion.item (v : SoftwarePackageVersion) : Item := .obj [
  (name "package_version", .str v.package_version.view),
  (name "modem_version", .str v.modem_version.view),
  (name "prod_params_version", .str v.prod_params_version.view),
  (name "app_version", .str v.app_version.view)]

def ModemInfo.item (v : ModemInfo) : Item := .obj [
  (name "imei", .str v.imei.view),
  (name "imei_sv", .str v.imei_sv.view),
  (name "iccid", .str v.iccid.view),
  (name "imsi", .str v.imsi.view),
  (name "model_id", .str v.model_id.view),
  (name "telit_id", .str v.telit_id.view),
  (name "identification", .str v.identification.view),
  (name "sw_package_version", SoftwarePackageVersion.item v.sw_package_version)]

def RegistrationInfo.item (v : RegistrationInfo) : Item := .obj [
  (name "mode", .nat v.mode), (name "stat", .name v.stat.to_str),
  (name "lac", .cstr v.lac.view), (name "ci", .cstr v.ci.view),
  (name "act", .name v.act.to_str), (name "fHasLocation", .bool v.fHasLocation),
  (name "operator_name", .cstr v.operator_name.view), (name "apn", .cstr v.apn.view),
  (name "cause_type", .nat v.cause_type), (name "reject_cause", .nat v.reject_cause),
  (name "fHasReject", .bool v.fHasReject),
  (name "active_time", .cstr v.active_time.view), (name "periodic_tau", .cstr v.periodic_tau.view),
  (name "fHasPsm", .bool v.fHasPsm)]

def NetworkInfo.item (v : NetworkInfo) : Item := .obj [
  (name "context_state", .name v.context_state.to_str),
  (name "ip_address", .str v.ip_address.view)]

def rsrp_dbm (v : SignalQuality) : Int := if v.rsrp = 255 then -999 else -140 + v.rsrp

def SignalQuality.item (v : SignalQuality) : Item := .obj [
  (name "rssi", .int v.rssi), (name "ber", .int v.ber), (name "rsrq", .int v.rsrq), (name "rsrp", .int v.rsrp),
  (name "rsrp_dbm", .int (rsrp_dbm v))]

/-- The layout that both kinds of positions share. -/
def positionItem (utc latitude longitude hdop altitude : Str) (fix : GnssFixType) (cog spkm spkn date : Str)
    (nsat : Nat) (hepe vepe : Str) : Item := .obj [
  (name "utc", .str utc), (name "latitude", .str latitude),
  (name "longitude", .str longitude), (name "hdop", .str hdop),
  (name "altitude", .str altitude), (name "fix", .name fix.to_str),
  (name "cog", .str cog), (name "spkm", .str spkm),
  (name "spkn", .str spkn), (name "date", .str date),
  (name "nsat", .nat nsat),
  (name "hepe", .str hepe), (name "vepe", .str vepe)]

def GnssPosition.item (v : GnssPosition) : Item :=
  positionItem v.utc.view v.latitude.view v.longitude.view v.hdop.view v.altitude.view v.fix v.cog.view v.spkm.view
    v.spkn.view v.date.view v.nsat v.hepe.view v.vepe.view

def GnssPositionMsg.item (v : GnssPositionMsg) : Item :=
  positionItem v.utc.view v.latitude.view v.longitude.view v.hdop.view v.altitude.view v.fix v.cog.view v.spkm.view
    v.spkn.view v.date.view v.nsat v.hepe.view v.vepe.view

def CpsmsConfig.item (v : CpsmsConfig) : Item := .obj [
  (name "mode", .name v.mode.to_str),
  (name "req_periodic_rau", .str v.req_periodic_rau.view),
  (name "req_gprs_ready_timer", .str v.req_gprs_ready_timer.view),
  (name "req_periodic_tau", .str v.req_periodic_tau.view),
  (name "req_active_time", .str v.req_active_time.view)]

def TelitCpsmsConfig.item (v : TelitCpsmsConfig) : Item := .obj [
  (name "mode", .name v.mode.to_str),
  (name "fHasPeriodicRau", .bool v.fHasPeriodicRau), (name "req_periodic_rau", .nat v.req_periodic_rau),
  (name "fHasGprsReadyTimer", .bool v.fHasGprsReadyTimer), (name "req_gprs_ready_timer", .nat v.req_gprs_ready_timer),
  (name "fHasPeriodicTau", .bool v.fHasPeriodicTau), (name "req_periodic_tau", .nat v.req_periodic_tau),
  (name "fHasActiveTime", .bool v.fHasActiveTime), (name "req_active_time", .nat v.req_active_time),
  (name "fHasPsmVersion", .bool v.fHasPsmVersion), (name "psm_version", .nat v.psm_version.toNat),
  (name "fHasPsmThreshold", .bool v.fHasPsmThreshold), (name "psm_threshold", .nat v.psm_threshold)]

def TelitCpsmsStatus.item (v : TelitCpsmsStatus) : Item := .obj [
  (name "status", .nat v.status), (name "t3324", .nat v.t3324), (name "t3412", .nat v.t3412),
  (name "psm_version", .nat v.psm_version), (name "psm_threshold", .nat v.psm_threshold),
  (name "mode", .name v.mode.to_str)]

def ServerInfo.item (v : ServerInfo) : Item := .obj [
  (name "conn_id", .nat v.conn_id), (name "state", .name v.state.to_str), (name "protocol", .cstr v.protocol.view),
  (name "address", .cstr v.address.view), (name "port", .nat v.port), (name "has_data", .bool v.fHasData)]

def Operator.item (op : Operator) : Item := .obj [
  (name "long_name", .str op.long_name.view),
  (name "short_name", .str op.short_name.view),
  (name "numeric", .str op.numeric.view),
  (name "act", .name op.act.to_str)]

def CsurvCell.item (c : CsurvCell) : Item := .obj [
  (name "earfcn", .int c.earfcn), (name "rx_lev", .int c.rx_lev),
  (name "mcc", .nat c.mcc), (name "mnc", .nat c.mnc),
  (name "cell_id", .nat c.cell_id), (name "tac", .nat c.tac), (name "cell_identity", .nat c.cell_identity)]

/-- The fields that both surveys share. -/
def summary (fHasSummary : Bool) (no_arfcn no_bcch : Int) : List (Name × Item) := [
  (name "fHasSummary", .bool fHasSummary), (name "no_arfcn", .int no_arfcn), (name "no_bcch", .int no_bcch)]

def CsurvResult.summary (r : CsurvResult) : List (Name × Item) := Rpc.summary r.fHasSummary r.no_arfcn r.no_bcch

def CsurvResult.item (r : CsurvResult) : Item :=
  .obj ((name "cells", .arr (r.cells.map CsurvCell.item)) :: CsurvResult.summary r)

section Survey

variable {L : FloatLib} (P : FloatText L)

def SurvCell.item (c : SurvCell L) : Item := .obj [
  (name "type", .name c.type.to_str), (name "arfcn", .int c.arfcn), (name "bsic", .int c.bsic),
  (name "rx_lev", .int c.rx_lev), (name "ber", .int c.ber),
  (name "mcc", .nat c.mcc), (name "mnc", .nat c.mnc), (name "lac", .nat c.lac), (name "cell_id", .nat c.cell_id),
  (name "cell_stat", .cstr c.cell_stat.view),
  (name "num_arfcn", .int c.num_arfcn), (name "earfcn", .int c.earfcn), (name "tac", .nat c.tac),
  (name "phys_cell_id", .nat c.phys_cell_id),
  (name "cell_identity", .nat c.cell_identity), (name "rsrp", P.item c.rsrp), (name "rsrq", P.item c.rsrq)]

def NetworkSurveyResult.summary (r : NetworkSurveyResult L) : List (Name × Item) :=
  Rpc.summary r.fHasSummary r.no_arfcn r.no_bcch

def NetworkSurveyResult.item (r : NetworkSurveyResult L) : Item :=
  .obj (NetworkSurveyResult.summary r ++ [(name "cells", .arr (r.cells.map (SurvCell.item P)))])

end Survey

def StateTimers.item (t : StateTimers) : Item := .obj [
  (name "network_attaching_ms", .nat t.network_attaching_ms),
  (name "pdp_context_opening_ms", .nat t.pdp_context_opening_ms),
  (name "data_ready_ms", .nat t.data_ready_ms), (name "transparent_mode_ms", .nat t.transparent_mode_ms),
  (name "sleep_mode_ms", .nat t.sleep_mode_ms), (name "off_mode_ms", .nat t.off_mode_ms)]

def radio_tech_from_str (s : Str) : RadioTech :=
  if s = (name "gsm").text then .gsm
  else if s = (name "lte").text then .lte
  else if s = (name "cat_m1").text then .cat_m1
  else if s = (name "nb_iot").text then .nb_iot
  else .cat_m1

/-- The fields of a configuration, in the order of the report. -/
inductive Key where
  | cid | attach_timeout_sec | pdp_timeout_sec | data_ready_timeout_sec | transparent_timeout_sec
  | max_network_attempts | max_attach_retries | max_pdp_retries | default_lte_bands | default_iot_tech | default_apn
  | fallback_lte_bands | fallback_iot_tech | fallback_apn | plmn | fPsmEnable | fCfunSleep | psm_t3412 | psm_t3324
  | conn_id
deriving DecidableEq, Repr

def Key.name : Key → Name
  | .cid => Json.name "cid"
  | .attach_timeout_sec => Json.name "attach_timeout_sec"
  | .pdp_timeout_sec => Json.name "pdp_timeout_sec"
  | .data_ready_timeout_sec => Json.name "data_ready_timeout_sec"
  | .transparent_timeout_sec => Json.name "transparent_timeout_sec"
  | .max_network_attempts => Json.name "max_network_attempts"
  | .max_attach_retries => Json.name "max_attach_retries"
  | .max_pdp_retries => Json.name "max_pdp_retries"
  | .default_lte_bands => Json.name "default_lte_bands"
  | .default_iot_tech => Json.name "default_iot_tech"
  | .default_apn => Json.name "default_apn"
  | .fallback_lte_bands => Json.name "fallback_lte_bands"
  | .fallback_iot_tech => Json.name "fallback_iot_tech"
  | .fallback_apn => Json.name "fallback_apn"
  | .plmn => Json.name "plmn"
  | .fPsmEnable => Json.name "fPsmEnable"
  | .fCfunSleep => Json.name "fCfunSleep"
  | .psm_t3412 => Json.name "psm_t3412"
  | .psm_t3324 => Json.name "psm_t3324"
  | .conn_id => Json.name "conn_id"

def NetworkLteConfig.item (c : NetworkLteConfig) : Item := .obj [
  (name "cid", .nat c.cid), (name "attach_timeout_sec", .nat c.attach_timeout_sec),
  (name "pdp_timeout_sec", .nat c.pdp_timeout_sec),
  (name "data_ready_timeout_sec", .nat c.data_ready_timeout_sec),
  (name "transparent_timeout_sec", .nat c.transparent_timeout_sec),
  (name "max_network_attempts", .nat c.max_network_attempts), (name "max_attach_retries", .nat c.max_attach_retries),
  (name "max_pdp_retries", .nat c.max_pdp_retries),
  (name "default_lte_bands", .nat c.default_lte_bands), (name "default_iot_tech", .name c.default_iot_tech.to_str),
  (name "default_apn", .cstr c.default_apn.view),
  (name "fallback_lte_bands", .nat c.fallback_lte_bands), (name "fallback_iot_tech", .name c.fallback_iot_tech.to_str),
  (name "fallback_apn", .cstr c.fallback_apn.view),
  (name "plmn", .cstr c.plmn.view), (name "fPsmEnable", .bool c.fPsmEnable), (name "fCfunSleep", .bool c.fCfunSleep),
  (name "psm_t3412", .nat c.psm_t3412), (name "psm_t3324", .nat c.psm_t3324), (name "conn_id", .nat c.conn_id)]

/-! ## Texts -/

def RegistrationInfo.to_json (v : RegistrationInfo) : Str := snprintf 512 (RegistrationInfo.item v).text

def SignalQuality.to_json (v : SignalQuality) : Str := snprintf 128 (SignalQuality.item v).text

def TelitCpsmsConfig.to_json (v : TelitCpsmsConfig) : Str := snprintf 512 (TelitCpsmsConfig.item v).text

def TelitCpsmsStatus.to_json (v : TelitCpsmsStatus) : Str := snprintf 256 (TelitCpsmsStatus.item v).text

def ServerInfo.to_json (v : ServerInfo) : Str := snprintf 256 (ServerInfo.item v).text

def CsurvCell.to_json (c : CsurvCell) : Str := snprintf 256 (CsurvCell.item c).text

/-- `{"cells":[` and the cells -/
def CsurvResult.head (cells : List Str) : Str :=
  '{' :: '"' :: ((name "cells").text ++ '"' :: ':' :: '[' :: commas cells)

/-- `],"fHasSummary":%s,"no_arfcn":%d,"no_bcch":%d}` -/
def CsurvResult.tail (r : CsurvResult) : Str := ']' :: ',' :: (members (CsurvResult.summary r) ++ ['}'])

/-- The cells have a buffer each, and what follows them another one. -/
def CsurvResult.to_json (r : CsurvResult) : Str :=
  CsurvResult.head (r.cells.map CsurvCell.to_json) ++ snprintf 64 (CsurvResult.tail r)

section Survey

variable {L : FloatLib} (P : FloatText L)

def SurvCell.to_json (c : SurvCell L) : Str := snprintf 512 (SurvCell.item P c).text

/-- `{"fHasSummary":%s,"no_arfcn":%d,"no_bcch":%d,"cells":[` -/
def NetworkSurveyResult.head (r : NetworkSurveyResult L) : Str :=
  '{' :: (members (NetworkSurveyResult.summary r) ++ ',' :: '"' :: ((name "cells").text ++ ['"', ':', '[']))

/-- What is in front of the cells has a buffer, and each cell. -/
def NetworkSurveyResult.to_json (r : NetworkSurveyResult L) : Str :=
  snprintf 64 (NetworkSurveyResult.head r) ++ (commas (r.cells.map (SurvCell.to_json P)) ++ [']', '}'])

end Survey

def StateTimers.to_json (t : StateTimers) : Str := snprintf 192 (StateTimers.item t).text

def config_to_json (c : NetworkLteConfig) : Str := snprintf 1024 (NetworkLteConfig.item c).text

/-! ## Reports -/

/-- The values that the requests are answered with, but for texts. -/
inductive Report (L : FloatLib) where
  | registration_info (v : RegistrationInfo)
  | signal_quality (v : SignalQuality)
  | modem_info (v : ModemInfo)
  | network_info (v : NetworkInfo)
  | cpsms_config (v : CpsmsConfig)
  | telit_cpsms_config (v : TelitCpsmsConfig)
  | telit_cpsms_status (v : TelitCpsmsStatus)
  | network_survey_result (r : NetworkSurveyResult L)
  | available_operators (ops : List Operator)
  | csurv_result (r : CsurvResult)
  | server_info (v : ServerInfo)
  | server_info_array (l : List ServerInfo)
  | config (c : NetworkLteConfig)
  | timers (t : StateTimers)
  | gnss_position (v : GnssPosition)
  | gnss_position_msg (v : GnssPositionMsg)

def IsInt32 (v : Int) : Prop := -2 ^ 31 ≤ v ∧ v < 2 ^ 31

/-! The numbers have the widths of their fields, and `rsrp_dbm` does not overflow. -/

def SignalQuality.InRange (v : SignalQuality) : Prop :=
  IsInt32 v.rssi ∧ IsInt32 v.ber ∧ IsInt32 v.rsrq ∧ IsInt32 v.rsrp ∧ IsInt32 (-140 + v.rsrp)

def TelitCpsmsConfig.InRange (v : TelitCpsmsConfig) : Prop :=
  v.req_periodic_rau < 2 ^ 32 ∧ v.req_gprs_ready_timer < 2 ^ 32 ∧ v.req_periodic_tau < 2 ^ 32 ∧
    v.req_active_time < 2 ^ 32 ∧ v.psm_version.toNat < 2 ^ 8 ∧ v.psm_threshold < 2 ^ 32

def TelitCpsmsStatus.InRange (v : TelitCpsmsStatus) : Prop :=
  v.status < 2 ^ 8 ∧ v.t3324 < 2 ^ 32 ∧ v.t3412 < 2 ^ 32 ∧ v.psm_version < 2 ^ 8 ∧ v.psm_threshold < 2 ^ 32

structure SurvCell.InRange {L : FloatLib} (c : SurvCell L) : Prop where
  arfcn : IsInt32 c.arfcn
  bsic : IsInt32 c.bsic
  rx_lev : IsInt32 c.rx_lev
  ber : IsInt32 c.ber
  mcc : c.mcc < 2 ^ 16
  mnc : c.mnc < 2 ^ 16
  lac : c.lac < 2 ^ 32
  cell_id : c.cell_id < 2 ^ 32
  num_arfcn : IsInt32 c.num_arfcn
  earfcn : IsInt32 c.earfcn
  tac : c.tac < 2 ^ 32
  phys_cell_id : c.phys_cell_id < 2 ^ 32
  cell_identity : c.cell_identity < 2 ^ 64

def ServerInfo.InRange (v : ServerInfo) : Prop := v.conn_id < 2 ^ 8 ∧ v.port < 2 ^ 16

def NetworkLteConfig.InRange (c : NetworkLteConfig) : Prop :=
  c.cid < 2 ^ 8 ∧ c.attach_timeout_sec < 2 ^ 8 ∧ c.pdp_timeout_sec < 2 ^ 8 ∧ c.data_ready_timeout_sec < 2 ^ 8 ∧
    c.transparent_timeout_sec < 2 ^ 16 ∧ c.max_network_attempts < 2 ^ 8 ∧ c.max_attach_retries < 2 ^ 8 ∧
    c.max_pdp_retries < 2 ^ 8 ∧ c.default_lte_bands < 2 ^ 64 ∧ c.fallback_lte_bands < 2 ^ 64 ∧
    c.psm_t3412 < 2 ^ 32 ∧ c.psm_t3324 < 2 ^ 32 ∧ c.conn_id < 2 ^ 8

def StateTimers.InRange (t : StateTimers) : Prop :=
  t.network_attaching_ms < 2 ^ 32 ∧ t.pdp_context_opening_ms < 2 ^ 32 ∧ t.data_ready_ms < 2 ^ 32 ∧
    t.transparent_mode_ms < 2 ^ 32 ∧ t.sleep_mode_ms < 2 ^ 32 ∧ t.off_mode_ms < 2 ^ 32

namespace Report

variable {L : FloatLib} (P : FloatText L)

def to_json : Report L → Str
  | .registration_info v => v.to_json
  | .signal_quality v => SignalQuality.to_json v
  | .modem_info v => v.item.text
  | .network_info v => v.item.text
  | .cpsms_config v => (CpsmsConfig.item v).text
  | .telit_cpsms_config v => TelitCpsmsConfig.to_json v
  | .telit_cpsms_status v => TelitCpsmsStatus.to_json v
  | .network_survey_result r => NetworkSurveyResult.to_json P r
  | .available_operators ops => array (ops.map fun op => (Operator.item op).text)
  | .csurv_result r => CsurvResult.to_json r
  | .server_info v => v.to_json
  | .server_info_array l => array (l.map ServerInfo.to_json)
  | .config c => config_to_json c
  | .timers t => StateTimers.to_json t
  | .gnss_position v => (GnssPosition.item v).text
  | .gnss_position_msg v => v.item.text

/-- What a report says, if no buffer cuts it. -/
def item : Report L → Item
  | .registration_info v => v.item
  | .signal_quality v => SignalQuality.item v
  | .modem_info v => v.item
  | .network_info v => v.item
  | .cpsms_config v => CpsmsConfig.item v
  | .telit_cpsms_config v => TelitCpsmsConfig.item v
  | .telit_cpsms_status v => TelitCpsmsStatus.item v
  | .network_survey_result r => NetworkSurveyResult.item P r
  | .available_operators ops => .arr (ops.map Operator.item)
  | .csurv_result r => CsurvResult.item r
  | .server_info v => v.item
  | .server_info_array l => .arr (l.map ServerInfo.item)
  | .config c => c.item
  | .timers t => StateTimers.item t
  | .gnss_position v => GnssPosition.item v
  | .gnss_position_msg v => v.item

def InRange : Report L → Prop
  | .signal_quality v => SignalQuality.InRange v
  | .telit_cpsms_config v => TelitCpsmsConfig.InRange v
  | .telit_cpsms_status v => TelitCpsmsStatus.InRange v
  | .network_survey_result r => ∀ c ∈ r.cells, SurvCell.InRange c
  | .csurv_result r => ∀ c ∈ r.cells, Replies.InRange c
  | .server_info v => v.InRange
  | .server_info_array l => ∀ v ∈ l, v.InRange
  | .config c => c.InRange
  | .timers t => StateTimers.InRange t
  | .registration_info _ | .modem_info _ | .network_info _ | .cpsms_config _ | .available_operators _
  | .gnss_position _ | .gnss_position_msg _ => True

/-- The three buffers that are too small for some values. -/
def Fits : Report L → Prop
  | .registration_info v => v.item.text.length < 512
  | .network_survey_result r => (NetworkSurveyResult.head r).length < 64
  | .csurv_result r => (CsurvResult.tail r).length < 64
  | _ => True

end Report

/-! ### The other buffers are large enough -/

theorem snprintf_obj {n : Nat} {f : Name × Item} {l : List (Name × Item)} {ws : List Nat}
    (h : List.Forall₂ Takes (f :: l) ws) (hn : ws.sum + 1 < n) : snprintf n (Item.obj (f :: l)).text =
      (Item.obj (f :: l)).text := by
  have := length_obj_le h
  exact List.take_of_length_le (by omega)

section Widths

variable {s : String} {l : List Char} {h : s.toList.all simpleChar = true} (hs : s = String.ofList l) {n : Nat}

include hs

theorem takes_u8 (hn : n < 2 ^ 8) : Takes (name s h, .nat n) (l.length + 3 + 4) := takes_nat hs (by decide) (by omega)

theorem takes_u16 (hn : n < 2 ^ 16) : Takes (name s h, .nat n) (l.length + 5 + 4) := takes_nat hs (by decide) (by omega)

theorem takes_u32 (hn : n < 2 ^ 32) : Takes (name s h, .nat n) (l.length + 10 + 4) := takes_nat hs (by decide) (by omega)

theorem takes_u64 (hn : n < 2 ^ 64) : Takes (name s h, .nat n) (l.length + 20 + 4) := takes_nat hs (by decide) (by omega)

theorem takes_int32 {v : Int} (hv : IsInt32 v) : Takes (name s h, .int v) (l.length + (10 + 1) + 4) := by
  obtain ⟨h₁, h₂⟩ := hv
  exact takes_int hs (by decide) (by omega)

theorem takes_float {L : FloatLib} (P : FloatText L) (x : L.F) : Takes (name s h, P.item x) (l.length + 42 + 4) := by
  have hlen : (P.print x).length ≤ 42 := by
    rcases P.shape x with ⟨negative, n, d, hn, -, hx⟩ | hx
    · have := length_decimal_le (n := n) (k := 39) (by decide) (by omega)
      have hsign : (if negative then ['-'] else []).length ≤ 1 := by cases negative <;> decide
      rw [hx, fixed, List.length_append, List.length_append, List.length_cons, List.length_singleton]
      omega
    · rcases mem_nonFinite.mp hx with hx | hx | hx | hx <;> exact hx ▸ by decide
  rw [Takes, length_name hs]
  change _ + (P.print x).length + 4 ≤ _
  omega

end Widths

theorem SignalQuality.whole {v : SignalQuality} (h : SignalQuality.InRange v) :
    SignalQuality.to_json v = (SignalQuality.item v).text := by
  obtain ⟨hrssi, hber, hrsrq, hrsrp, hdbm⟩ := h
  have hdbm : IsInt32 (rsrp_dbm v) := by
    unfold rsrp_dbm
    split
    · exact ⟨by omega, by omega⟩
    · exact hdbm
  exact snprintf_obj (.cons (takes_int32 rfl hrssi) <| .cons (takes_int32 rfl hber) <| .cons (takes_int32 rfl hrsrq) <|
    .cons (takes_int32 rfl hrsrp) <| .cons (takes_int32 rfl hdbm) .nil) (by decide)

theorem StateTimers.whole {t : StateTimers} (h : StateTimers.InRange t) :
    StateTimers.to_json t = (StateTimers.item t).text := by
  obtain ⟨h₁, h₂, h₃, h₄, h₅, h₆⟩ := h
  exact snprintf_obj (.cons (takes_u32 rfl h₁) <| .cons (takes_u32 rfl h₂) <| .cons (takes_u32 rfl h₃) <| .cons (takes_u32 rfl h₄) <|
    .cons (takes_u32 rfl h₅) <| .cons (takes_u32 rfl h₆) .nil) (by decide)

theorem PsmMode.length_to_str (v : PsmMode) : v.to_str.text.length ≤ 7 := by
  unfold PsmMode.to_str
  split
  · exact (length_name rfl).trans_le (by decide)
  · exact (length_name rfl).trans_le (by decide)

theorem ServerState.length_to_str (v : ServerState) : v.to_str.text.length ≤ 12 := by
  unfold ServerState.to_str
  split
  all_goals exact (length_name rfl).trans_le (by decide)

theorem RadioTech.length_to_str (v : RadioTech) : v.to_str.text.length ≤ 7 := by
  unfold RadioTech.to_str
  split
  all_goals exact (length_name rfl).trans_le (by decide)

theorem TelitCpsmsConfig.whole {v : TelitCpsmsConfig} (h : TelitCpsmsConfig.InRange v) :
    TelitCpsmsConfig.to_json v = (TelitCpsmsConfig.item v).text := by
  obtain ⟨h₁, h₂, h₃, h₄, h₅, h₆⟩ := h
  exact snprintf_obj (.cons (takes_name rfl (PsmMode.length_to_str _)) <|
    .cons (takes_bool rfl _) <| .cons (takes_u32 rfl h₁) <| .cons (takes_bool rfl _) <| .cons (takes_u32 rfl h₂) <|
    .cons (takes_bool rfl _) <| .cons (takes_u32 rfl h₃) <| .cons (takes_bool rfl _) <| .cons (takes_u32 rfl h₄) <|
    .cons (takes_bool rfl _) <| .cons (takes_u8 rfl h₅) <| .cons (takes_bool rfl _) <| .cons (takes_u32 rfl h₆) .nil)
    (by decide)

theorem TelitCpsmsStatus.whole {v : TelitCpsmsStatus} (h : TelitCpsmsStatus.InRange v) :
    TelitCpsmsStatus.to_json v = (TelitCpsmsStatus.item v).text := by
  obtain ⟨h₁, h₂, h₃, h₄, h₅⟩ := h
  exact snprintf_obj (.cons (takes_u8 rfl h₁) <| .cons (takes_u32 rfl h₂) <| .cons (takes_u32 rfl h₃) <|
    .cons (takes_u8 rfl h₄) <| .cons (takes_u32 rfl h₅) <| .cons (takes_name rfl (PsmMode.length_to_str _)) .nil)
    (by decide)

theorem ServerInfo.whole {v : ServerInfo} (h : v.InRange) : v.to_json = v.item.text :=
  snprintf_obj (.cons (takes_u8 rfl h.1) <| .cons (takes_name rfl (ServerState.length_to_str _)) <|
    .cons (takes_cstr rfl v.protocol.fits) <| .cons (takes_cstr rfl v.address.fits) <| .cons (takes_u16 rfl h.2) <|
    .cons (takes_bool rfl _) .nil) (by decide)

theorem CsurvCell.whole {c : CsurvCell} (h : Replies.InRange c) : CsurvCell.to_json c = (CsurvCell.item c).text :=
  snprintf_obj (.cons (takes_int32 rfl h.earfcn) <| .cons (takes_int32 rfl h.rx_lev) <|
    .cons (takes_u16 rfl h.mcc) <| .cons (takes_u16 rfl h.mnc) <| .cons (takes_u32 rfl h.cell_id) <|
    .cons (takes_u32 rfl h.tac) <| .cons (takes_u64 rfl h.cell_identity) .nil) (by decide)

theorem SurvCellType.length_to_str (v : SurvCellType) : v.to_str.text.length ≤ 11 := by
  unfold SurvCellType.to_str
  split
  all_goals exact (length_name rfl).trans_le (by decide)

theorem SurvCell.whole {L : FloatLib} (P : FloatText L) {c : SurvCell L} (h : SurvCell.InRange c) :
    SurvCell.to_json P c = (SurvCell.item P c).text :=
  snprintf_obj (.cons (takes_name rfl (SurvCellType.length_to_str _)) <| .cons (takes_int32 rfl h.arfcn) <|
    .cons (takes_int32 rfl h.bsic) <| .cons (takes_int32 rfl h.rx_lev) <| .cons (takes_int32 rfl h.ber) <|
    .cons (takes_u16 rfl h.mcc) <| .cons (takes_u16 rfl h.mnc) <| .cons (takes_u32 rfl h.lac) <|
    .cons (takes_u32 rfl h.cell_id) <| .cons (takes_cstr rfl c.cell_stat.fits) <|
    .cons (takes_int32 rfl h.num_arfcn) <| .cons (takes_int32 rfl h.earfcn) <| .cons (takes_u32 rfl h.tac) <|
    .cons (takes_u32 rfl h.phys_cell_id) <| .cons (takes_u64 rfl h.cell_identity) <|
    .cons (takes_float rfl P c.rsrp) <| .cons (takes_float rfl P c.rsrq) .nil) (by decide)

theorem NetworkLteConfig.whole {c : NetworkLteConfig} (h : c.InRange) :
    config_to_json c = c.item.text := by
  obtain ⟨h₁, h₂, h₃, h₄, h₅, h₆, h₇, h₈, h₉, h₁₀, h₁₁, h₁₂, h₁₃⟩ := h
  exact snprintf_obj (.cons (takes_u8 rfl h₁) <| .cons (takes_u8 rfl h₂) <| .cons (takes_u8 rfl h₃) <|
    .cons (takes_u8 rfl h₄) <| .cons (takes_u16 rfl h₅) <| .cons (takes_u8 rfl h₆) <| .cons (takes_u8 rfl h₇) <|
    .cons (takes_u8 rfl h₈) <| .cons (takes_u64 rfl h₉) <| .cons (takes_name rfl (RadioTech.length_to_str _)) <|
    .cons (takes_cstr rfl c.default_apn.fits) <| .cons (takes_u64 rfl h₁₀) <|
    .cons (takes_name rfl (RadioTech.length_to_str _)) <| .cons (takes_cstr rfl c.fallback_apn.fits) <|
    .cons (takes_cstr rfl c.plmn.fits) <| .cons (takes_bool rfl _) <| .cons (takes_bool rfl _) <|
    .cons (takes_u32 rfl h₁₁) <| .cons (takes_u32 rfl h₁₂) <| .cons (takes_u8 rfl h₁₃) .nil) (by decide)

/-! ### Round trip -/

theorem CsurvResult.item_text (r : CsurvResult) :
    (CsurvResult.item r).text =
      CsurvResult.head (r.cells.map fun c => (CsurvCell.item c).text) ++ CsurvResult.tail r := by
  have hcells : (Item.arr (r.cells.map CsurvCell.item)).text =
      '[' :: (commas (r.cells.map fun c => (CsurvCell.item c).text) ++ [']']) := by
    change array ((r.cells.map CsurvCell.item).map _) = _
    rw [List.map_map]
    rfl
  rw [CsurvResult.item, Item.obj_text, members, List.map_cons, hcells]
  change '{' :: ('"' :: (_ ++ _) ++ ',' :: members (CsurvResult.summary r) ++ ['}']) = _
  simp only [CsurvResult.head, CsurvResult.tail, List.cons_append, List.append_assoc, List.nil_append]

theorem NetworkSurveyResult.item_text {L : FloatLib} (P : FloatText L) (r : NetworkSurveyResult L) :
    (NetworkSurveyResult.item P r).text = NetworkSurveyResult.head r ++
      (commas (r.cells.map fun c => (SurvCell.item P c).text) ++ [']', '}']) := by
  have hcells : (Item.arr (r.cells.map (SurvCell.item P))).text =
      '[' :: (commas (r.cells.map fun c => (SurvCell.item P c).text) ++ [']']) := by
    change array ((r.cells.map (SurvCell.item P)).map _) = _
    rw [List.map_map]
    rfl
  have hmembers : members (NetworkSurveyResult.summary r ++ [(name "cells", Item.arr (r.cells.map (SurvCell.item P)))]) =
      members (NetworkSurveyResult.summary r) ++
        ',' :: '"' :: ((name "cells").text ++ '"' :: ':' :: (Item.arr (r.cells.map (SurvCell.item P))).text) := by
    simp only [members, NetworkSurveyResult.summary, Rpc.summary, List.cons_append, List.nil_append, List.map_cons,
      List.map_nil, commas, List.append_assoc]
  rw [NetworkSurveyResult.item, Item.obj_text, hmembers, hcells, NetworkSurveyResult.head]
  simp only [List.cons_append, List.append_assoc, List.nil_append]

section Reads

variable {L : FloatLib} (P : FloatText L)

theorem report_reads_iff (r : Report L) (h : r.InRange) :
    parse (r.to_json P) = some (r.item P).json ↔ (r.item P).good ∧ r.Fits := by
  have unbuffered : ∀ i : Item, parse i.text = some i.json ↔ i.good ∧ True :=
    fun i => by rw [i.parse_iff, and_true]
  cases r with
  | registration_info v => exact v.item.parse_snprintf_iff (by decide)
  | signal_quality v =>
    rw [Report.to_json, SignalQuality.whole h]
    exact unbuffered _
  | telit_cpsms_config v =>
    rw [Report.to_json, TelitCpsmsConfig.whole h]
    exact unbuffered _
  | telit_cpsms_status v =>
    rw [Report.to_json, TelitCpsmsStatus.whole h]
    exact unbuffered _
  | server_info v =>
    rw [Report.to_json, ServerInfo.whole h]
    exact unbuffered _
  | server_info_array l =>
    have hl : l.map ServerInfo.to_json = (l.map ServerInfo.item).map (·.text) := by
      rw [List.map_map]
      exact List.map_congr_left fun v hv => ServerInfo.whole (h v hv)
    rw [Report.to_json, hl]
    exact unbuffered (.arr _)
  | available_operators ops =>
    have hl : (ops.map fun op => (Operator.item op).text) = (ops.map Operator.item).map (·.text) := by
      rw [List.map_map]
      rfl
    rw [Report.to_json, hl]
    exact unbuffered (.arr _)
  | config c =>
    rw [Report.to_json, NetworkLteConfig.whole h]
    exact unbuffered _
  | timers t =>
    rw [Report.to_json, StateTimers.whole h]
    exact unbuffered _
  | csurv_result r =>
    rw [Report.to_json, CsurvResult.to_json, List.map_congr_left fun c hc => CsurvCell.whole (h c hc)]
    have hbuffer := (CsurvResult.item r).parse_buffer_iff _ []
      ((CsurvResult.item_text r).trans (List.append_nil _).symm) (n := 64) (by decide)
    rwa [List.append_nil] at hbuffer
  | network_survey_result r =>
    rw [Report.to_json, NetworkSurveyResult.to_json, List.map_congr_left fun c hc => SurvCell.whole P (h c hc)]
    exact (NetworkSurveyResult.item P r).parse_buffer_iff [] _ (NetworkSurveyResult.item_text P r) (n := 64)
      (by decide)
  | modem_info v | network_info v | cpsms_config v | gnss_position v | gnss_position_msg v => exact unbuffered _

end Reads

/-! ## Replies -/

/-- What a request for a value is answered with. -/
inductive Reply (L : FloatLib) where
  | report (r : Report L)
  /-- `get_iccid`, `get_imsi` and `get_clock` -/
  | text (v : FixedString MODEM_SHORT_STR)
  | sim_status (v : SimStatus)
  | radio_tech (v : RadioTech)
  | reg_status (v : RegStatus)
  | psm_mode (v : PsmMode)

namespace Reply

variable {L : FloatLib} (P : FloatText L)

def payload : Reply L → Str
  | .report r => r.to_json P
  | .text v => '"' :: (cstr v.view ++ ['"'])
  | .sim_status v => verbatim v.to_str
  | .radio_tech v => verbatim v.to_str
  | .reg_status v => verbatim v.to_str
  | .psm_mode v => verbatim v.to_str

def json : Reply L → Json
  | .report r => (r.item P).json
  | .text v => .str v.view
  | .sim_status v => .str v.to_str.text
  | .radio_tech v => .str v.to_str.text
  | .reg_status v => .str v.to_str.text
  | .psm_mode v => .str v.to_str.text

def InRange : Reply L → Prop
  | .report r => r.InRange
  | _ => True

/-- A bare text is not escaped at all, the texts of a report are, but for most control characters. -/
def Readable : Reply L → Prop
  | .report r => (r.item P).good ∧ r.Fits
  | .text v => v.view.all simpleChar = true
  | _ => True

end Reply

/-- Every reply is JSON for what it says exactly where it is readable. -/
theorem reply_reads_iff {L : FloatLib} (P : FloatText L) (r : Reply L) (h : r.InRange) :
    parse (r.payload P) = some (r.json P) ↔ r.Readable P := by
  cases r with
  | report r => exact report_reads_iff P r h
  | text v => exact parse_bare_iff v.view
  | sim_status v | radio_tech v | reg_status v | psm_mode v => exact (Item.name v.to_str).parse_iff.trans (by
      simp [Item.good, Item.name, Reply.Readable])

/-- Floats that are whole numbers. -/
def wholeFloats : FloatLib := ⟨Int, 0, atoi, id⟩

def wholeText : FloatText wholeFloats where
  print (v : Int) :=
    if v.natAbs < 2 ^ 128 then fixed (v < 0) v.natAbs '0'
    else if v < 0 then ['-', 'i', 'n', 'f'] else ['i', 'n', 'f']
  shape (v : Int) := by
    split_ifs with h
    · exact .inl ⟨_, _, _, h, rfl, rfl⟩
    · exact .inr (by decide)
    · exact .inr (by decide)

/-- A survey that found a cell of each network. -/
def survey : NetworkSurveyResult wholeFloats where
  fHasSummary := true
  no_arfcn := 84
  no_bcch := 3
  cells := [
    { type := .cell_4g, earfcn := 6300, rx_lev := -85, mcc := 268, mnc := 1, phys_cell_id := 214, tac := 3010,
      cell_identity := 26927105, rsrp := (-85 : Int), rsrq := (-11 : Int) },
    { type := .cell_2g_bcch, arfcn := 42, bsic := 17, rx_lev := -71, mcc := 268, mnc := 3, lac := 1207,
      cell_id := 34417, cell_stat := .ofView _ "CELL_SUITABLE".toList, num_arfcn := 5 }]

/-- A network whose name has quotes in it. -/
def quotedOperator : RegistrationInfo where
  operator_name := .ofView _ "the \"M\" net".toList
  apn := .ofView _ "internet".toList
  lac := .ofView _ "0BC2".toList
  mode := 2
  stat := .registered_roaming
  act := .nb_iot
  fHasLocation := true

theorem reply_reads_survey :
    parse ((Reply.report (.network_survey_result survey)).payload wholeText) =
        some ((Reply.report (.network_survey_result survey)).json wholeText) ∧
      parse ((Reply.report (.registration_info quotedOperator)).payload wholeText) =
        some ((Reply.report (.registration_info quotedOperator)).json wholeText) := by
  have hrange : ∀ c ∈ survey.cells, SurvCell.InRange c := by
    intro c hc
    simp only [survey, List.mem_cons, List.not_mem_nil, or_false] at hc
    rcases hc with rfl | rfl <;> constructor <;> (try unfold IsInt32) <;> decide
  have hhead : (NetworkSurveyResult.head survey).length < 64 := by decide +kernel
  have htext : quotedOperator.item.text.length < 512 := by decide +kernel
  exact ⟨(reply_reads_iff wholeText (.report (.network_survey_result survey)) hrange).mpr
      ⟨⟨by decide +kernel, by decide +kernel⟩, hhead⟩,
    (reply_reads_iff wholeText (.report (.registration_info quotedOperator)) trivial).mpr
      ⟨⟨by decide +kernel, by decide +kernel⟩, htext⟩⟩

end Rpc

end LteModem
