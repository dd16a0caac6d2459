import LteModem.Lib.Layout

/-!
# Requests and responses (`modem/i_radio_lte.h`)

Frames on the channels carry no type. The receiver tells them apart by their length alone, so the
length of each message is part of the model. The structures are those of `modem/xe310.h`,
`modem/network_lte_config.h` and `modem/network_lte.h`.
-/

open Layout

namespace LteModem

def MESSAGE_CHANNEL_MAX_DATA : Nat := 512

inductive RadioLteRequestType where
  | get_registration_info | get_signal_quality | get_iccid | get_imsi | get_clock | get_modem_info
  | get_sim_status | get_radio_tech | get_reg_status | get_network_info | get_psm_mode
  | get_cpsms_config | get_telit_cpsms_config | get_telit_cpsms_status | get_network_survey_result
  | get_available_operators | get_csurv_result | scan_networks | get_server_info_array | get_config
  | set_config | network_connect | network_disconnect | server_connect | server_disconnect | force_psm
  | get_timers | get_gnss_position | acquire_gnss_position
deriving DecidableEq, Repr

namespace Messages

/-! ## Structures -/

/-- `char buf_[n + 1]; size_t size_` -/
def fixedString (n : Nat) : Layout := struct [array (n + 1) u8, u64]

/-- `std::array<T, n> data_; size_t size_` -/
def staticVector (n : Nat) (t : Layout) : Layout := struct [array n t, u64]

def MODEM_SHORT_STR : Nat := 32
def MODEM_MEDIUM_STR : Nat := 64
def MODEM_LONG_STR : Nat := 128
def MODEM_IP_STR : Nat := 48

def shortStr : Layout := fixedString MODEM_SHORT_STR
def mediumStr : Layout := fixedString MODEM_MEDIUM_STR
def longStr : Layout := fixedString MODEM_LONG_STR
def ipStr : Layout := fixedString MODEM_IP_STR

def bool : Layout := u8
def int : Layout := u32
def float : Layout := u32

def RegistrationInfo : Layout :=
  struct [shortStr, shortStr, shortStr, shortStr, ipStr, mediumStr, mediumStr, u8, u8, u8, bool, u8, u8,
    bool, bool]

def NetworkInfo : Layout := struct [u8, ipStr]

def SignalQuality : Layout := struct [int, int, int, int]

def CpsmsConfig : Layout := struct [u8, shortStr, shortStr, shortStr, shortStr]

def TelitCpsmsConfig : Layout :=
  struct [u8, bool, u32, bool, u32, bool, u32, bool, u32, bool, u8, bool, u32]

def TelitCpsmsStatus : Layout := struct [u8, u32, u32, u8, u32, u8]

def SurvCell : Layout :=
  struct [u8, int, int, int, int, u16, u16, u32, u32, shortStr, int, int, u32, u32, u64, float, float]

def NetworkSurveyResult : Layout := struct [staticVector 32 SurvCell, bool, int, int]

def SoftwarePackageVersion : Layout := struct [longStr, longStr, longStr, longStr]

def ModemInfo : Layout :=
  struct [shortStr, shortStr, shortStr, mediumStr, SoftwarePackageVersion, mediumStr, longStr, shortStr]

def Operator : Layout := struct [mediumStr, mediumStr, shortStr, u8]

def MAX_OPERATORS : Nat := 16

def CsurvCell : Layout := struct [int, int, u16, u16, u32, u32, u64]

def CsurvResult : Layout := struct [staticVector 32 CsurvCell, bool, int, int]

def NetworkLteConfig : Layout :=
  struct [u8, u8, u8, u8, u16, u16, u8, u8, u8, u64, u8, mediumStr, u64, u8, mediumStr, shortStr, bool,
    bool, u32, u32, u8]

def StateTimers : Layout := struct [u32, u32, u32, u32, u32, u32, u32]

def GnssPositionMsg : Layout :=
  let s := fixedString 16
  struct [s, s, s, s, s, u8, s, s, s, s, u8, s, s]

/-! ## Messages -/

def ModemTxMsg : Layout := struct [u8, u32, u32]

def ModemSetConfigMsg : Layout := struct [u8, NetworkLteConfig]

def ModemServerConnectMsg : Layout := struct [u8, u8, u16, shortStr, mediumStr]

def ModemActionCompleteMsg : Layout := struct [u8, bool]

def ModemTypedResponseMsg (value : Layout) : Layout := struct [bool, value]

/-- The type of the value that answers a request. -/
def responseValue : RadioLteRequestType → Layout
  | .get_registration_info => RegistrationInfo
  | .get_signal_quality => SignalQuality
  | .get_iccid | .get_imsi | .get_clock => shortStr
  | .get_modem_info => ModemInfo
  | .get_sim_status | .get_radio_tech | .get_reg_status | .get_psm_mode => u8
  | .get_network_info => NetworkInfo
  | .get_cpsms_config => CpsmsConfig
  | .get_telit_cpsms_config => TelitCpsmsConfig
  | .get_telit_cpsms_status => TelitCpsmsStatus
  | .get_network_survey_result => NetworkSurveyResult
  | .get_available_operators => staticVector MAX_OPERATORS Operator
  | .get_csurv_result => CsurvResult
  | .get_server_info_array => pointer
  | .get_config => NetworkLteConfig
  | .get_timers => StateTimers
  | .get_gnss_position => GnssPositionMsg
  | .scan_networks | .set_config | .network_connect | .network_disconnect | .server_connect
  | .server_disconnect | .force_psm | .acquire_gnss_position => bool

def responseLength (t : RadioLteRequestType) : Nat := (ModemTypedResponseMsg (responseValue t)).size

def requestLength : RadioLteRequestType → Nat
  | .set_config => ModemSetConfigMsg.size
  | .server_connect => ModemServerConnectMsg.size
  | _ => ModemTxMsg.size

/-- A blocking action is acknowledged first and completed later. -/
def blocking : RadioLteRequestType → Bool
  | .scan_networks | .network_connect | .network_disconnect | .server_connect | .server_disconnect
  | .force_psm | .acquire_gnss_position => true
  | _ => false

/-- The responses that do not fit into a frame. -/
def oversized : RadioLteRequestType → Bool
  | .get_modem_info | .get_network_survey_result | .get_available_operators | .get_csurv_result => true
  | _ => false

theorem responseLength_le_iff (t : RadioLteRequestType) :
    responseLength t ≤ MESSAGE_CHANNEL_MAX_DATA ↔ oversized t = false := by
  cases t <;> decide

theorem requestLength_le (t : RadioLteRequestType) : requestLength t ≤ MESSAGE_CHANNEL_MAX_DATA := by
  cases t <;> decide

/-- An acknowledgement and a completion are told apart by nothing. -/
theorem responseLength_blocking (t : RadioLteRequestType) (h : blocking t = true) :
    responseLength t = ModemActionCompleteMsg.size := by
  cases t <;> first | decide | exact absurd h (by decide)

end Messages

end LteModem
