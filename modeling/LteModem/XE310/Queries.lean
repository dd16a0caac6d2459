import LteModem.XE310.Replies

/-!
# The other queries (`xe310.cpp`)

The parsers that the state machine does not use. `strtof` and the conversion of its result are not
modelled: they are parameters.
-/

open Strings

namespace LteModem

def MODEM_LONG_STR : Nat := 128

inductive SimStatus where
  | not_inserted | inserted | inserted_and_pin_unlocked | inserted_and_ready | other (v : Nat)
deriving DecidableEq, Repr

def SimStatus.ofInt (v : Int) : SimStatus :=
  match toUInt8 v with
  | 0 => .not_inserted
  | 1 => .inserted
  | 2 => .inserted_and_pin_unlocked
  | 3 => .inserted_and_ready
  | n => .other n

structure SoftwarePackageVersion where
  package_version : FixedString MODEM_LONG_STR := .empty _
  modem_version : FixedString MODEM_LONG_STR := .empty _
  prod_params_version : FixedString MODEM_LONG_STR := .empty _
  app_version : FixedString MODEM_LONG_STR := .empty _

structure CpsmsConfig where
  mode : PsmMode := .disable
  req_periodic_rau : FixedString MODEM_SHORT_STR := .empty _
  req_gprs_ready_timer : FixedString MODEM_SHORT_STR := .empty _
  req_periodic_tau : FixedString MODEM_SHORT_STR := .empty _
  req_active_time : FixedString MODEM_SHORT_STR := .empty _

/-- The four output parameters of `get_pdp_info`. -/
structure PdpInfo where
  ip_addr : FixedString MODEM_IP_STR := .empty _
  gw_addr : FixedString MODEM_IP_STR := .empty _
  dns_primary : FixedString MODEM_IP_STR := .empty _
  dns_secondary : FixedString MODEM_IP_STR := .empty _

/-- The type `float`, with what the code does with it. -/
structure FloatLib where
  F : Type
  zero : F
  strtof : Str → F
  /-- `static_cast<int>` -/
  toInt : F → Int

inductive SurvCellType where
  | cell_2g_bcch | cell_2g_non_bcch | cell_4g
deriving DecidableEq, Repr

structure SurvCell (L : FloatLib) where
  type : SurvCellType := .cell_4g
  arfcn : Int := 0
  bsic : Int := 0
  rx_lev : Int := 0
  ber : Int := 0
  mcc : Nat := 0
  mnc : Nat := 0
  lac : Nat := 0
  cell_id : Nat := 0
  cell_stat : FixedString MODEM_SHORT_STR := .empty _
  num_arfcn : Int := 0
  earfcn : Int := 0
  tac : Nat := 0
  phys_cell_id : Nat := 0
  cell_identity : Nat := 0
  rsrp : L.F := L.zero
  rsrq : L.F := L.zero

structure NetworkSurveyResult (L : FloatLib) where
  cells : List (SurvCell L) := []
  fHasSummary : Bool := false
  no_arfcn : Int := 0
  no_bcch : Int := 0

namespace Replies

/-! ## Texts -/

/-- The whole body. -/
def wholeBody (n : Nat) (a : Answer) (out : FixedString n) : ModemStatus × FixedString n :=
  if a.status ≠ .ok then (a.status, out) else (.ok, .ofView n a.body)

/-- The body behind a prefix, or the whole body where it does not begin with it. -/
def behindPrefix (pre : Str) (n : Nat) (a : Answer) (out : FixedString n) : ModemStatus × FixedString n :=
  if a.status ≠ .ok then (a.status, out)
  else (.ok, .ofView n (if pre.isPrefixOf a.body then a.body.drop pre.length else a.body))

abbrev request_imei_sv := wholeBody MODEM_SHORT_STR
abbrev request_model_id := behindPrefix "#CGMM: ".toList MODEM_MEDIUM_STR
abbrev request_telit_id := wholeBody MODEM_MEDIUM_STR
abbrev request_identification := wholeBody MODEM_LONG_STR
abbrev get_imei := wholeBody MODEM_SHORT_STR
abbrev read_iccid := behindPrefix "#CCID: ".toList MODEM_SHORT_STR
abbrev read_imsi := wholeBody MODEM_SHORT_STR
abbrev send_sim_command := wholeBody AT_RESPONSE_MAX
abbrev send_at_command := wholeBody AT_RESPONSE_MAX

/-- The lines up to the end of the text. Nothing follows a line break that ends it. -/
def linesToEnd (s : Str) : List Str :=
  if (lines s).getLast? = some [] then (lines s).dropLast else lines s

def request_sw_package_version (a : Answer) (ver : SoftwarePackageVersion) :
    ModemStatus × SoftwarePackageVersion :=
  if a.status ≠ .ok then (a.status, ver)
  else
    let field (i : Nat) (old : FixedString MODEM_LONG_STR) : FixedString MODEM_LONG_STR :=
      ((linesToEnd a.body)[i]?.map (.ofView _)).getD old
    (.ok, ⟨field 0 ver.package_version, field 1 ver.modem_version, field 2 ver.prod_params_version,
      field 3 ver.app_version⟩)

/-! ## Fields -/

def query_sim_status (a : Answer) (status : SimStatus) : ModemStatus × SimStatus :=
  if a.status ≠ .ok then (a.status, status)
  else match cut ',' a.body with
    | (_, none) => (.ok, status)
    | (_, some rest) => (.ok, .ofInt (atoi (cstr rest)))

def strip_quotes (s : Str) : Str :=
  if 2 ≤ s.length ∧ s.head? = some '"' ∧ s.getLast? = some '"' then s.tail.dropLast else s

def get_psm (a : Answer) (cfg : CpsmsConfig) : ModemStatus × CpsmsConfig :=
  if a.status ≠ .ok then (a.status, cfg)
  else match afterColon a.body with
    | none => (.at_error, cfg)
    | some params =>
      let f := (fields 5 params).map fun t => FixedString.ofView MODEM_SHORT_STR (t.dropWhile (· = ' '))
      let timer (i : Nat) (old : FixedString MODEM_SHORT_STR) : FixedString MODEM_SHORT_STR :=
        (f[i]?.map fun t => .ofView _ (strip_quotes t.view)).getD old
      (.ok, {
        mode := (f[0]?.map fun t => .ofInt (atoi (cstr t.view))).getD cfg.mode
        req_periodic_rau := timer 1 cfg.req_periodic_rau
        req_gprs_ready_timer := timer 2 cfg.req_gprs_ready_timer
        req_periodic_tau := timer 3 cfg.req_periodic_tau
        req_active_time := timer 4 cfg.req_active_time })

def get_psm_urc (a : Answer) (enabled : Bool) : ModemStatus × Bool :=
  if a.status ≠ .ok then (a.status, enabled)
  else match afterColon a.body with
    | none => (.ok, enabled)
    | some rest => (.ok, atoi (cstr rest) ≠ 0)

/-- Both output parameters of the query: `get_iot_tech` is about the first. -/
def get_iot_tech_priority (a : Answer) (out : RadioTech × Nat) : ModemStatus × RadioTech × Nat :=
  let gsm_priority : Nat :=
    match afterColon a.body with
    | none => out.2
    | some params =>
      match cut ',' params with
      | (_, none) => 0
      | (_, some rest) => (strtoull10 (cstr (rest.take 15))).1 % 2 ^ 32 % 256
  ((get_iot_tech a out.1).1, (get_iot_tech a out.1).2, if a.status ≠ .ok then out.2 else gsm_priority)

/-- The texts between quotes. -/
def quotedTexts : Nat → Str → List Str
  | 0, _ => []
  | fuel + 1, s =>
    match cut '"' s with
    | (_, none) => []
    | (_, some s) =>
      match cut '"' s with
      | (_, none) => []
      | (text, some rest) => text :: quotedTexts fuel rest

/-- The first quoted text is the context's name, and is skipped. -/
def get_pdp_info (a : Answer) (info : PdpInfo) : ModemStatus × PdpInfo :=
  if a.status ≠ .ok then (a.status, info)
  else
    let address (i : Nat) (old : FixedString MODEM_IP_STR) : FixedString MODEM_IP_STR :=
      ((quotedTexts a.body.length a.body)[i]?.map (.ofView _)).getD old
    (.ok, ⟨address 1 info.ip_addr, address 2 info.gw_addr, address 3 info.dns_primary,
      address 4 info.dns_secondary⟩)

/-! ## Network survey -/

def parse_surv_line (L : FloatLib) (line : Str) : SurvCell L :=
  let f := (fields 10 line).map fun t => cstr (t.take 63)
  let number (i : Nat) : Int := atoi (f.getD i [])
  let hex (i : Nat) : Nat := strtoull16 (f.getD i [])
  if f.length = 2 then { type := .cell_2g_non_bcch, arfcn := number 0, rx_lev := number 1 }
  else if f.length = 7 then {
    type := .cell_4g
    earfcn := number 0
    rsrp := L.strtof (f.getD 1 [])
    rx_lev := L.toInt (L.strtof (f.getD 1 []))
    mcc := (number 2 % 2 ^ 16).toNat
    mnc := (number 3 % 2 ^ 16).toNat
    phys_cell_id := toUInt32 (number 4)
    tac := toUInt32 (number 5)
    cell_identity := (strtol (f.getD 6 []) % 2 ^ 64).toNat }
  else if 10 ≤ f.length then {
    type := .cell_2g_bcch
    arfcn := number 0
    bsic := number 1
    rx_lev := number 2
    ber := number 3
    mcc := hex 4 % 2 ^ 16
    mnc := hex 5 % 2 ^ 16
    lac := strtoul0 (f.getD 6 []) % 2 ^ 32
    cell_id := strtoul0 (f.getD 7 []) % 2 ^ 32
    cell_stat := .ofView _ (f.getD 8 [])
    num_arfcn := number 9 }
  else if 9 ≤ f.length then {
    type := .cell_4g
    earfcn := number 0
    rx_lev := number 1
    mcc := hex 2 % 2 ^ 16
    mnc := hex 3 % 2 ^ 16
    phys_cell_id := hex 4 % 2 ^ 32
    tac := hex 5 % 2 ^ 32
    cell_identity := hex 6
    rsrp := L.strtof (f.getD 7 [])
    rsrq := L.strtof (f.getD 8 []) }
  else {}

def surveyLine (L : FloatLib) (r : NetworkSurveyResult L) (line : Str) : NetworkSurveyResult L :=
  let count (label : String) : Int := atoi (cstr ((extract_value line label).take 15))
  if line = [] ∨ line.take 22 = "Network survey started".toList then r
  else if "Network survey ended".toList.isPrefixOf line then
    if (find "Carrier:".toList line).isSome ∧ (find "BCCh:".toList line).isSome then
      { r with fHasSummary := true, no_arfcn := count "Carrier:", no_bcch := count "BCCh:" }
    else { r with fHasSummary := true }
  else { r with cells := ModemController.push_back 32 r.cells (parse_surv_line L line) }

def network_survey (L : FloatLib) (a : Answer) (result : NetworkSurveyResult L) :
    ModemStatus × NetworkSurveyResult L :=
  if a.status ≠ .ok then (a.status, result) else (.ok, (lines a.body).foldl (surveyLine L) {})

end Replies

end LteModem
