import LteModem.XE310.Commands

/-!
# What the modem says (`xe310.cpp`)

Each query of `xE310` as a function of the status and the body of its answer, and of the output
parameter before the call.
-/

open Strings

namespace LteModem

/-- What a query reads of a response, whose body has room for `AT_RESPONSE_MAX` characters. -/
structure Answer where
  status : ModemStatus
  body : Str

/-- `OK` with as much of the text as the response holds. -/
def Answer.holding (text : Str) : Answer := ⟨.ok, (FixedString.ofView AT_RESPONSE_MAX text).view⟩

theorem Answer.holding_eq {text : Str} (h : text.length ≤ AT_RESPONSE_MAX) : Answer.holding text = ⟨.ok, text⟩ := by
  rw [holding, FixedString.ofView_view, List.take_of_length_le h]

structure RegistrationInfo where
  lac : FixedString MODEM_SHORT_STR := .empty _
  ci : FixedString MODEM_SHORT_STR := .empty _
  operator_name : FixedString MODEM_MEDIUM_STR := .empty _
  apn : FixedString MODEM_MEDIUM_STR := .empty _
  mode : Nat := 0
  stat : RegStatus := .not_registered
  act : RadioTech := .gsm
  fHasLocation : Bool := false

structure SignalQuality where
  rssi : Int := 99
  ber : Int := 99
  rsrq : Int := 255
  rsrp : Int := 255

structure TelitCpsmsStatus where
  status : Nat := 0
  t3324 : Nat := 0
  t3412 : Nat := 0
  psm_version : Nat := 0
  psm_threshold : Nat := 0
  mode : PsmMode := .disable

structure BandConfig where
  gsm_mask : Nat := 0
  umts_mask : Nat := 0
  lte_mask : Nat := 0
  tdscdma_mask : Nat := 0
  lte_mask_over_64 : Nat := 0

structure Operator where
  long_name : FixedString MODEM_MEDIUM_STR := .empty _
  short_name : FixedString MODEM_MEDIUM_STR := .empty _
  numeric : FixedString MODEM_SHORT_STR := .empty _
  act : RadioTech := .unknown

structure CsurvCell where
  earfcn : Int := 0
  rx_lev : Int := 0
  mcc : Nat := 0
  mnc : Nat := 0
  cell_id : Nat := 0
  tac : Nat := 0
  cell_identity : Nat := 0

structure CsurvResult where
  cells : List CsurvCell := []
  fHasSummary : Bool := false
  no_arfcn : Int := 0
  no_bcch : Int := 0

structure GnssPosition where
  utc : FixedString MODEM_SHORT_STR := .empty _
  latitude : FixedString MODEM_SHORT_STR := .empty _
  longitude : FixedString MODEM_SHORT_STR := .empty _
  hdop : FixedString MODEM_SHORT_STR := .empty _
  altitude : FixedString MODEM_SHORT_STR := .empty _
  fix : GnssFixType := ⟨0⟩
  cog : FixedString MODEM_SHORT_STR := .empty _
  spkm : FixedString MODEM_SHORT_STR := .empty _
  spkn : FixedString MODEM_SHORT_STR := .empty _
  date : FixedString MODEM_SHORT_STR := .empty _
  nsat : Nat := 0
  hepe : FixedString MODEM_SHORT_STR := .empty _
  vepe : FixedString MODEM_SHORT_STR := .empty _

namespace Replies

/-! ## Fields -/

def blanksQuotes : Str := [' ', '\t', '"']

/-- What follows the first colon. -/
def afterColon (body : Str) : Option Str := (cut ':' body).2

/-- A token in a buffer of `n` bytes, without blanks and quotes at its ends. -/
def trimmed (n : Nat) (token : Str) : Str := cstr ((strip blanksQuotes token).take (n - 1))

/-- A token in a buffer of `n` bytes, without the blanks before it. -/
def unpadded (n : Nat) (token : Str) : Str := cstr ((token.dropWhile (· = ' ')).take (n - 1))

def toUInt32 (v : Int) : Nat := (v % 2 ^ 32).toNat

/-! ## Queries -/

def get_clock (a : Answer) (clock : FixedString MODEM_SHORT_STR) :
    ModemStatus × FixedString MODEM_SHORT_STR :=
  if a.status ≠ .ok then (a.status, clock)
  else if "+CCLK: ".toList.isPrefixOf a.body then
    let value := a.body.drop 7
    let value := if 2 ≤ value.length ∧ value.head? = some '"' ∧ value.getLast? = some '"' then
      value.tail.dropLast else value
    (.ok, .ofView _ value)
  else (.ok, .ofView _ a.body)

def get_telit_psm (a : Answer) (st : TelitCpsmsStatus) : ModemStatus × TelitCpsmsStatus :=
  if a.status ≠ .ok then (a.status, st)
  else match afterColon a.body with
    | none => (.at_error, st)
    | some params =>
      let f := (fields 6 params).map (unpadded 32)
      let count := f.length
      let field (i : Nat) : Str := f.getD i []
      (.ok, {
        status := if 1 ≤ count then toUInt8 (atoi (field 0)) else st.status
        t3324 := if 2 ≤ count ∧ field 1 ≠ [] then toUInt32 (strtol (field 1)) else st.t3324
        t3412 := if 3 ≤ count ∧ field 2 ≠ [] then toUInt32 (strtol (field 2)) else st.t3412
        psm_version := if 4 ≤ count then toUInt8 (atoi (field 3)) else st.psm_version
        psm_threshold := if 5 ≤ count then toUInt32 (strtol (field 4)) else st.psm_threshold
        mode := if 6 ≤ count then .ofInt (atoi (field 5)) else st.mode })

def get_iot_tech (a : Answer) (tech : RadioTech) : ModemStatus × RadioTech :=
  if a.status ≠ .ok then (a.status, tech)
  else match afterColon a.body with
    | none => (.ok, tech)
    | some params =>
      let nv := match cut ',' params with
        | (_, none) => 0
        | (n, some _) => (strtoull10 (cstr (n.take 15))).1 % 2 ^ 32
      (.ok, if nv = 0 then .cat_m1 else if nv = 1 then .nb_iot else .unknown)

/-- A field that is a number and nothing else. -/
def parse_u64 (s : Str) : Option Nat :=
  match strtoull10 s with
  | (v, rest) => if rest = s ∨ rest ≠ [] then none else some v

def get_bands (a : Answer) (bands : BandConfig) : ModemStatus × BandConfig :=
  if a.status ≠ .ok then (a.status, bands)
  else match afterColon a.body with
    | none => (.at_error, bands)
    | some params =>
      match (fields 5 params).map fun t => parse_u64 (trimmed 32 t) with
      | [some gsm, some umts, some lte, some tdscdma, some lte_over] => (.ok, ⟨gsm, umts, lte, tdscdma, lte_over⟩)
      | _ => (.at_error, bands)

def get_registration_status (a : Answer) (info : RegistrationInfo) : ModemStatus × RegistrationInfo :=
  if a.status ≠ .ok then (a.status, info)
  else match afterColon a.body with
    | none => (.at_error, info)
    | some params =>
      let f := (fields 8 params).map (trimmed 32)
      let count := f.length
      let field (i : Nat) : Str := f.getD i []
      (.ok, { info with
        mode := if 2 ≤ count then toUInt8 (atoi (field 0)) else info.mode
        stat := if 2 ≤ count then .ofInt (atoi (field 1)) else info.stat
        lac := if 4 ≤ count then .ofView _ (field 2) else info.lac
        ci := if 4 ≤ count then .ofView _ (field 3) else info.ci
        fHasLocation := if 4 ≤ count then true else info.fHasLocation
        act := if 5 ≤ count then .ofInt (atoi (field 4)) else info.act })

def get_signal_quality (a : Answer) (sq : SignalQuality) : ModemStatus × SignalQuality :=
  if a.status ≠ .ok then (a.status, sq)
  else match afterColon a.body with
    | none => (.ok, sq)
    | some values =>
      let f := (fields 6 values).map fun t => atoi (cstr ((strip [' ', '\t'] t).take 15))
      if f.length < 6 then (.ok, sq)
      else (.ok, { rssi := f.getD 0 0, ber := f.getD 1 0, rsrq := f.getD 4 0, rsrp := f.getD 5 0 })

def get_operator (a : Answer) (oper : FixedString MODEM_MEDIUM_STR) :
    ModemStatus × FixedString MODEM_MEDIUM_STR :=
  if a.status ≠ .ok then (a.status, oper)
  else match afterColon a.body with
    | none => (.at_error, oper)
    | some params =>
      match (fields 3 params)[2]? with
      | none => (.ok, oper)
      | some token => (.ok, .ofView _ (strip blanksQuotes token))

/-- The third field of a `+CGDCONT:` line whose first field is `cid`. -/
def apnOfLine (cid : Nat) (line : Str) : Option Str :=
  match find "+CGDCONT:".toList line with
  | none => none
  | some p =>
    let f := (fields 3 (line.drop (p + 9))).map (strip blanksQuotes)
    if toUInt8 (atoi (cstr ((f.getD 0 []).take 7))) = cid then f[2]? else none

def get_apn (a : Answer) (cid : Nat) (apn : FixedString MODEM_MEDIUM_STR) :
    ModemStatus × FixedString MODEM_MEDIUM_STR :=
  if a.status ≠ .ok then (a.status, apn)
  else match (lines a.body).findSome? (apnOfLine cid) with
    | none => (.at_error, apn)
    | some found => (.ok, .ofView _ found)

def get_pdp_state (a : Answer) (cid : Nat) (active : Bool) : ModemStatus × Bool :=
  if a.status ≠ .ok then (a.status, active)
  else match find (snprintf 8 (decimal cid ++ [','])) a.body with
    | none => (.ok, false)
    | some pos => (.ok, a.body[pos + 2]? = some '1')

def get_ip_address (a : Answer) (ip : FixedString MODEM_IP_STR) : ModemStatus × FixedString MODEM_IP_STR :=
  if a.status ≠ .ok then (a.status, ip)
  else match cut '"' a.body with
    | (_, none) => (.ok, ip)
    | (_, some rest) =>
      if '"' ∈ rest then (.ok, .ofView _ (rest.rdropWhile (· ≠ '"')).dropLast) else (.ok, ip)

def udp_receive (a : Answer) (data : Str) : ModemStatus × Str :=
  if a.status ≠ .ok then (a.status, data)
  else match cut '\n' a.body with
    | (_, none) => (.ok, [])
    | (_, some payload) => (.ok, payload.take 1500)

def udp_status (a : Answer) (state : Nat) : ModemStatus × Nat :=
  if a.status ≠ .ok then (a.status, state)
  else match cut ',' a.body with
    | (_, none) => (.ok, state)
    | (_, some rest) => (.ok, toUInt8 (atoi (cstr rest)))

def is_gnss_powered (a : Answer) : ModemStatus × Bool :=
  (a.status, a.status = .ok ∧ '1' ∈ a.body)

def get_gnss_position (a : Answer) (pos : GnssPosition) : ModemStatus × GnssPosition :=
  if a.status ≠ .ok then (a.status, pos)
  else match afterColon a.body with
    | none => (.at_error, pos)
    | some params =>
      let f := (fields 13 params).map fun t => FixedString.ofView MODEM_SHORT_STR (t.dropWhile (· = ' '))
      let count := f.length
      let text (i : Nat) (old : FixedString MODEM_SHORT_STR) := if i < count then f.getD i old else old
      let number (i : Nat) : Int := atoi (cstr (f.getD i (.empty _)).view)
      (.ok, {
        utc := text 0 pos.utc, latitude := text 1 pos.latitude, longitude := text 2 pos.longitude
        hdop := text 3 pos.hdop, altitude := text 4 pos.altitude
        fix := if 6 ≤ count then ⟨toUInt8 (number 5)⟩ else pos.fix
        cog := text 6 pos.cog, spkm := text 7 pos.spkm, spkn := text 8 pos.spkn, date := text 9 pos.date
        nsat := if 11 ≤ count then toUInt8 (number 10) else pos.nsat
        hepe := text 11 pos.hepe, vepe := text 12 pos.vepe })

/-! ## Operators -/

/-- One field of an operator entry, and what follows its comma. A quoted field may hold commas. -/
def operatorField : Str → Str × Str
  | '"' :: s =>
    let rest := s.dropWhile (· ≠ '"')
    let tail := rest.drop 1
    ('"' :: s.takeWhile (· ≠ '"') ++ rest.take 1 ++ tail.takeWhile (· ≠ ','),
      (tail.dropWhile (· ≠ ',')).drop 1)
  | s => (s.takeWhile (· ≠ ','), (s.dropWhile (· ≠ ',')).drop 1)

def operatorFields : Nat → Str → List Str
  | 0, _ => []
  | n + 1, s =>
    let s := s.dropWhile (· = ' ')
    if s = [] then []
    else
      let (field, rest) := operatorField s
      trimmed 64 field :: operatorFields n rest

/-- The texts between parentheses. -/
def operatorEntries : Nat → Str → List Str
  | 0, _ => []
  | fuel + 1, s =>
    match cut '(' s with
    | (_, none) => []
    | (_, some s) =>
      match cut ')' s with
      | (_, none) => []
      | (entry, some rest) => entry :: operatorEntries fuel rest

def operatorOf (entry : Str) : Option Operator :=
  match operatorFields 5 entry with
  | [_, long, short, numeric] => some ⟨.ofView _ long, .ofView _ short, .ofView _ numeric, .gsm⟩
  | [_, long, short, numeric, act] =>
    some ⟨.ofView _ long, .ofView _ short, .ofView _ numeric, .ofInt (atoi act)⟩
  | _ => none

def MAX_OPERATORS : Nat := 16

def get_available_operators (a : Answer) (operators : List Operator) : ModemStatus × List Operator :=
  if a.status ≠ .ok then (a.status, operators)
  else (.ok, ((operatorEntries a.body.length a.body).filterMap operatorOf).take MAX_OPERATORS)

/-! ## Network scan -/

/-- The word after a label. -/
def extract_value (line : Str) (label : String) : Str :=
  match find label.toList line with
  | none => []
  | some p => ((line.drop (p + label.length)).dropWhile (· = ' ')).takeWhile (· ≠ ' ')

def cellOf (line : Str) : CsurvCell :=
  let value (label : String) : Str := cstr ((extract_value line label).take 31)
  { earfcn := atoi (value "earfcn:")
    rx_lev := atoi (value "rxLev:")
    mcc := strtoull16 (value "mcc:") % 2 ^ 16
    mnc := strtoull16 (value "mnc:") % 2 ^ 16
    cell_id := strtoull16 (value "cellId:") % 2 ^ 32
    tac := strtoull16 (value "tac:") % 2 ^ 32
    cell_identity := strtoull16 (value "cellIdentity:") }

/-- The counts of the summary line, read only when both labels are there. -/
def summaryOf (line : Str) (r : CsurvResult) : CsurvResult :=
  let count (label : String) : Int := atoi (cstr ((extract_value line label).take 15))
  if (find "Carrier:".toList line).isSome ∧ (find "BCCh:".toList line).isSome then
    { r with fHasSummary := true, no_arfcn := count "Carrier:", no_bcch := count "BCCh:" }
  else { r with fHasSummary := true }

def scanLine (r : CsurvResult) (line : Str) : CsurvResult :=
  if line = [] ∨ line.take 22 = "Network survey started".toList then r
  else if "Network survey ended".toList.isPrefixOf line then summaryOf line r
  else if extract_value line "earfcn:" = [] then r
  else { r with cells := ModemController.push_back 32 r.cells (cellOf line) }

/-- The answer to `AT#CSURV`. -/
def scan_networks (a : Answer) (result : CsurvResult) : ModemStatus × CsurvResult :=
  if a.status ≠ .ok then (a.status, result) else (.ok, (lines a.body).foldl scanLine {})

end Replies

end LteModem
