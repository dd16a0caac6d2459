import LteModem.RadioLte.Messages
import LteModem.Rpc.Config

/-!
# The requests of port 9003 (`examples/desktop/app_rpc_server.cpp`)

`handle_request` up to the point where it asks the network thread: what it is going to ask, or the text that it
answers with right away.
-/

open Strings Json

namespace LteModem.Rpc

def MAX_SERVER_CONNECTIONS : Nat := 5

def RPC_TIMEOUT_DEFAULT_MS : Nat := 5000
def RPC_TIMEOUT_SCAN_MS : Nat := 210000

structure ModemServerConnectMsg where
  conn_id : Nat
  port : Nat
  protocol : FixedString MODEM_SHORT_STR
  ip : FixedString MODEM_MEDIUM_STR
deriving DecidableEq

inductive Request where
  | ask (type : RadioLteRequestType) (arg0 timeout_ms : Nat)
  | state
  | network_connect
  | network_disconnect (conn_id : Nat)
  | server_connect (msg : ModemServerConnectMsg)
  /-- `apply_config_update` -/
  | config (update_expr : Str)
  | force_psm
  | acquire_gnss_position
  | error (text : Str)
  /-- An `int` overflows, which is not defined. -/
  | overflow
deriving DecidableEq

/-! ## Words -/

def to_upper (value : Str) : Str := value.map Char.toUpper

def normalize_token (token : Str) : Str := (token.filter fun c => c ≠ '_' ∧ c ≠ '-').map Char.toUpper

def config_keys : List (Name × Key) := [
  (name "CID", .cid), (name "ATTACHTIMEOUTSEC", .attach_timeout_sec), (name "PDPTIMEOUTSEC", .pdp_timeout_sec),
  (name "DATAREADYTIMEOUTSEC", .data_ready_timeout_sec), (name "TRANSPARENTTIMEOUTSEC", .transparent_timeout_sec),
  (name "MAXNETWORKATTEMPTS", .max_network_attempts), (name "MAXATTACHRETRIES", .max_attach_retries),
  (name "MAXPDPRETRIES", .max_pdp_retries), (name "DEFAULTLTEBANDS", .default_lte_bands),
  (name "DEFAULTIOTTECH", .default_iot_tech), (name "DEFAULTAPN", .default_apn),
  (name "FALLBACKLTEBANDS", .fallback_lte_bands), (name "FALLBACKIOTTECH", .fallback_iot_tech),
  (name "FALLBACKAPN", .fallback_apn), (name "PLMN", .plmn), (name "FPSMENABLE", .fPsmEnable),
  (name "PSMENABLE", .fPsmEnable), (name "FCFUNSLEEP", .fCfunSleep), (name "CFUNSLEEP", .fCfunSleep),
  (name "PSMT3412", .psm_t3412), (name "PSMT3324", .psm_t3324), (name "CONNID", .conn_id)]

def config_key_from_resource (resource : Str) : Option Key :=
  (config_keys.find? fun e => e.1.text = normalize_token resource).map (·.2)

/-- The loops over the digits of a number. -/
inductive Digits where
  | value (n : Nat)
  | invalid
  | overflow
deriving DecidableEq

def digits (n : Nat) : Str → Digits
  | [] => .value n
  | c :: s =>
    if isDigit c then
      if 2 ^ 31 ≤ n * 10 + (c.toNat - 48) then .overflow else digits (n * 10 + (c.toNat - 48)) s
    else .invalid

/-- The next token, and what follows it. -/
def parse_next (s : Str) : Str × Str := ((cut ' ' s).1, (cut ' ' s).2.getD [])

/-! ## GET -/

def get_resources : List (Name × RadioLteRequestType) := [
  (name "CONFIG", .get_config), (name "MODEMINFO", .get_modem_info), (name "CLOCK", .get_clock),
  (name "SIMSTATUS", .get_sim_status), (name "RADIOTECH", .get_radio_tech), (name "REGSTATUS", .get_reg_status),
  (name "REGINFO", .get_registration_info), (name "NETWORKINFO", .get_network_info),
  (name "SIGNALQUALITY", .get_signal_quality), (name "PSMMODE", .get_psm_mode),
  (name "CPSMSCONFIG", .get_cpsms_config), (name "TELITCPSMSCONFIG", .get_telit_cpsms_config),
  (name "TELITCPSMSSTATUS", .get_telit_cpsms_status), (name "SURVEYRESULT", .get_network_survey_result),
  (name "OPERATORLIST", .get_available_operators), (name "TIMERS", .get_timers), (name "GNSS", .get_gnss_position)]

def get_server_info (arg : Str) : Request :=
  if arg = [] then .ask .get_server_info_array 0 RPC_TIMEOUT_DEFAULT_MS
  else
    match digits 0 arg with
    | .overflow => .overflow
    | .invalid => .error "ERROR: invalid conn_id".toList
    | .value n =>
      if 1 ≤ n ∧ n ≤ MAX_SERVER_CONNECTIONS then .ask .get_server_info_array n RPC_TIMEOUT_DEFAULT_MS
      else .error "ERROR: conn_id out of range (1-5)".toList

def get_request (sub : Str) : Request :=
  if sub = (name "SCANSURVEY").text then .ask .scan_networks 0 RPC_TIMEOUT_SCAN_MS
  else if sub = (name "STATE").text then .state
  else
    match get_resources.find? fun e => e.1.text = sub with
    | some e => .ask e.2 0 RPC_TIMEOUT_DEFAULT_MS
    | none =>
      if (name "SERVERINFO").text.isPrefixOf sub then get_server_info (sub.drop 11)
      else .error "ERROR: unknown GET resource".toList

/-! ## SET -/

def disconnect_request (conn_id : Nat) (args : Str) : Request :=
  if args = [] then .network_disconnect conn_id
  else
    match digits 0 args with
    | .overflow => .overflow
    | .invalid => .error "ERROR: invalid conn_id".toList
    | .value n =>
      if 1 ≤ n ∧ n ≤ MAX_SERVER_CONNECTIONS then .network_disconnect n
      else .error "ERROR: conn_id out of range (1-5)".toList

/-- `<conn_id> <protocol> <ip> <port>`, and anything behind them. -/
def connect_request (args : Str) : Request :=
  let (id, args) := parse_next args
  if id = [] then .error "ERROR: missing conn_id".toList
  else
    match digits 0 id with
    | .overflow => .overflow
    | .invalid => .error "ERROR: invalid conn_id (1-5)".toList
    | .value conn_id =>
      if conn_id < 1 ∨ MAX_SERVER_CONNECTIONS < conn_id then .error "ERROR: invalid conn_id (1-5)".toList
      else
        let (protocol, args) := parse_next args
        let (ip, args) := parse_next args
        let (port, _) := parse_next args
        if protocol = [] then .error "ERROR: missing protocol".toList
        else if ip = [] then .error "ERROR: missing ip/dns".toList
        else if port = [] then .error "ERROR: missing port".toList
        else
          match digits 0 port with
          | .overflow => .overflow
          | .invalid => .error "ERROR: invalid port".toList
          | .value n =>
            if n < 1 ∨ 65535 < n then .error "ERROR: invalid port".toList
            else .server_connect ⟨conn_id, n, .ofView _ (cstr protocol), .ofView _ (cstr ip)⟩

def set_request (conn_id : Nat) (res args : Str) : Request :=
  if res = (name "NETWORKCONNECT").text ∨ res = (name "CONNECT").text then .network_connect
  else if res = (name "NETWORKDISCONNECT").text ∨ res = (name "DISCONNECT").text then disconnect_request conn_id args
  else if res = (name "SERVERCONNECT").text then connect_request args
  else if res = (name "CONFIG").text then .config args
  else
    match config_key_from_resource res with
    | some k =>
      if args = [] then .error "ERROR: missing value".toList else .config (k.name.text ++ '=' :: args)
    | none =>
      if res = (name "FORCEPSM").text then .force_psm
      else if res = (name "GNSS").text then .acquire_gnss_position
      else .error "ERROR: unknown SET resource".toList

/-- The connection of the configuration is the one to disconnect by default. -/
def handle_request (conn_id : Nat) (request : Str) : Request :=
  let cmd := to_upper (cut ' ' request).1
  let sub_orig := (cut ' ' request).2.getD []
  let sub := to_upper sub_orig
  if cmd = (name "GET").text then get_request sub
  else if cmd = (name "SET").text then
    let (res, args) := cut ' ' sub
    set_request conn_id res (if args.isSome then sub_orig.drop (res.length + 1) else [])
  else .error "ERROR: unknown command - use GET <resource>, SET CONFIG <key>=<value>, SET NETWORKDISCONNECT [conn_id], or SET SERVERCONNECT <conn_id> <protocol> <ip> <port>".toList

/-- `apply_config_update` up to the request: the configuration that is sent with it, or the text for the client. -/
def apply_config_update (ulong : Nat) (update_expr : Str) (config : NetworkLteConfig) : Except Str NetworkLteConfig :=
  let (cfg, fChanged) := apply_config_fields ulong update_expr config
  if fChanged then .ok cfg else .error "ERROR: no valid fields provided (use key=value pairs)".toList

/-! ## Upper case -/

theorem toNat_toUpper (c : Char) :
    c.toUpper.toNat = if 97 ≤ c.toNat ∧ c.toNat ≤ 122 then c.toNat - 32 else c.toNat := by
  have hcond : ('a'.val ≤ c.val ∧ c.val ≤ 'z'.val) ↔ (97 ≤ c.toNat ∧ c.toNat ≤ 122) := by
    rw [UInt32.le_iff_toNat_le, UInt32.le_iff_toNat_le]
    exact Iff.rfl
  unfold Char.toUpper
  split
  · next h =>
    rw [if_pos (hcond.mp h)]
    obtain ⟨h₁, h₂⟩ := hcond.mp h
    change (c.val + ('A'.val - 'a'.val)).toNat = c.toNat - 32
    rw [UInt32.toNat_add]
    change (c.toNat + 4294967264) % 2 ^ 32 = c.toNat - 32
    omega
  · next h => rw [if_neg fun hc => h (hcond.mpr hc)]

theorem toUpper_toUpper (c : Char) : c.toUpper.toUpper = c.toUpper := by
  rw [← Char.toNat_inj, toNat_toUpper, toNat_toUpper]
  split_ifs <;> omega

/-- A character that is no letter comes from itself only. -/
theorem toUpper_eq_iff {c d : Char} (hd : d.toNat < 65 ∨ 90 < d.toNat ∧ d.toNat < 97 ∨ 122 < d.toNat) :
    c.toUpper = d ↔ c = d := by
  rw [← Char.toNat_inj, ← Char.toNat_inj, toNat_toUpper]
  split_ifs <;> omega

theorem normalize_to_upper (s : Str) : normalize_token (to_upper s) = normalize_token s := by
  have hkeep : ∀ c : Char, (c.toUpper ≠ '_' ∧ c.toUpper ≠ '-') ↔ (c ≠ '_' ∧ c ≠ '-') := fun c => by
    rw [Ne, Ne, toUpper_eq_iff (by decide), toUpper_eq_iff (by decide)]
  induction s with
  | nil => rfl
  | cons c s ih =>
    simp only [normalize_token, to_upper, List.map_cons, List.filter_cons, hkeep] at ih ⊢
    split
    · rw [List.map_cons, List.map_cons, ih, toUpper_toUpper]
    · exact ih

theorem cut_to_upper (s : Str) :
    cut ' ' (to_upper s) = (to_upper (cut ' ' s).1, (cut ' ' s).2.map to_upper) := by
  induction s with
  | nil => rfl
  | cons c s ih =>
    have hc : c.toUpper = ' ' ↔ c = ' ' := toUpper_eq_iff (by decide)
    simp only [to_upper, List.map_cons, cut, hc] at ih ⊢
    split
    · rfl
    · rw [ih]
      rfl

theorem handle_set {cmd res args : Str} (hc : to_upper cmd = (name "SET").text) (hr : ' ' ∉ res) (conn_id : Nat) :
    handle_request conn_id (cmd ++ ' ' :: (res ++ ' ' :: args)) = set_request conn_id (to_upper res) args := by
  have hcmd : ' ' ∉ cmd := by
    intro h
    have : ' ' ∈ to_upper cmd := List.mem_map.mpr ⟨' ', h, rfl⟩
    rw [hc] at this
    exact absurd this (by simp)
  have hset : to_upper cmd ≠ (name "GET").text := by
    rw [hc]
    simp
  simp only [handle_request, cut_append hcmd, Option.getD_some, cut_to_upper, cut_append hr, if_neg hset, if_pos hc,
    Option.map_some, Option.isSome_some, if_true]
  rw [to_upper, List.length_map, List.drop_length_add_append]
  rfl

/-- `config_key_from_resource` knows every field by its name, in letters of either kind and with or without its
underlines. -/
theorem config_key_of_name (k : Key) : config_key_from_resource k.name.text = some k :=
  have hall : ∀ k ∈ Key.all, config_key_from_resource k.name.text = some k := by decide +kernel
  hall k k.mem_all

theorem config_key_congr {r s : Str} (h : normalize_token r = normalize_token s) :
    config_key_from_resource r = config_key_from_resource s := by
  rw [config_key_from_resource, h]
  rfl

theorem not_reserved {res : Str} {k : Key} (h : config_key_from_resource res = some k) :
    ∀ w ∈ [(name "NETWORKCONNECT").text, (name "CONNECT").text, (name "NETWORKDISCONNECT").text,
      (name "DISCONNECT").text, (name "SERVERCONNECT").text, (name "CONFIG").text], res ≠ w := by
  have hnone : ∀ w ∈ [(name "NETWORKCONNECT").text, (name "CONNECT").text, (name "NETWORKDISCONNECT").text,
      (name "DISCONNECT").text, (name "SERVERCONNECT").text, (name "CONFIG").text],
      config_key_from_resource w = none := by decide +kernel
  rintro w hw rfl
  rw [hnone res hw] at h
  cases h

theorem set_request_field (conn_id : Nat) {res : Str} {k : Key} (h : config_key_from_resource res = some k) (v : Str) :
    set_request conn_id res v =
      if v = [] then .error "ERROR: missing value".toList else .config (k.name.text ++ '=' :: v) := by
  have hres := not_reserved h
  simp only [List.forall_mem_cons] at hres
  obtain ⟨h₁, h₂, h₃, h₄, h₅, h₆, -⟩ := hres
  rw [set_request, if_neg (not_or.mpr ⟨h₁, h₂⟩), if_neg (not_or.mpr ⟨h₃, h₄⟩), if_neg h₅, if_neg h₆, h]

theorem set_request_config (conn_id : Nat) (args : Str) : set_request conn_id (name "CONFIG").text args = .config args := by
  have hother : ∀ w ∈ [(name "NETWORKCONNECT").text, (name "CONNECT").text, (name "NETWORKDISCONNECT").text,
      (name "DISCONNECT").text, (name "SERVERCONNECT").text], (name "CONFIG").text ≠ w := by simp
  simp only [List.forall_mem_cons] at hother
  obtain ⟨h₁, h₂, h₃, h₄, h₅, -⟩ := hother
  rw [set_request, if_neg (not_or.mpr ⟨h₁, h₂⟩), if_neg (not_or.mpr ⟨h₃, h₄⟩), if_neg h₅, if_pos rfl]

/-! ## One field -/

theorem assignments_one (k : Key) {v : Str} (hv : ' ' ∉ v) :
    assignments (k.name.text ++ '=' :: v) = [(k.name.text, v)] :=
  (Spelled.last 0 k.name_spelled.1 k.name_spelled.2 hv).eq_assignments.symm

theorem apply_config_update_one (ulong : Nat) (cfg : NetworkLteConfig) (k : Key) {v : Str} (hv : ' ' ∉ v) :
    apply_config_update ulong (k.name.text ++ '=' :: v) cfg =
      match k.kind.read ulong v with
      | some x => .ok (k.put x cfg)
      | none => .error "ERROR: no valid fields provided (use key=value pairs)".toList := by
  rw [apply_config_update, apply_config_fields_eq, assignments_one k hv]
  rcases hread : k.kind.read ulong v with _ | x
  · have heffect : effect ulong (k.name.text, v) = none := by
      simp only [effect, Key.of_name_name, Option.bind_some, hread, Option.map_none]
    simp only [List.filterMap_cons, heffect, List.filterMap_nil]
    rfl
  · have heffect : effect ulong (k.name.text, v) = some ⟨k, x⟩ := effect_some.mpr ⟨rfl, hread⟩
    simp only [List.filterMap_cons, heffect, List.filterMap_nil]
    rfl

/-- `SET <field> <value>` is `SET CONFIG <key>=<value>`, however the words are written, but for an empty value. The
configuration that is sent is the old one with the value in its field. -/
theorem set_field_any_spelling (conn_id ulong : Nat) (cfg : NetworkLteConfig) (k : Key) {cmd res v : Str}
    (hc : to_upper cmd = (name "SET").text) (hr : ' ' ∉ res)
    (hk : normalize_token res = normalize_token k.name.text) :
    (handle_request conn_id (cmd ++ ' ' :: (res ++ ' ' :: v)) =
        if v = [] then .error "ERROR: missing value".toList else .config (k.name.text ++ '=' :: v)) ∧
      handle_request conn_id (cmd ++ ' ' :: ((name "CONFIG").text ++ ' ' :: (k.name.text ++ '=' :: v))) =
        .config (k.name.text ++ '=' :: v) ∧
      (' ' ∉ v →
        (∀ x, Denotes ulong k.kind v x →
          apply_config_update ulong (k.name.text ++ '=' :: v) cfg = .ok (k.put x cfg)) ∧
        ((∀ x, ¬ Denotes ulong k.kind v x) →
          apply_config_update ulong (k.name.text ++ '=' :: v) cfg =
            .error "ERROR: no valid fields provided (use key=value pairs)".toList)) := by
  refine ⟨?_, ?_, fun hblank => ⟨fun x hx => ?_, fun hnone => ?_⟩⟩
  · have hkey : config_key_from_resource (to_upper res) = some k := by
      rw [config_key_congr ((normalize_to_upper res).trans hk), config_key_of_name]
    rw [handle_set hc hr, set_request_field conn_id hkey]
  · have hword : to_upper (name "CONFIG").text = (name "CONFIG").text := rfl
    rw [handle_set hc (by simp), hword, set_request_config]
  · rw [apply_config_update_one ulong cfg k hblank, denotes_iff.mp hx]
  · have hread : k.kind.read ulong v = none :=
      Option.eq_none_iff_forall_ne_some.mpr fun x hx => hnone x (denotes_iff.mpr hx)
    rw [apply_config_update_one ulong cfg k hblank, hread]

theorem set_field_any_spelling_timer :
    handle_request 1 ("sEt".toList ++ ' ' :: ("Psm-T3412".toList ++ ' ' :: "120".toList)) =
        .config (Key.psm_t3412.name.text ++ '=' :: "120".toList) ∧
      apply_config_update 64 (Key.psm_t3412.name.text ++ '=' :: "120".toList) tuned =
        .ok { tuned with psm_t3412 := 120 } := by
  have hcmd : to_upper "sEt".toList = (name "SET").text := rfl
  have hblank : ' ' ∉ "Psm-T3412".toList := by simp
  have hkey : normalize_token "Psm-T3412".toList = normalize_token Key.psm_t3412.name.text := rfl
  obtain ⟨hrequest, -, hvalue⟩ := set_field_any_spelling 1 64 tuned .psm_t3412 (v := "120".toList) hcmd hblank hkey
  have hread : Denotes 64 Key.psm_t3412.kind "120".toList (120 : Nat) := denotes_iff.mpr rfl
  exact ⟨hrequest.trans (if_neg (by decide)), (hvalue (by decide)).1 _ hread⟩

/-! ## Numbers -/

theorem le_foldl_digits (s : Str) (n : Nat) : n ≤ s.foldl (fun v c => 10 * v + (c.toNat - 48)) n := by
  induction s generalizing n with
  | nil => exact Nat.le_refl n
  | cons c s ih =>
    have := ih (10 * n + (c.toNat - 48))
    rw [List.foldl_cons]
    omega

theorem digits_foldl {s : Str} (hs : ∀ c ∈ s, isDigit c = true) {n : Nat}
    (h : s.foldl (fun v c => 10 * v + (c.toNat - 48)) n < 2 ^ 31) :
    digits n s = .value (s.foldl (fun v c => 10 * v + (c.toNat - 48)) n) := by
  induction s generalizing n with
  | nil => rfl
  | cons c s ih =>
    obtain ⟨hc, hs⟩ := List.forall_mem_cons.mp hs
    have hle := le_foldl_digits s (10 * n + (c.toNat - 48))
    rw [List.foldl_cons] at h ⊢
    rw [digits, if_pos hc, Nat.mul_comm n 10, if_neg (by omega)]
    exact ih hs h

theorem digits_decimal {n : Nat} (h : n < 2 ^ 31) : digits 0 (decimal n) = .value n := by
  have hval : (decimal n).foldl (fun v c => 10 * v + (c.toNat - 48)) 0 = n := digitsVal_decimal n
  rw [digits_foldl (fun c hc => isDigit_of_mem_decimal hc) (by rw [hval]; exact h), hval]

/-! ## What is asked of the network thread -/

structure ModemServerConnectMsg.InRange (m : ModemServerConnectMsg) : Prop where
  conn_id : 1 ≤ m.conn_id ∧ m.conn_id ≤ MAX_SERVER_CONNECTIONS
  port : 1 ≤ m.port ∧ m.port ≤ 65535
  texts : ∀ c ∈ m.protocol.view ++ m.ip.view, c ≠ ' ' ∧ c ≠ '\x00'

/-- The numbers are those of connections and ports. -/
def Request.InRange : Request → Prop
  | .ask type arg0 _ =>
    Messages.requestLength type = Messages.ModemTxMsg.size ∧ arg0 ≤ MAX_SERVER_CONNECTIONS ∧
      (arg0 ≠ 0 → type = .get_server_info_array)
  | .network_disconnect conn_id => 1 ≤ conn_id ∧ conn_id ≤ MAX_SERVER_CONNECTIONS
  | .server_connect msg => msg.InRange
  | _ => True

theorem cut_text {s : Str} {n : Nat} {c : Char} (h : c ∈ (FixedString.ofView n (cstr (cut ' ' s).1)).view) :
    c ≠ ' ' ∧ c ≠ '\x00' := by
  have hc : c ∈ cstr (cut ' ' s).1 := List.mem_of_mem_take h
  refine ⟨?_, ?_⟩
  · rintro rfl
    exact not_mem_cut rfl ((List.takeWhile_prefix _).subset hc)
  · rintro rfl
    exact absurd (List.mem_takeWhile_imp hc) (by decide)

theorem connect_request_inRange (args : Str) : (connect_request args).InRange := by
  unfold connect_request parse_next
  simp only
  split
  · trivial
  split
  · trivial
  · trivial
  split
  · trivial
  · next conn_id _ hid =>
    rw [not_or] at hid
    split
    · trivial
    split
    · trivial
    split
    · trivial
    split
    · trivial
    · trivial
    split
    · trivial
    · next port _ hport =>
      rw [not_or] at hport
      refine ⟨⟨Nat.le_of_not_lt hid.1, Nat.le_of_not_lt hid.2⟩,
        ⟨Nat.le_of_not_lt hport.1, Nat.le_of_not_lt hport.2⟩, fun c hc => ?_⟩
      rcases List.mem_append.mp hc with hc | hc
      · exact cut_text hc
      · exact cut_text hc

theorem get_request_inRange (sub : Str) : (get_request sub).InRange := by
  have hresources : ∀ e ∈ get_resources, Messages.requestLength e.2 = Messages.ModemTxMsg.size := by
    decide +kernel
  unfold get_request
  split
  · exact ⟨rfl, by decide, fun h => absurd rfl h⟩
  split
  · trivial
  split
  · next e he =>
    exact ⟨hresources e (List.mem_of_find?_eq_some he), Nat.zero_le _, fun h => absurd rfl h⟩
  split
  swap
  · trivial
  unfold get_server_info
  split
  · exact ⟨rfl, Nat.zero_le _, fun _ => rfl⟩
  split
  · trivial
  · trivial
  split
  · next h => exact ⟨rfl, h.2, fun _ => rfl⟩
  · trivial

theorem disconnect_request_inRange {conn_id : Nat} (h : 1 ≤ conn_id ∧ conn_id ≤ MAX_SERVER_CONNECTIONS) (args : Str) :
    (disconnect_request conn_id args).InRange := by
  unfold disconnect_request
  split
  · exact h
  split
  · trivial
  · trivial
  split
  · next h => exact h
  · trivial

theorem set_request_inRange {conn_id : Nat} (h : 1 ≤ conn_id ∧ conn_id ≤ MAX_SERVER_CONNECTIONS) (res args : Str) :
    (set_request conn_id res args).InRange := by
  unfold set_request
  split
  · trivial
  split
  · exact disconnect_request_inRange h args
  split
  · exact connect_request_inRange args
  split
  · trivial
  split
  · split
    · trivial
    · trivial
  split
  · trivial
  split
  · trivial
  · trivial

/-- Whatever a client sends, the network thread is only asked about connections and ports that there are. -/
theorem requests_in_range {conn_id : Nat} (h : 1 ≤ conn_id ∧ conn_id ≤ MAX_SERVER_CONNECTIONS) (request : Str) :
    (handle_request conn_id request).InRange := by
  unfold handle_request
  simp only
  split
  · exact get_request_inRange _
  split
  · exact set_request_inRange h _ _
  · trivial

theorem requests_in_range_first : (handle_request 1 "SET DISCONNECT 5".toList).InRange :=
  requests_in_range (by decide) _

/-! ## `SERVERCONNECT` -/

def spell_connect (m : ModemServerConnectMsg) : Str :=
  decimal m.conn_id ++ ' ' :: (m.protocol.view ++ ' ' :: (m.ip.view ++ ' ' :: decimal m.port))

theorem parse_next_append {a : Str} (h : ' ' ∉ a) (b : Str) : parse_next (a ++ ' ' :: b) = (a, b) := by
  rw [parse_next, cut_append h]
  rfl

theorem parse_next_last {a : Str} (h : ' ' ∉ a) : parse_next a = (a, []) := by
  rw [parse_next, cut_none h]
  rfl

theorem ofView_cstr (f : FixedString n) (h : '\x00' ∉ f.view) : FixedString.ofView n (cstr f.view) = f := by
  refine FixedString.ext ?_
  rw [FixedString.ofView_view, cstr_eq_self_iff.mpr h, List.take_of_length_le f.fits]

theorem connect_request_spelled {m : ModemServerConnectMsg} (h : m.InRange) (hp : m.protocol.view ≠ [])
    (hi : m.ip.view ≠ []) : connect_request (spell_connect m) = .server_connect m := by
  have hdecimal : ∀ n, ' ' ∉ decimal n := fun n => not_mem_decimal rfl
  have hprotocol : ' ' ∉ m.protocol.view ∧ '\x00' ∉ m.protocol.view :=
    ⟨fun hc => (h.texts _ (List.mem_append_left _ hc)).1 rfl, fun hc => (h.texts _ (List.mem_append_left _ hc)).2 rfl⟩
  have hip : ' ' ∉ m.ip.view ∧ '\x00' ∉ m.ip.view :=
    ⟨fun hc => (h.texts _ (List.mem_append_right _ hc)).1 rfl, fun hc => (h.texts _ (List.mem_append_right _ hc)).2 rfl⟩
  obtain ⟨hc₁, hc₂⟩ := h.conn_id
  obtain ⟨hp₁, hp₂⟩ := h.port
  have hid : m.conn_id < 2 ^ 31 := Nat.lt_of_le_of_lt hc₂ (by decide)
  simp only [connect_request, spell_connect, parse_next_append (hdecimal _), parse_next_append hprotocol.1,
    parse_next_append hip.1, parse_next_last (hdecimal _), digits_decimal hid,
    digits_decimal (show m.port < 2 ^ 31 by omega), if_neg (decimal_ne_nil _), if_neg hp, if_neg hi,
    if_neg (not_or.mpr ⟨Nat.not_lt.mpr hc₁, Nat.not_lt.mpr hc₂⟩),
    if_neg (not_or.mpr ⟨Nat.not_lt.mpr hp₁, Nat.not_lt.mpr hp₂⟩), ofView_cstr _ hprotocol.2, ofView_cstr _ hip.2]

theorem connect_request_texts {m : ModemServerConnectMsg} (h : connect_request (spell_connect m) = .server_connect m) :
    m.InRange ∧ m.protocol.view ≠ [] ∧ m.ip.view ≠ [] := by
  have hrange : m.InRange := by
    have := connect_request_inRange (spell_connect m)
    rwa [h] at this
  have hdecimal : ∀ n, ' ' ∉ decimal n := fun n => not_mem_decimal rfl
  have hprotocol : ' ' ∉ m.protocol.view := fun hc => (hrange.texts _ (List.mem_append_left _ hc)).1 rfl
  have hip : ' ' ∉ m.ip.view := fun hc => (hrange.texts _ (List.mem_append_right _ hc)).1 rfl
  have hid : m.conn_id < 2 ^ 31 := Nat.lt_of_le_of_lt hrange.conn_id.2 (by decide)
  obtain ⟨hc₁, hc₂⟩ := hrange.conn_id
  simp only [connect_request, spell_connect, parse_next_append (hdecimal _), parse_next_append hprotocol,
    parse_next_append hip, parse_next_last (hdecimal _), digits_decimal hid, if_neg (decimal_ne_nil _),
    if_neg (not_or.mpr ⟨Nat.not_lt.mpr hc₁, Nat.not_lt.mpr hc₂⟩)] at h
  refine ⟨hrange, fun hp => ?_, fun hi => ?_⟩
  · rw [if_pos hp] at h
    cases h
  · by_cases hp : m.protocol.view = []
    · rw [if_pos hp] at h
      cases h
    · rw [if_neg hp, if_pos hi] at h
      cases h

theorem handle_server_connect {cmd res : Str} (hc : to_upper cmd = (name "SET").text)
    (hr : to_upper res = (name "SERVERCONNECT").text) (conn_id : Nat) (args : Str) :
    handle_request conn_id (cmd ++ ' ' :: (res ++ ' ' :: args)) = connect_request args := by
  have hres : ' ' ∉ res := by
    intro h
    have : ' ' ∈ to_upper res := List.mem_map.mpr ⟨' ', h, rfl⟩
    rw [hr] at this
    exact absurd this (by simp)
  have hother : ∀ w ∈ [(name "NETWORKCONNECT").text, (name "CONNECT").text, (name "NETWORKDISCONNECT").text,
      (name "DISCONNECT").text], (name "SERVERCONNECT").text ≠ w := by simp
  simp only [List.forall_mem_cons] at hother
  obtain ⟨h₁, h₂, h₃, h₄, -⟩ := hother
  rw [handle_set hc hres, hr, set_request, if_neg (not_or.mpr ⟨h₁, h₂⟩), if_neg (not_or.mpr ⟨h₃, h₄⟩), if_pos rfl]

/-- A connection is asked for as it was written exactly when its numbers are in range and its texts are not empty and
have no blanks and no NUL. -/
theorem server_connect_spelled_iff (conn_id : Nat) (m : ModemServerConnectMsg) {cmd res : Str}
    (hc : to_upper cmd = (name "SET").text) (hr : to_upper res = (name "SERVERCONNECT").text) :
    handle_request conn_id (cmd ++ ' ' :: (res ++ ' ' :: spell_connect m)) = .server_connect m ↔
      m.InRange ∧ m.protocol.view ≠ [] ∧ m.ip.view ≠ [] := by
  rw [handle_server_connect hc hr]
  constructor
  · exact connect_request_texts
  · rintro ⟨h, hp, hi⟩
    exact connect_request_spelled h hp hi

theorem server_connect_spelled_dns :
    let m : ModemServerConnectMsg := ⟨2, 5683, .ofView _ "UDP".toList, .ofView _ "coap.example".toList⟩
    handle_request 1 ("Set".toList ++ ' ' :: ("ServerConnect".toList ++ ' ' :: spell_connect m)) =
      .server_connect m := by
  intro m
  have htexts : ∀ c ∈ "UDP".toList ++ "coap.example".toList, c ≠ ' ' ∧ c ≠ '\x00' := by simp
  exact (server_connect_spelled_iff 1 m rfl rfl).mpr
    ⟨⟨by decide, by decide, htexts⟩, List.cons_ne_nil _ _, List.cons_ne_nil _ _⟩

end LteModem.Rpc
