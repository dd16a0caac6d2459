import LteModem.RadioLte.Requests
import LteModem.NetworkLte.Api

/-!
# The connection ids of the requests (`i_radio_lte.cpp`, `NetworkLte::server_connect`, `server_disconnect`)

A connection id comes out of a frame as it is and selects `serverInfo[conn_id - 1]`. The indices of these
accesses are kept. One outside of the table ends the program: what the code does after it is not defined.
-/

open Strings

namespace LteModem.NetworkLte.ServerIds

open Messages Requests

def MAX_SERVER_CONNECTIONS : Nat := 5

structure Traced where
  world : World
  /-- The newest first. -/
  indices : List Int := []

def machine {α : Type} (m : Prog World α) : Prog Traced α := fun t =>
  ((m t.world).1, { t with world := (m t.world).2 })

/-- `conn_id - 1`, an `int`. -/
def serverIndex (conn_id : Nat) : Int := conn_id - 1

/-! ## The calls on any id -/

/-- `serverInfo[conn_id - 1]`. -/
def element (conn_id : Nat) : Prog Traced Conn := do
  .modify fun t => { t with indices := serverIndex conn_id :: t.indices }
  match slot conn_id with
  | some k => pure k
  | none => .cutOff

def set_server (conn_id : Nat) (f : ServerInfo → ServerInfo) : Prog Traced Unit := do
  let k ← element conn_id
  machine (update_server k f)

def get_server {α : Type} (conn_id : Nat) (f : ServerInfo → α) : Prog Traced α := do
  let k ← element conn_id
  let n ← machine net
  pure (f (n.serverInfo k))

def server_has (conn_id : Nat) (p : ServerInfo → Bool) : Prog Traced Bool := get_server conn_id p

/-- The end of `server_connect`: the answer to `AT#SD`, if there was one. -/
def server_open (conn_id : Nat) (protocol ip : Str) (port : Nat) : Prog Traced (Option ModemStatus) :=
  if protocol = "UDP".toList then do
    let status ← machine (xE310.send (.udp_open conn_id ip port port))
    if status ≠ .ok then do
      let _ ← machine (xE310.send (.udp_close conn_id))
      pure (some status)
    else do
      set_server conn_id ({ · with state := .connected })
      set_server conn_id ({ · with protocol := .ofView _ protocol })
      set_server conn_id ({ · with address := .ofView _ ip })
      set_server conn_id ({ · with port })
      pure (some status)
  else pure none

/-- A suspended connection is closed first. -/
def close_suspended (conn_id : Nat) : Prog Traced Bool := do
  let status ← machine (xE310.send (.udp_close conn_id))
  if status ≠ .ok then pure false
  else do
    set_server conn_id ({ · with state := .connected })
    pure true

def is_busy (conn_id : Nat) : Prog Traced Bool := do
  let resolving ← server_has conn_id (·.state = .dns_resolving)
  if resolving then pure true
  else server_has conn_id (·.state = .connecting)

/-- `server_connect` on a server that the modem has reported on. -/
def connect_reported (conn_id : Nat) (protocol ip : Str) (port : Nat) : Prog Traced Bool := do
  let suspended ← server_has conn_id (·.state = .suspended)
  let closed ← (if suspended then close_suspended conn_id else pure true : Prog Traced Bool)
  if closed = false then pure false
  else do
    let busy ← is_busy conn_id
    if busy then pure false
    else do
      let opened ← server_open conn_id protocol ip port
      .when (suspended = true) (machine (record (.resumed opened)))
      pure (opened = some .ok)

def server_connect (conn_id : Nat) (protocol ip : Str) (port : Nat) : Prog Traced Bool := do
  let n ← machine net
  if n.state_ ≠ .data_ready ∧ n.state_ ≠ .sleep_mode then pure false
  else if n.state_ = .data_ready then do
    let a ← machine (exchange (.udp_status conn_id))
    set_server conn_id ({ · with state := .ofUInt8 (Replies.udp_status a 0).2 })
    let connected ← server_has conn_id (·.state = .connected)
    if connected then pure true
    else connect_reported conn_id protocol ip port
  else pure false

/-- The address and the port go into the log of the host. -/
def log_server (conn_id : Nat) : Prog Traced Unit := do
  let _ ← get_server conn_id (·.address)
  let _ ← get_server conn_id (·.port)

def disconnect_udp (conn_id : Nat) : Prog Traced Bool := do
  log_server conn_id
  let status ← machine (xE310.send (.udp_close conn_id))
  if status ≠ .ok then pure false
  else do
    set_server conn_id ({ · with state := .disconnected })
    pure true

def server_disconnect (conn_id : Nat) : Prog Traced Bool := do
  let connected ← server_has conn_id (·.state = .connected)
  if connected = false then pure false
  else do
    let udp ← server_has conn_id (·.protocol.view = "UDP".toList)
    if udp then disconnect_udp conn_id
    else do
      let tcp ← server_has conn_id (·.protocol.view = "TCP".toList)
      .when (tcp = true) (log_server conn_id)
      pure false

/-! ## On an id of the table they are the calls of the machine -/

/-- From `P`, `m` ends with the result and in the world of `m'`, where `Q` holds. -/
def Follows {α : Type} (P : World → Prop) (m : Prog Traced α) (m' : Prog World α) (Q : α → World → Prop) : Prop :=
  ∀ t, P t.world → (m t).1 = (m' t.world).1 ∧ (m t).2.world = (m' t.world).2 ∧
    ∀ a, (m t).1 = some a → Q a (m t).2.world

section Follows

variable {α β : Type} {P : World → Prop} {Q : α → World → Prop} {R : β → World → Prop}

theorem Follows.bind {m : Prog Traced α} {m' : Prog World α} {f : α → Prog Traced β} {f' : α → Prog World β}
    (hm : Follows P m m' Q) (hf : ∀ a, Follows (Q a) (f a) (f' a) R) : Follows P (m >>= f) (m' >>= f') R := by
  intro t ht
  obtain ⟨h1, h2, h3⟩ := hm t ht
  rw [Prog.bind_run, Prog.bind_run]
  rcases hr : m t with ⟨_ | a, v⟩ <;> rcases hr' : m' t.world with ⟨_ | a', v'⟩ <;>
    simp only [hr, hr', Option.some.injEq, reduceCtorEq] at h1 h2 h3
  · exact ⟨rfl, h2, by simp⟩
  · subst h1 h2
    exact hf a v (h3 a rfl)

theorem Follows.pure {a : α} (h : ∀ w, P w → Q a w) : Follows P (pure a) (pure a) Q := by
  intro t ht
  refine ⟨rfl, rfl, fun b hb => ?_⟩
  obtain rfl : a = b := by simpa using hb
  exact h _ ht

theorem Follows.machine {m : Prog World α} (h : Prog.Triple P m Q fun _ => True) : Follows P (machine m) m Q := by
  intro t ht
  refine ⟨rfl, rfl, fun a ha => ?_⟩
  have hq := h t.world ht
  rcases hr : m t.world with ⟨_ | b, v⟩
  · simp [ServerIds.machine, hr] at ha
  · obtain rfl : b = a := by simpa [ServerIds.machine, hr] using ha
    rw [hr] at hq
    simpa [ServerIds.machine, hr, Prog.Ends] using hq

theorem Follows.ite {c d : Prop} [Decidable c] [Decidable d] {m n : Prog Traced α} {m' n' : Prog World α} (h : c ↔ d)
    (ht : d → Follows P m m' Q) (he : ¬ d → Follows P n n' Q) :
    Follows P (if c then m else n) (if d then m' else n') Q := by
  by_cases hd : d
  · rw [if_pos (h.mpr hd), if_pos hd]
    exact ht hd
  · rw [if_neg (mt h.mp hd), if_neg hd]
    exact he hd

theorem slot_id (k : Conn) : slot k.id = some k := slot_succ k

theorem element_run (k : Conn) (t : Traced) :
    element k.id t = (some k, { t with indices := serverIndex k.id :: t.indices }) := by
  simp [element, Prog.bind_run, slot_id]

theorem Follows.get {γ : Type} {k : Conn} {g : ServerInfo → γ} {c : γ} {f : γ → Prog Traced α} {m' : Prog World α}
    (hc : ∀ w, P w → g (w.net.serverInfo k) = c) (hf : Follows P (f c) m' Q) :
    Follows P (get_server k.id g >>= f) m' Q := by
  intro t ht
  have hr : get_server k.id g t = (some c, { t with indices := serverIndex k.id :: t.indices }) := by
    rw [get_server, Prog.bind_run, element_run]
    exact congrArg (fun c => (some c, _)) (hc _ ht)
  rw [Prog.bind_run, hr]
  exact hf { t with indices := serverIndex k.id :: t.indices } ht

theorem Follows.set {k : Conn} {g : ServerInfo → ServerInfo} {Q : Unit → World → Prop}
    (h : Prog.Triple P (update_server k g) Q fun _ => True) :
    Follows P (set_server k.id g) (update_server k g) Q := by
  intro t ht
  have hr : set_server k.id g t =
      ServerIds.machine (update_server k g) { t with indices := serverIndex k.id :: t.indices } := by
    rw [set_server, Prog.bind_run, element_run]
  rw [hr]
  exact Follows.machine h { t with indices := serverIndex k.id :: t.indices } ht

end Follows

section Calls

variable {k : Conn} {P : World → Prop}

/-- The state that a server is in. -/
def InState (k : Conn) (s : ServerState) (w : World) : Prop := (w.net.serverInfo k).state = s

theorem follows_any {α : Type} (m : Prog World α) : Follows P (machine m) m fun _ _ => True :=
  Follows.machine fun w _ => by
    rcases m w with ⟨_ | a, v⟩ <;> trivial

theorem set_state_follows (s : ServerState) :
    Follows P (set_server k.id ({ · with state := s })) (update_server k ({ · with state := s }))
      fun _ => InState k s := by
  refine Follows.set fun w _ => ?_
  simp [update_server, updateNet, Prog.Ends, InState]

theorem net_follows {α : Type} {f : Net → Prog World α} {m : Prog Traced α} {Q : α → World → Prop}
    (h : ∀ n, Follows (fun w => P w ∧ w.net = n) m (f n) Q) : Follows P m (net >>= f) Q :=
  fun t ht => h t.world.net t ⟨ht, rfl⟩

theorem log_follows {α : Type} {f : Unit → Prog Traced α} {m' : Prog World α} {Q : α → World → Prop}
    (hf : Follows P (f ()) m' Q) : Follows P (log_server k.id >>= f) m' Q := by
  intro t ht
  have hr : log_server k.id t = (some (), { t with indices := serverIndex k.id :: serverIndex k.id :: t.indices }) := by
    simp [log_server, get_server, Prog.bind_run, element_run, machine, net]
  rw [Prog.bind_run, hr]
  exact hf { t with indices := serverIndex k.id :: serverIndex k.id :: t.indices } ht

theorem disconnect_follows :
    Follows P (server_disconnect k.id) (NetworkLte.server_disconnect k) fun _ _ => True := by
  refine net_follows fun n => ?_
  have hs {γ : Type} (g : ServerInfo → γ) (w : World) (h : P w ∧ w.net = n) :
      g (w.net.serverInfo k) = g (n.serverInfo k) := by rw [h.2]
  refine Follows.get (hs fun s => decide (s.state = .connected)) (Follows.ite (by simp) (fun _ => ?_) fun _ => ?_)
  · exact Follows.pure fun _ _ => trivial
  refine Follows.get (hs fun s => decide (s.protocol.view = "UDP".toList))
    (Follows.ite decide_eq_true_iff (fun _ => ?_) fun _ => ?_)
  · refine log_follows (Follows.bind (follows_any _) fun status => Follows.ite Iff.rfl (fun _ => ?_) fun _ => ?_)
    · exact Follows.pure fun _ _ => trivial
    · exact Follows.bind (set_state_follows _) fun _ => Follows.pure fun _ _ => trivial
  · refine Follows.get (hs fun s => decide (s.protocol.view = "TCP".toList)) ?_
    rw [Prog.when]
    split
    · exact log_follows (Follows.pure fun _ _ => trivial)
    · exact Follows.pure fun _ _ => trivial

/-- One assignment for each field comes to the assignment of all of them. -/
theorem set_all_follows (protocol ip : Str) (port : Nat) (status : ModemStatus) :
    Follows P (do
        set_server k.id ({ · with state := .connected })
        set_server k.id ({ · with protocol := .ofView _ protocol })
        set_server k.id ({ · with address := .ofView _ ip })
        set_server k.id ({ · with port })
        pure (some status))
      (do
        update_server k fun _ =>
          { state := .connected, protocol := .ofView _ protocol, address := .ofView _ ip, port }
        pure (some status)) fun _ _ => True := by
  intro t _
  have hs (g : ServerInfo → ServerInfo) (t : Traced) : set_server k.id g t =
      (some (), ⟨(update_server k g t.world).2, serverIndex k.id :: t.indices⟩) := by
    rw [set_server, Prog.bind_run, element_run]
    rfl
  simp [Prog.bind_run, hs, update_server, updateNet]

theorem open_follows (protocol ip : Str) (port : Nat) :
    Follows P (server_open k.id protocol ip port) (NetworkLte.server_open k protocol ip port) fun _ _ => True := by
  refine Follows.ite Iff.rfl (fun _ => ?_) fun _ => Follows.pure fun _ _ => trivial
  refine Follows.bind (follows_any _) fun status => Follows.ite Iff.rfl (fun _ => ?_) fun _ => ?_
  · exact Follows.bind (follows_any _) fun _ => Follows.pure fun _ _ => trivial
  · exact set_all_follows protocol ip port status

theorem busy_follows {α : Type} {s : ServerState} {f : Bool → Prog Traced α} {m' : Prog World α}
    {Q : α → World → Prop}
    (hf : Follows (InState k s) (f (decide (s = .dns_resolving ∨ s = .connecting))) m' Q) :
    Follows (InState k s) (is_busy k.id >>= f) m' Q := by
  rw [is_busy, Prog.bind_assoc]
  refine Follows.get (c := decide (s = .dns_resolving)) (fun w h => by rw [← h]) ?_
  by_cases hr : s = .dns_resolving
  · simp only [hr, decide_true, if_true, true_or] at hf ⊢
    exact hf
  · simp only [hr, decide_false, Bool.false_eq_true, if_false, false_or] at hf ⊢
    exact Follows.get (fun w h => by rw [← h]) hf

theorem connect_follows (protocol ip : Str) (port : Nat) :
    Follows P (server_connect k.id protocol ip port) (NetworkLte.server_connect k protocol ip port)
      fun _ _ => True := by
  refine Follows.bind (follows_any _) fun n => Follows.ite Iff.rfl (fun _ => ?_) fun _ => ?_
  · exact Follows.pure fun _ _ => trivial
  refine Follows.ite Iff.rfl (fun _ => ?_) fun _ => Follows.pure fun _ _ => trivial
  rw [xE310.udp_status, Prog.bind_assoc]
  refine Follows.bind (follows_any _) fun a => ?_
  rw [Prog.pure_bind]
  refine Follows.bind (set_state_follows _) fun _ => ?_
  generalize ServerState.ofUInt8 (Replies.udp_status a 0).2 = s
  have hs (p : ServerState → Bool) (w : World) (h : InState k s w) : p (w.net.serverInfo k).state = p s := by
    rw [h]
  refine Follows.get (hs (decide <| · = .connected)) (Follows.ite decide_eq_true_iff (fun _ => ?_) fun _ => ?_)
  · exact Follows.pure fun _ _ => trivial
  refine Follows.get (hs (decide <| · = .suspended)) ?_
  by_cases hu : s = .suspended
  · -- the state is `connected` then, so neither of the two checks stops the call
    rw [if_pos hu]
    simp only [hu, decide_true, if_true]
    rw [close_suspended, Prog.bind_assoc]
    refine Follows.bind (follows_any _) fun status => ?_
    by_cases ho : status = .ok
    · rw [if_neg (not_not.mpr ho), if_neg (not_not.mpr ho), Prog.bind_assoc]
      refine Follows.bind (set_state_follows _) fun _ => ?_
      rw [Prog.pure_bind, if_neg (by simp)]
      refine busy_follows ?_
      rw [if_neg (by simp)]
      refine Follows.bind (open_follows _ _ _) fun opened => ?_
      rw [Prog.when, if_pos (decide_eq_true hu)]
      exact Follows.bind (follows_any _) fun _ => Follows.pure fun _ _ => trivial
    · rw [if_pos ho, if_pos ho, Prog.pure_bind, if_pos rfl]
      exact Follows.pure fun _ _ => trivial
  · rw [if_neg hu]
    simp only [hu, decide_false, Bool.false_eq_true, if_false]
    rw [Prog.pure_bind, if_neg (by simp)]
    refine busy_follows (Follows.ite decide_eq_true_iff (fun _ => ?_) fun _ => ?_)
    · exact Follows.pure fun _ _ => trivial
    · refine Follows.bind (open_follows _ _ _) fun opened => ?_
      rw [Prog.when, if_neg (by simpa using hu), Prog.pure_bind]
      exact Follows.pure fun _ _ => trivial

end Calls

/-! ## Requests -/

/-- The bytes of a frame, and the memory behind them, where a text whose size is wrong goes on. -/
structure RawRequest where
  bytes : List UInt8
  beyond : List UInt8 := []

def requestTypes : List RadioLteRequestType :=
  [.get_registration_info, .get_signal_quality, .get_iccid, .get_imsi, .get_clock, .get_modem_info, .get_sim_status,
    .get_radio_tech, .get_reg_status, .get_network_info, .get_psm_mode, .get_cpsms_config, .get_telit_cpsms_config,
    .get_telit_cpsms_status, .get_network_survey_result, .get_available_operators, .get_csurv_result, .scan_networks,
    .get_server_info_array, .get_config, .set_config, .network_connect, .network_disconnect, .server_connect,
    .server_disconnect, .force_psm, .get_timers, .get_gnss_position, .acquire_gnss_position]

theorem requestTypes_toByte (t : RadioLteRequestType) : requestTypes[t.toByte]? = some t := by
  cases t <;> rfl

namespace RawRequest

variable (f : RawRequest)

def type : Option RadioLteRequestType := f.bytes.head?.bind fun b => requestTypes[b.toNat]?

/-- The little-endian number of `n` bytes at `offset`. -/
def number (offset n : Nat) : Nat := ((f.bytes.drop offset).take n).foldr (fun b v => b.toNat + 256 * v) 0

/-- `FixedString::view`, of the buffer at `offset` and the size behind it. -/
def text (offset capacity : Nat) : Str :=
  (((f.bytes ++ f.beyond).drop offset).take
    (f.number (offset + Layout.offset [Layout.array (capacity + 1) Layout.u8] Layout.u64) 8)).map
      fun b => Char.ofNat b.toNat

/-! `ModemServerConnectMsg` -/

def conn_id : Nat := f.number 1 1
def port : Nat := f.number 2 2
def protocol : Str := f.text (Layout.offset [.u8, .u8, .u16] shortStr) Messages.MODEM_SHORT_STR
def ip : Str := f.text (Layout.offset [.u8, .u8, .u16, shortStr] mediumStr) Messages.MODEM_MEDIUM_STR

/-! `ModemTxMsg` -/

def arg0 : Nat := f.number (Layout.offset [.u8] .u32) 4
def arg1 : Nat := f.number (Layout.offset [.u8, .u32] .u32) 4

def frame : RequestFrame RawRequest := ⟨f.bytes.length, f.type, f⟩

end RawRequest

/-- What `process_radio_requests` calls for a request. `config` reads the configuration of a `set_config`. -/
def request (config : RawRequest → NetworkLteConfig) (fuel : Nat) (f : RawRequest) :
    RadioLteRequestType → Prog Traced Bool
  | .server_connect => server_connect f.conn_id f.protocol f.ip f.port
  | .server_disconnect => server_disconnect (f.arg0 % 256)
  | .scan_networks => machine (scan_networks f.arg0 f.arg1)
  | .network_connect => machine (network_connect fuel)
  | .network_disconnect => machine network_disconnect
  | .force_psm => machine force_psm
  | .acquire_gnss_position => machine do
    let pos ← acquire_gnss_position fuel
    pure pos.isSome
  | .get_clock => machine do
    let status ← refresh_clock
    pure (status = .ok)
  | .set_config => machine do
    set_lteConfig (config f)
    pure true
  | _ => pure true

/-- `NetworkLte` behind the requests, with any values in the responses. -/
def radio (config : RawRequest → NetworkLteConfig) (fuel : Nat) (value : RadioLteRequestType → Traced → Nat) :
    Radio Traced RawRequest where
  call type f t := (((request config fuel f type t).1).getD false, (request config fuel f type t).2)
  value

/-! ## The indices -/

section Indices

variable {p : List Int → Prop}

def Seen (p : List Int → Prop) (t : Traced) : Prop := p t.indices

/-- A property of the indices that another access with this one keeps. -/
class Admits (p : List Int → Prop) (i : Int) : Prop where
  out : ∀ l, p l → p (i :: l)

instance {α : Type} (m : Prog World α) : Prog.Preserves (Seen p) (machine m) := by
  refine ⟨fun t ht => ?_⟩
  rw [machine]
  rcases m t.world with ⟨_ | a, v⟩ <;> exact ht

instance (conn_id : Nat) [h : Admits p (serverIndex conn_id)] : Prog.Preserves (Seen p) (element conn_id) := by
  unfold element
  have : Prog.Preserves (Seen p) (.modify fun t : Traced => { t with indices := serverIndex conn_id :: t.indices }) :=
    Prog.Preserves.modify fun t ht => h.out _ ht
  split <;> infer_instance

variable (conn_id : Nat) [Admits p (serverIndex conn_id)]

instance (f : ServerInfo → ServerInfo) : Prog.Preserves (Seen p) (set_server conn_id f) := by
  unfold set_server
  infer_instance

instance {α : Type} (f : ServerInfo → α) : Prog.Preserves (Seen p) (get_server conn_id f) := by
  unfold get_server
  infer_instance

instance (f : ServerInfo → Bool) : Prog.Preserves (Seen p) (server_has conn_id f) := by
  unfold server_has
  infer_instance

instance (protocol ip : Str) (port : Nat) : Prog.Preserves (Seen p) (server_open conn_id protocol ip port) := by
  unfold server_open
  infer_instance

instance : Prog.Preserves (Seen p) (close_suspended conn_id) := by
  unfold close_suspended
  infer_instance

instance : Prog.Preserves (Seen p) (is_busy conn_id) := by
  unfold is_busy
  infer_instance

instance (protocol ip : Str) (port : Nat) : Prog.Preserves (Seen p) (connect_reported conn_id protocol ip port) := by
  unfold connect_reported
  infer_instance

instance (protocol ip : Str) (port : Nat) : Prog.Preserves (Seen p) (server_connect conn_id protocol ip port) := by
  unfold server_connect
  infer_instance

instance : Prog.Preserves (Seen p) (log_server conn_id) := by
  unfold log_server
  infer_instance

instance : Prog.Preserves (Seen p) (disconnect_udp conn_id) := by
  unfold disconnect_udp
  infer_instance

instance : Prog.Preserves (Seen p) (server_disconnect conn_id) := by
  unfold server_disconnect
  infer_instance

end Indices

/-! ## Every access in the table -/

def InTable (i : Int) : Prop := 0 ≤ i ∧ i < MAX_SERVER_CONNECTIONS

instance (i : Int) : Decidable (InTable i) := inferInstanceAs (Decidable (_ ∧ _))

/-- The id that a request selects a server with, in this state of the machine. -/
def selects (s : NetworkLteState) (f : RawRequest) : Option Nat :=
  if f.type = some .server_connect ∧ f.bytes.length = requestLength .server_connect ∧ s = .data_ready then
    some f.conn_id
  else if f.type = some .server_disconnect ∧ f.bytes.length = requestLength .server_disconnect then
    some (f.arg0 % 256)
  else none

theorem indices_in_table {α : Type} {m : Prog Traced α} {conn_id : Nat} {c : Prop} {t : Traced}
    (hm : ∀ (p : List Int → Prop) [Admits p (serverIndex conn_id)], Prog.Preserves (Seen p) m)
    (hc : c → serverIndex conn_id ∈ (m t).2.indices) (hn : ¬ c → (m t).2.indices = t.indices) :
    (∀ i ∈ (m t).2.indices, InTable i) ↔
      (∀ i ∈ t.indices, InTable i) ∧ (c → InTable (serverIndex conn_id)) := by
  constructor
  · intro h
    constructor
    · intro i hi
      have : Admits (i ∈ ·) (serverIndex conn_id) := ⟨fun _ hl => List.mem_cons_of_mem _ hl⟩
      exact h i ((hm (i ∈ ·)).final hi)
    · intro h'
      exact h _ (hc h')
  · rintro ⟨h, h'⟩
    by_cases hcc : c
    · have : Admits (fun l => ∀ i ∈ l, InTable i) (serverIndex conn_id) :=
        ⟨fun _ hl => List.forall_mem_cons.mpr ⟨h' hcc, hl⟩⟩
      exact (hm fun l => ∀ i ∈ l, InTable i).final h
    · rw [hn hcc]
      exact h

theorem element_seen {α : Type} {P : Traced → Prop} (conn_id : Nat) {f : Conn → Prog Traced α}
    (hf : ∀ k, Prog.Preserves (Seen (serverIndex conn_id ∈ ·)) (f k)) :
    Prog.Triple P (element conn_id >>= f) (fun _ => Seen (serverIndex conn_id ∈ ·)) (Seen (serverIndex conn_id ∈ ·)) := by
  apply Prog.Triple.bind (Q := fun _ => Seen (serverIndex conn_id ∈ ·))
  · intro t _
    rw [element, Prog.bind_run, Prog.modify_run]
    cases slot conn_id <;> exact List.mem_cons_self
  · exact fun k => (hf k).out

instance (i : Int) (conn_id : Nat) : Admits (i ∈ ·) (serverIndex conn_id) :=
  ⟨fun _ hl => List.mem_cons_of_mem _ hl⟩

theorem connect_in_table (conn_id : Nat) (protocol ip : Str) (port : Nat) (t : Traced) :
    (∀ i ∈ (server_connect conn_id protocol ip port t).2.indices, InTable i) ↔
      (∀ i ∈ t.indices, InTable i) ∧ (t.world.net.state_ = .data_ready → InTable (serverIndex conn_id)) := by
  apply indices_in_table
  · intro p _
    infer_instance
  · intro hs
    have h : Prog.Triple (fun t : Traced => t.world.net.state_ = .data_ready) (server_connect conn_id protocol ip port)
        (fun _ => Seen (serverIndex conn_id ∈ ·)) (Seen (serverIndex conn_id ∈ ·)) := by
      apply Prog.Triple.bind (Q := fun n _ => n.state_ = .data_ready)
      · intro t ht
        exact ht
      intro n
      apply Prog.Triple.ite
      · intro hn t ht
        exact absurd ht hn.1
      intro _
      apply Prog.Triple.ite
      · intro _
        apply Prog.Triple.bind (Q := fun _ _ => True)
        · intro t _
          trivial
        intro a
        apply Prog.Triple.bind
        · exact element_seen conn_id fun _ => inferInstance
        · exact fun _ => Prog.Preserves.out
      · intro hn t ht
        exact absurd ht hn
    exact h.final hs
  · intro hs
    simp [server_connect, Prog.bind_run, machine, net, hs]

theorem disconnect_in_table (conn_id : Nat) (t : Traced) :
    (∀ i ∈ (server_disconnect conn_id t).2.indices, InTable i) ↔
      (∀ i ∈ t.indices, InTable i) ∧ InTable (serverIndex conn_id) := by
  have h : Prog.Triple (fun _ => True) (server_disconnect conn_id)
      (fun _ => Seen (serverIndex conn_id ∈ ·)) (Seen (serverIndex conn_id ∈ ·)) := by
    apply Prog.Triple.bind
    · exact element_seen conn_id fun _ => inferInstance
    · exact fun _ => Prog.Preserves.out
  have hi := indices_in_table (m := server_disconnect conn_id) (c := True) (t := t)
    (fun p _ => inferInstance) (fun _ => h.final trivial) fun h => absurd trivial h
  simpa using hi

/-! ### One frame -/

section Frames

variable (config : RawRequest → NetworkLteConfig) (fuel : Nat) (value : RadioLteRequestType → Traced → Nat)

theorem request_in_table (f : RawRequest) (type : RadioLteRequestType) (t : Traced) :
    (∀ i ∈ (request config fuel f type t).2.indices, InTable i) ↔ (∀ i ∈ t.indices, InTable i) ∧
      (type = .server_connect → t.world.net.state_ = .data_ready → InTable (serverIndex f.conn_id)) ∧
      (type = .server_disconnect → InTable (serverIndex (f.arg0 % 256))) := by
  cases type
  case server_connect => simpa [request] using connect_in_table f.conn_id f.protocol f.ip f.port t
  case server_disconnect => simpa [request] using disconnect_in_table (f.arg0 % 256) t
  all_goals simp [request, machine]

theorem publish_radio {ρ : Type} (c : Channels ρ) (frame : Frame) (kind : Kind) :
    (c.publish frame kind).radio = c.radio := by
  unfold Channels.publish Channels.send Channels.set
  cases kind.evt <;> simp only [] <;> split_ifs <;> rfl

theorem runJob_radio (taken : Nat → Nat) (n : Nat) (f : RawRequest) (c : Channels Traced) (job : Job) :
    (runJob (radio config fuel value) taken n f c job).radio =
      match job with
      | .call type => (request config fuel f type c.radio).2
      | _ => c.radio := by
  cases job with
  | call type => rfl
  | respond type | reply b | complete type => exact publish_radio _ _ _

theorem jobs_accepted {f : RawRequest} {type : RadioLteRequestType} (ht : f.type = some type)
    (hl : f.bytes.length = requestLength type) (taken : Nat → Nat) (n : Nat) (c : Channels Traced) :
    ((jobs f.frame).foldl (runJob (radio config fuel value) taken n f) c).radio =
      (request config fuel f type c.radio).2 := by
  have h1 : ¬ requestLength type < 1 := by cases type <;> decide
  have hj : jobs f.frame = match type with
      | .set_config => [.call .set_config, .reply true]
      | .get_clock => [.call .get_clock, .respond .get_clock]
      | type => if blocking type then blockingJobs type else [.respond type] := by
    unfold jobs RawRequest.frame
    simp only [ht, hl, if_neg h1]
    cases type <;> rfl
  rw [hj]
  cases type <;> simp [blocking, blockingJobs, runJob_radio, request]

theorem jobs_refused {f : RawRequest} {type : RadioLteRequestType} (ht : f.type = some type)
    (hl : f.bytes.length ≠ requestLength type) : jobs f.frame = [.reply false] := by
  unfold jobs RawRequest.frame
  simp only [ht]
  by_cases h1 : f.bytes.length < 1
  · rw [if_pos h1]
  · rw [if_neg h1]
    cases type <;> exact if_pos hl

theorem frame_in_table (taken : Nat → Nat) (n : Nat) (f : RawRequest) (c : Channels Traced) :
    (∀ i ∈ ((jobs f.frame).foldl (runJob (radio config fuel value) taken n f) c).radio.indices, InTable i) ↔
      (∀ i ∈ c.radio.indices, InTable i) ∧
        ∀ id ∈ selects c.radio.world.net.state_ f, InTable (serverIndex id) := by
  unfold selects
  cases ht : f.type with
  | none =>
    have hj : jobs f.frame = [.reply false] := by
      unfold jobs RawRequest.frame
      simp [ht]
    simp [hj, runJob_radio]
  | some type =>
    by_cases hl : f.bytes.length = requestLength type
    · rw [jobs_accepted config fuel value ht hl, request_in_table]
      cases type <;> simp [hl]
    · rw [jobs_refused ht hl]
      cases type <;> simp [hl, runJob_radio]

/-! ### All frames -/

theorem frames_in_table (taken : Nat → Nat) (fs : List RawRequest) (n : Nat) (c : Channels Traced) :
    (∀ i ∈ (process_radio_requests (radio config fuel value) taken n (fs.map RawRequest.frame) c).radio.indices,
        InTable i) ↔ (∀ i ∈ c.radio.indices, InTable i) ∧ ∀ pre f post, fs = pre ++ f :: post →
      ∀ id ∈ selects (process_radio_requests (radio config fuel value) taken n
        (pre.map RawRequest.frame) c).radio.world.net.state_ f, InTable (serverIndex id) := by
  induction fs generalizing n c with
  | nil => simp [process_radio_requests]
  | cons f fs ih =>
    have hd : f.frame.data = f := rfl
    rw [List.map_cons, process_radio_requests, ih, hd, frame_in_table, and_assoc]
    apply and_congr_right
    intro _
    constructor
    · rintro ⟨hf, h⟩ pre g post hs
      cases pre with
      | nil =>
        obtain ⟨rfl, -⟩ : f = g ∧ fs = post := by simpa using hs
        exact hf
      | cons f' pre =>
        obtain ⟨rfl, hs'⟩ : f = f' ∧ fs = pre ++ g :: post := by simpa using hs
        exact h pre g post hs'
    · intro h
      constructor
      · exact h [] f fs rfl
      · intro pre g post hs
        exact h (f :: pre) g post (by rw [hs, List.cons_append])

/-- All accesses are in the table exactly when each request, in the state that the ones before it leave, selects an
id from 1 to the number of servers or none. -/
theorem accesses_in_table (taken : Nat → Nat) (fs : List RawRequest) (n : Nat) (c : Channels Traced)
    (h : c.radio.indices = []) :
    let after (fs : List RawRequest) :=
      (process_radio_requests (radio config fuel value) taken n (fs.map RawRequest.frame) c).radio
    (∀ i ∈ (after fs).indices, 0 ≤ i ∧ i < MAX_SERVER_CONNECTIONS) ↔
      ∀ pre f post, fs = pre ++ f :: post → ∀ id ∈ selects (after pre).world.net.state_ f,
        1 ≤ id ∧ id ≤ MAX_SERVER_CONNECTIONS := by
  have hi (id : Nat) : InTable (serverIndex id) ↔ 1 ≤ id ∧ id ≤ MAX_SERVER_CONNECTIONS := by
    unfold InTable serverIndex
    omega
  have hf := frames_in_table config fuel value taken fs n c
  simp only [h, List.not_mem_nil, false_implies, implies_true, true_and, hi] at hf
  exact hf

end Frames

/-- A disconnect of the connection `id`. -/
def disconnectOf (id : UInt32) : RawRequest :=
  let byte (n : Nat) : UInt8 := (id >>> (8 * UInt32.ofNat n)).toUInt8
  { bytes := [24, 0, 0, 0, byte 0, byte 1, byte 2, byte 3, 0, 0, 0, 0] }

def afterDisconnect (id : UInt32) : Traced :=
  (process_radio_requests (radio (fun _ => {}) 9 fun _ _ => 0) (fun _ => 0) 0 [(disconnectOf id).frame]
    { radio := { world := initial {} false (script [] []) } }).radio

theorem accesses_in_table_first :
    (afterDisconnect 1).indices ≠ [] ∧ ∀ i ∈ (afterDisconnect 1).indices, 0 ≤ i ∧ i < MAX_SERVER_CONNECTIONS := by
  constructor
  · decide
  · apply (accesses_in_table (fun _ => {}) 9 (fun _ _ => 0) (fun _ => 0) [disconnectOf 1] 0
      { radio := { world := initial {} false (script [] []) } } rfl).mpr
    intro pre f post h
    cases pre with
    | nil =>
      obtain ⟨rfl, -⟩ : disconnectOf 1 = f ∧ [] = post := by simpa using h
      decide
    | cons g pre => simp at h

/-- Id 0, an id past the table, and one that the conversion to `uint8_t` makes 0. -/
theorem disconnect_outside :
    (afterDisconnect 0).indices = [-1] ∧ (afterDisconnect 6).indices = [5] ∧ (afterDisconnect 256).indices = [-1] := by
  decide

end LteModem.NetworkLte.ServerIds
