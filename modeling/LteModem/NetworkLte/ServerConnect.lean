import LteModem.NetworkLte.Sockets

/-!
# What `server_connect` leaves in `serverInfo`

The entry against the result of the call. Between the commands of the call only the timer thread runs, and it
does not touch the entry, so the outcome is decided by the entry before and the answers.
-/

open Prog Strings

namespace LteModem.NetworkLte.ServerConnect

open Sockets (online)

/-! ## The commands of the call -/

/-- The answer to the command that comes after `i` others. -/
def heard (w : World) (i : Nat) : Answer := (w.env (w.clock + i)).answer

/-- `v` is `w` after `i` commands that say nothing about the servers. -/
structure After (i : Nat) (w v : World) : Prop where
  serverInfo : v.net.serverInfo = w.net.serverInfo
  env : v.env = w.env
  clock : v.clock = w.clock + i

theorem After.heard {i : Nat} {w v : World} (h : After i w v) (j : Nat) : heard v j = heard w (i + j) := by
  simp only [ServerConnect.heard, h.env, h.clock, Nat.add_assoc]

theorem exchange_run (cmd : AtCmd) (w : World) : ∃ v, exchange cmd w = (some (heard w 0), v) ∧ After 1 w v :=
  ⟨_, rfl, Net.moves_keep Net.move_serverInfo _ _, rfl, rfl⟩

theorem send_run (cmd : AtCmd) (w : World) :
    ∃ v, xE310.send cmd w = (some (heard w 0).status, v) ∧ After 1 w v := by
  obtain ⟨v, he, hv⟩ := exchange_run cmd w
  exact ⟨v, by simp only [xE310.send, Prog.bind_run, he, Prog.pure_run], hv⟩

theorem net_run (w : World) : net w = (some w.net, w) := rfl

/-- The world with another entry. -/
def setServer (k : Conn) (s : ServerInfo) (w : World) : World :=
  { w with net := { w.net with serverInfo := Function.update w.net.serverInfo k s } }

@[simp] theorem setServer_self (k : Conn) (s : ServerInfo) (w : World) : (setServer k s w).net.serverInfo k = s := by
  simp [setServer]

@[simp] theorem heard_setServer (k : Conn) (s : ServerInfo) (w : World) (i : Nat) :
    heard (setServer k s w) i = heard w i := rfl

theorem update_server_run (k : Conn) (f : ServerInfo → ServerInfo) (w : World) :
    update_server k f w = (some (), setServer k (f (w.net.serverInfo k)) w) := rfl

theorem record_run (e : Entry) (w : World) : record e w = (some (), { w with log := e :: w.log }) := rfl

/-! ## The end of the call -/

/-- The entry of a connection that was opened as asked. -/
def peer (protocol ip : Str) (port : Nat) : ServerInfo :=
  { state := .connected, protocol := .ofView _ protocol, address := .ofView _ ip, port }

/-- The protocol is supported, and `AT#SD` succeeds as the command after `i` others. -/
def Opens (protocol : Str) (i : Nat) (w : World) : Prop := protocol = "UDP".toList ∧ (heard w i).status = .ok

instance (protocol : Str) (i : Nat) (w : World) : Decidable (Opens protocol i w) :=
  inferInstanceAs (Decidable (_ ∧ _))

theorem server_open_run (k : Conn) (protocol ip : Str) (port : Nat) (w : World) :
    ∃ opened v, server_open k protocol ip port w = (some opened, v) ∧
      (opened = some .ok ↔ Opens protocol 0 w) ∧
      v.net.serverInfo k = if Opens protocol 0 w then peer protocol ip port else w.net.serverInfo k := by
  unfold server_open
  by_cases hp : protocol = "UDP".toList
  · rw [if_pos hp]
    obtain ⟨v, hv, ha⟩ := send_run (.udp_open k.id ip port port) w
    rw [Prog.bind_run]
    simp only [xE310.udp_open, hv]
    by_cases hs : (heard w 0).status = .ok
    · refine ⟨_, _, by rw [if_neg (by simp [hs])]; rfl, by simp [Opens, hp, hs], ?_⟩
      rw [if_pos ⟨hp, hs⟩]
      simp [peer]
    · obtain ⟨u, hu, hb⟩ := send_run (.udp_close k.id) v
      refine ⟨some (heard w 0).status, u, ?_, by simp [Opens, hs], ?_⟩
      · rw [if_pos hs, Prog.bind_run]
        simp only [xE310.udp_close, hu, Prog.pure_run]
      · rw [if_neg fun h => hs h.2, hb.serverInfo, ha.serverInfo]
  · have hn : ¬ Opens protocol 0 w := fun h => hp h.1
    exact ⟨none, w, by rw [if_neg hp]; rfl, by simp [hn], by rw [if_neg hn]⟩

/-! ## The call -/

/-- The state that `AT#SS` reports, the first command of the call. -/
def reported (w : World) : ServerState := .ofUInt8 (Replies.udp_status (heard w 0) 0).2

/-- The result of a call in `data_ready`, and the entry after it. -/
def outcome (protocol ip : Str) (port : Nat) (w : World) (old : ServerInfo) : Bool × ServerInfo :=
  if reported w = .connected then (true, { old with state := .connected })
  else if reported w = .suspended then
    if (heard w 1).status ≠ .ok then (false, { old with state := .suspended })
    else if Opens protocol 2 w then (true, peer protocol ip port)
    else (false, { old with state := .connected })
  else if reported w ≠ .dns_resolving ∧ reported w ≠ .connecting ∧ Opens protocol 1 w then
    (true, peer protocol ip port)
  else (false, { old with state := reported w })

theorem open_run (k : Conn) (protocol ip : Str) (port : Nat) (t : World) :
    ∃ v, (do
        let opened ← server_open k protocol ip port
        pure (decide (opened = some .ok)) : Prog World Bool) t = (some (decide (Opens protocol 0 t)), v) ∧
      v.net.serverInfo k = if Opens protocol 0 t then peer protocol ip port else t.net.serverInfo k := by
  obtain ⟨opened, v, hv, hok, hk⟩ := server_open_run k protocol ip port t
  exact ⟨v, by rw [Prog.bind_of hv, Prog.pure_run, decide_eq_decide.mpr hok], hk⟩

theorem resume_run (k : Conn) (protocol ip : Str) (port : Nat) (t : World) :
    ∃ v, (do
        let status ← xE310.udp_close k
        if status ≠ .ok then pure false
        else do
          update_server k ({ · with state := .connected })
          let opened ← server_open k protocol ip port
          record (.resumed opened)
          pure (decide (opened = some .ok)) : Prog World Bool) t =
        (some (decide ((heard t 0).status = .ok ∧ Opens protocol 1 t)), v) ∧
      v.net.serverInfo k =
        if (heard t 0).status ≠ .ok then t.net.serverInfo k
        else if Opens protocol 1 t then peer protocol ip port
        else { t.net.serverInfo k with state := .connected } := by
  obtain ⟨x, hx, hb⟩ := send_run (.udp_close k.id) t
  rw [Prog.bind_of hx]
  by_cases hc : (heard t 0).status = .ok
  · have hn : ¬ (heard t 0).status ≠ .ok := not_not_intro hc
    rw [if_neg hn, if_neg hn, Prog.bind_of (update_server_run k _ x)]
    obtain ⟨opened, v, hv, hok, hk⟩ := server_open_run k protocol ip port
      (setServer k { x.net.serverInfo k with state := .connected } x)
    have ho : Opens protocol 0 (setServer k { x.net.serverInfo k with state := .connected } x) = Opens protocol 1 t := by
      rw [Opens, heard_setServer, hb.heard, Opens]
    rw [Prog.bind_of hv, Prog.bind_of (record_run _ v)]
    simp only [ho, setServer_self] at hok hk
    rw [hb.serverInfo] at hk
    let logged : World := { v with log := .resumed opened :: v.log }
    exact ⟨logged, by rw [Prog.pure_run, decide_eq_decide.mpr (hok.trans (and_iff_right hc).symm)], hk⟩
  · rw [if_pos hc, if_pos hc]
    exact ⟨x, by simp [hc], congrFun hb.serverInfo k⟩

theorem server_connect_run (k : Conn) (protocol ip : Str) (port : Nat) {w : World} (hw : w.net.state_ = .data_ready) :
    ∃ v, server_connect k protocol ip port w = (some (outcome protocol ip port w (w.net.serverInfo k)).1, v) ∧
      v.net.serverInfo k = (outcome protocol ip port w (w.net.serverInfo k)).2 := by
  obtain ⟨u, hu, ha⟩ := exchange_run (.udp_status k.id) w
  have hst : xE310.udp_status k 0 w = (some (Replies.udp_status (heard w 0) 0), u) := by
    rw [xE310.udp_status, Prog.bind_of hu]
    rfl
  have hu0 : u.net.serverInfo k = w.net.serverInfo k := congrFun ha.serverInfo k
  have hd : ¬ (w.net.state_ ≠ .data_ready ∧ w.net.state_ ≠ .sleep_mode) := fun h => h.1 hw
  have hr : ServerState.ofUInt8 (Replies.udp_status (heard w 0) 0).2 = reported w := rfl
  unfold server_connect outcome
  rw [Prog.bind_of (net_run w), if_neg hd, if_pos hw, Prog.bind_of hst, Prog.bind_of (update_server_run k _ u), hu0, hr]
  generalize ht : setServer k _ u = t
  have hi (i : Nat) : heard t i = heard w (1 + i) := by rw [← ht, heard_setServer, ha.heard]
  have hk : t.net.serverInfo k = { w.net.serverInfo k with state := reported w } := by rw [← ht, setServer_self]
  by_cases hc : reported w = .connected
  · rw [if_pos hc, if_pos hc]
    exact ⟨t, rfl, by rw [hk, hc]⟩
  rw [if_neg hc, if_neg hc]
  by_cases hs : reported w = .suspended
  · obtain ⟨v, hv, hvk⟩ := resume_run k protocol ip port t
    have ho : Opens protocol 1 t ↔ Opens protocol 2 w := by rw [Opens, hi, Opens]
    rw [if_pos hs, if_pos hs, hv]
    simp only [hi 0, ho, hk, hs] at hvk ⊢
    exact ⟨v, by split_ifs with hcl h2 <;> simp_all, hvk.trans (by split_ifs <;> rfl)⟩
  rw [if_neg hs, if_neg hs]
  by_cases hbusy : reported w = .dns_resolving ∨ reported w = .connecting
  · rw [if_pos hbusy, if_neg (by tauto)]
    exact ⟨t, rfl, hk⟩
  obtain ⟨v, hv, hvk⟩ := open_run k protocol ip port t
  have ho : Opens protocol 0 t ↔ Opens protocol 1 w := by rw [Opens, hi, Opens]
  have hb : reported w ≠ .dns_resolving ∧ reported w ≠ .connecting := not_or.mp hbusy
  rw [if_neg hbusy, hv]
  simp only [ho, hk] at hvk ⊢
  by_cases h1 : Opens protocol 1 w
  · rw [if_pos ⟨hb.1, hb.2, h1⟩]
    exact ⟨v, by rw [decide_eq_true h1], by rw [hvk, if_pos h1]⟩
  · rw [if_neg fun h => h1 h.2.2]
    exact ⟨v, by rw [decide_eq_false h1], by rw [hvk, if_neg h1]⟩

/-! ## A failed call -/

theorem server_connect_elsewhere (k : Conn) (protocol ip : Str) (port : Nat) {w : World}
    (hw : w.net.state_ ≠ .data_ready) : server_connect k protocol ip port w = (some false, w) := by
  unfold server_connect
  rw [Prog.bind_of (net_run w)]
  by_cases hs : w.net.state_ = .sleep_mode
  · rw [if_neg (by simp [hs]), if_neg hw]
    rfl
  · rw [if_pos ⟨hw, hs⟩]
    rfl

/-- A suspended socket is closed, and no other one is opened in its place. -/
def ClosedOnly (protocol : Str) (w : World) : Prop :=
  reported w = .suspended ∧ (heard w 1).status = .ok ∧ ¬ Opens protocol 2 w

instance (protocol : Str) (w : World) : Decidable (ClosedOnly protocol w) := inferInstanceAs (Decidable (_ ∧ _))

theorem outcome_failed_iff (protocol ip : Str) (port : Nat) (w : World) (old : ServerInfo) :
    let out := outcome protocol ip port w old
    (out.1 = false ∧ out.2.state = .connected) ↔ ClosedOnly protocol w := by
  intro out
  simp only [out, outcome, ClosedOnly]
  split_ifs <;> simp_all [peer]

theorem failed_connect_iff (k : Conn) (protocol ip : Str) (port : Nat) {w : World} (hw : w.net.state_ = .data_ready) :
    let out := server_connect k protocol ip port w
    (out.1 = some false → (out.2.net.serverInfo k).state ≠ .connected) ↔ ¬ ClosedOnly protocol w := by
  obtain ⟨v, hv, hk⟩ := server_connect_run k protocol ip port hw
  have ho := outcome_failed_iff protocol ip port w (w.net.serverInfo k)
  simp only [hv, hk, ← ho, Option.some.injEq, not_and]

/-- A connected modem that reports a closed socket at the next call and refuses `AT#SD`. -/
def refusing : World :=
  (run 9 [.network_connect] (initial {} false (online fun i =>
    if i = 42 then some { body := .ofView _ "#SS: 1,0".toList } else if i = 43 then some { status := .at_error } else none))).2

theorem failed_connect_iff_refused :
    let out := server_connect ⟨0, by decide⟩ "UDP".toList "10.0.0.1".toList 7000 refusing
    out.1 = some false ∧ (out.2.net.serverInfo ⟨0, by decide⟩).state ≠ .connected := by
  have h : refusing.net.state_ = .data_ready ∧ ¬ ClosedOnly "UDP".toList refusing ∧
      (server_connect ⟨0, by decide⟩ "UDP".toList "10.0.0.1".toList 7000 refusing).1 = some false := by
    decide +kernel
  exact ⟨h.2.2, (failed_connect_iff ⟨0, by decide⟩ "UDP".toList "10.0.0.1".toList 7000 h.1).mpr h.2.1 h.2.2⟩

/-- The suspended socket is closed, `AT#SD` fails, and the entry says connected. -/
theorem connected_after_failure :
    let suspended : Nat → Option Tick := fun i =>
      if i = 42 then some { body := .ofView _ "#SS: 1,2".toList } else if i = 44 then some { status := .at_error } else none
    let w := (run 9 [.network_connect] (initial {} false (online suspended))).2
    let out := server_connect ⟨0, by decide⟩ "UDP".toList "10.0.0.1".toList 7000 w
    w.net.state_ = .data_ready ∧ out.1 = some false ∧ (out.2.net.serverInfo ⟨0, by decide⟩).state = .connected := by
  decide +kernel

/-! ## A successful call -/

/-- The entry is connected to the peer that was asked for. -/
def ConnectedTo (protocol ip : Str) (port : Nat) (s : ServerInfo) : Prop :=
  s.state = .connected ∧ s.protocol.view = protocol ∧ s.address.view = ip ∧ s.port = port

/-- The recorded peer, whatever its state. -/
def Records (protocol ip : Str) (port : Nat) (s : ServerInfo) : Prop :=
  s.protocol.view = protocol ∧ s.address.view = ip ∧ s.port = port

instance (protocol ip : Str) (port : Nat) (s : ServerInfo) : Decidable (ConnectedTo protocol ip port s) :=
  inferInstanceAs (Decidable (_ ∧ _))
instance (protocol ip : Str) (port : Nat) (s : ServerInfo) : Decidable (Records protocol ip port s) :=
  inferInstanceAs (Decidable (_ ∧ _))

theorem outcome_success_iff (protocol : Str) {ip : Str} (port : Nat) (w : World) (old : ServerInfo)
    (hip : ip.length ≤ MODEM_IP_STR) :
    let out := outcome protocol ip port w old
    (out.1 = true → ConnectedTo protocol ip port out.2) ↔
      (reported w = .connected → Records protocol ip port old) := by
  intro out
  have hpeer : protocol = "UDP".toList → ConnectedTo protocol ip port (peer protocol ip port) := by
    rintro rfl
    exact ⟨rfl, rfl, List.take_of_length_le hip, rfl⟩
  simp only [out, outcome]
  split_ifs with hc hs hcl ho hb
  · simp [hc, ConnectedTo, Records]
  · simp [hc]
  · simp [hc, hpeer ho.1]
  · simp [hc]
  · simp [hc, hpeer hb.2.2.1]
  · simp [hc]

theorem successful_connect_iff (k : Conn) {protocol ip : Str} (port : Nat) (w : World)
    (hip : ip.length ≤ MODEM_IP_STR) :
    let out := server_connect k protocol ip port w
    (out.1 = some true → ConnectedTo protocol ip port (out.2.net.serverInfo k)) ↔
      (w.net.state_ = .data_ready → reported w = .connected → Records protocol ip port (w.net.serverInfo k)) := by
  by_cases hw : w.net.state_ = .data_ready
  · obtain ⟨v, hv, hk⟩ := server_connect_run k protocol ip port hw
    have ho := outcome_success_iff protocol port w (w.net.serverInfo k) hip
    simp only [hv, hk, hw, Option.some.injEq, true_imp_iff]
    exact ho
  · simp [server_connect_elsewhere k protocol ip port hw, hw]

/-- The first server is open, as the modem reports at the next call. -/
def openBefore : World :=
  (run 9 [.network_connect, firstServer] (initial {} false (online fun i =>
    if i = 42 then some { body := .ofView _ "#SS: 1,0".toList } else if i = 44 then some { body := .ofView _ "#SS: 1,1".toList } else none))).2

theorem successful_connect_iff_again :
    let out := server_connect ⟨0, by decide⟩ "UDP".toList "10.0.0.1".toList 7000 openBefore
    out.1 = some true ∧ ConnectedTo "UDP".toList "10.0.0.1".toList 7000 (out.2.net.serverInfo ⟨0, by decide⟩) := by
  have h : (server_connect ⟨0, by decide⟩ "UDP".toList "10.0.0.1".toList 7000 openBefore).1 = some true ∧
      Records "UDP".toList "10.0.0.1".toList 7000 (openBefore.net.serverInfo ⟨0, by decide⟩) := by
    decide +kernel
  exact ⟨h.1, (successful_connect_iff ⟨0, by decide⟩ 7000 openBefore (by decide)).mpr (fun _ _ => h.2) h.1⟩

/-- The call for another server succeeds, and the entry is still that of the first one. -/
theorem connected_elsewhere :
    let out := server_connect ⟨0, by decide⟩ "UDP".toList "10.0.0.2".toList 7000 openBefore
    out.1 = some true ∧
      ConnectedTo "UDP".toList "10.0.0.1".toList 7000 (out.2.net.serverInfo ⟨0, by decide⟩) ∧
      ¬ ConnectedTo "UDP".toList "10.0.0.2".toList 7000 (out.2.net.serverInfo ⟨0, by decide⟩) := by
  decide +kernel

end LteModem.NetworkLte.ServerConnect
