import LteModem.NetworkLte.Frame

/-!
# Connected means open

`serverInfo[k].state` against what the modem answered about connection `k + 1`. A reboot and a shutdown
close every connection, and `execute_actions` does not tell `serverInfo` about either.
-/

open Prog Strings

set_option synthInstance.maxSize 100000

namespace LteModem.NetworkLte.Sockets

/-! ## What the modem did -/

/-- A successful `AT#SD`, or a report of state 1 by `AT#SS`. -/
def opens (k : Conn) (a : Answer) : AtCmd → Bool
  | .udp_open conn_id _ _ _ => conn_id = k.id ∧ a.status = .ok
  | .udp_status conn_id => conn_id = k.id ∧ Replies.udp_status a 0 = (.ok, 1)
  | _ => false

/-- The last command on the functionality of the modem was `AT+CFUN=4`. -/
def radioOff : List Entry → Bool
  | [] => false
  | .exchange cmd _ :: l =>
    if cmd.text = "AT+CFUN=4".toList then true
    else if "AT+CFUN=".toList.isPrefixOf cmd.text then false
    else radioOff l
  | _ :: l => radioOff l

/-- A successful `AT#SH` or `AT#REBOOT`, or `AT+CFUN=11` after `AT+CFUN=4`. The text of a raw command counts
as the command it is. -/
def closes (k : Conn) (a : Answer) (l : List Entry) : AtCmd → Bool
  | .udp_close conn_id => conn_id = k.id ∧ a.status = .ok
  | .reboot => a.status = .ok
  | .cfun n => n = 11 ∧ radioOff l
  | .raw text =>
    (text = (AtCmd.udp_close k.id).text ∨ text = AtCmd.reboot.text) ∧ a.status = .ok ∨
      text = (AtCmd.cfun 11).text ∧ radioOff l
  | _ => false

def isOpen (k : Conn) : List Entry → Bool
  | [] => false
  | .exchange cmd a :: l => opens k a cmd || (!closes k a l cmd && isOpen k l)
  | _ :: l => isOpen k l

/-! ## What the machine believes -/

def Connected (n : Net) (k : Conn) : Prop := (n.serverInfo k).state = .connected

instance (n : Net) (k : Conn) : Decidable (Connected n k) :=
  inferInstanceAs (Decidable ((n.serverInfo k).state = .connected))

def Honest (n : Net) (l : List Entry) : Prop := ∀ k, Connected n k → isOpen k l = true

instance (n : Net) (l : List Entry) : Decidable (Honest n l) :=
  inferInstanceAs (Decidable (∀ k : Fin MAX_CONNECTIONS, Connected n k → isOpen k l = true))

def closingText (k : Conn) (text : Str) : Bool :=
  text = (AtCmd.udp_close k.id).text ∨ text = AtCmd.reboot.text ∨ text = (AtCmd.cfun 11).text

/-- A suspended connection is opened again after its close. The modem reboots, shuts down or gets a
closing command of the user only while that connection is not connected. -/
def sound : Entry → Bool
  | .resumed opened => opened = some .ok
  | .ran .reboot n h => h = .status .ok → ∀ k, ¬ Connected n k
  | .ran .switch_off_radio n _ => n.lteConfig.fCfunSleep = true → ∀ k, ¬ Connected n k
  | .called (.send_at_command text) n =>
    n.state_ = .transparent_mode → ∀ k, closingText k text = true → ¬ Connected n k
  | _ => true

def Sound (e : Entry) : Prop := sound e = true

instance : DecidablePred Sound := fun e => inferInstanceAs (Decidable (sound e = true))

/-- Only the connections of `A` are connected, and where `c`, they are open. -/
def Kept (A : Conn → Prop) (c : Prop) (n : Net) (l : List Entry) : Prop :=
  (∀ k, Connected n k → A k) ∧ (c → Honest n l)

abbrev Inv : Net → List Entry → Prop := Kept (fun _ => True) True

variable {A : Conn → Prop} {c : Prop}

theorem isOpen_exchange {k : Conn} {cmd : AtCmd} {a : Answer} {l : List Entry}
    (hc : closes k a l cmd = false) (h : isOpen k l = true) : isOpen k (.exchange cmd a :: l) = true := by
  simp [isOpen, hc, h]

theorem Kept.exchange {n : Net} {l : List Entry} {cmd : AtCmd} {a : Answer} (h : Kept A c n l)
    (hc : ∀ k, closes k a l cmd = false) : Kept A c n (.exchange cmd a :: l) :=
  ⟨h.1, fun hcc k hk => isOpen_exchange (hc k) (h.2 hcc k hk)⟩

theorem Kept.mono {n m : Net} {l : List Entry} (h : Kept A c n l) (hm : ∀ k, Connected m k → Connected n k) :
    Kept A c m l :=
  ⟨fun k hk => h.1 k (hm k hk), fun hc k hk => h.2 hc k (hm k hk)⟩

instance : Blind (Kept A c) := ⟨fun _ _ _ h => h⟩
instance : Restarting (Kept A c) := ⟨fun _ _ h => h⟩

instance : Free Sound (Kept A c) where
  move n _ m h := h.mono fun k hk => by simpa [Connected] using hk
  data _ _ _ _ h := h
  last_status _ _ _ h := h
  other _ _ _ _ _ _ h := h.exchange fun _ => rfl
  prompt _ _ _ _ _ _ h := h.exchange fun _ => rfl
  cold _ _ _ h := h
  warm _ _ _ h := h
  config _ _ _ h := h
  reset _ _ h := h.mono fun k hk => by simp [Connected] at hk
  action _ _ _ _ h := h
  event _ _ _ _ h := h
  urc _ _ _ _ _ _ h := h.exchange fun _ => rfl
  cfun _ _ _ _ hi _ h := h.exchange fun _ => by simp [closes, hi]
  ran _ _ _ _ _ _ h := h
  polled _ _ _ _ h := h
  loopEnd _ _ _ _ h := h
  called _ _ _ _ _ h := h

instance : Timeless Sound (Kept A c) where
  st_timer _ _ _ h := h
  timer _ _ _ h := h
  started _ _ _ _ h := h

section Run

variable {X : World → Prop}

instance (cmd : Command) : Preserves (Under Sound (Kept A c)) (exchange (.other cmd)) X :=
  exchange_preserves fun _ _ _ _ h => h.exchange fun _ => rfl

instance (s : NetworkLteState) : Preserves (Under Sound (Kept A c)) (change_state s) X := by
  refine ⟨triple_change_state (A := fun _ => Kept A c) (B := Kept A c) (C := Kept A c) ?_ ?_ ?_ ?_ Preserves.out⟩
  · exact fun _ _ h _ => h
  · exact fun _ _ h _ => h
  · exact fun _ _ => Preserves.out
  · exact fun _ _ _ h => h

/-! ## Reboot and shutdown -/

instance (cmd : AtCmd) : Preserves (Under Sound (Kept A False)) (exchange cmd) X :=
  exchange_preserves fun _ _ _ _ h => ⟨h.1, False.elim⟩

theorem kept_of_inv {n m : Net} {l : List Entry} (h : m = n ∧ Inv m l) (c : Prop) :
    Kept (Connected n) c m l := by
  obtain ⟨rfl, h⟩ := h
  exact ⟨fun _ hk => hk, fun _ => h.2 trivial⟩

theorem reboot_spec (n : Net) :
    Triple (Under Sound fun m l => m = n ∧ Inv m l) reboot
      (fun h => Under Sound (Kept (Connected n) (h ≠ .status .ok))) X := by
  refine triple_pre (fun m l h => kept_of_inv h True) ?_
  refine Triple.bind (triple_send (R := fun s => Kept (Connected n) (s ≠ .ok)) ?_) fun status => ?_
  · intro m l a _ h
    exact ⟨h.1, fun ha k hk => isOpen_exchange (by simpa [closes] using ha) (h.2 trivial k hk)⟩
  · have hs : (Heard.status status ≠ .status .ok) = (status ≠ .ok) := by simp
    refine Triple.bind (Preserves.out (m := check_status_response _)) fun ok => Triple.ite (fun _ => ?_) fun _ => ?_
    · refine Triple.bind (Preserves.out (m := change_state _)) fun _ => ?_
      refine Triple.bind (Preserves.out (m := call_action _)) fun _ => Triple.pure fun w hw => ?_
      rwa [hs]
    · exact Triple.pure fun w hw => by rwa [hs]

theorem switch_off_radio_spec (n : Net) :
    Triple (Under Sound fun m l => m = n ∧ Inv m l) switch_off_radio
      (fun _ => Under Sound (Kept (Connected n) (n.lteConfig.fCfunSleep = false))) X := by
  by_cases hn : n.lteConfig.fCfunSleep = true
  · refine triple_pre (fun m l h => kept_of_inv h False) ?_
    have : Preserves (Under Sound (Kept (Connected n) False)) switch_off_radio X := by
      unfold switch_off_radio xE310.shutdown
      infer_instance
    exact triple_post (fun _ m l h => ⟨h.1, by simp [hn]⟩) this.out
  · refine Triple.bind triple_net fun m => Triple.ite (fun hm => ?_) fun _ => triple_pure ?_
    · have : Preserves (Under Sound Never) xE310.shutdown X := by
        unfold xE310.shutdown
        infer_instance
      refine triple_absurd ?_
      rintro _ l ⟨rfl, rfl, -⟩
      exact hn hm
    · exact fun m l h => kept_of_inv h.2 _

end Run

instance (fuel : Nat) : Preserves (Under Sound Inv) (execute_actions fuel) := by
  refine ⟨Triple.bind (Preserves.out (m := get_action)) fun a => Triple.bind triple_net fun n => ?_⟩
  by_cases hr : a = .reboot
  · subst hr
    refine Triple.bind (reboot_spec n) fun h => triple_record fun m l hg hm => ?_
    have hg : h = .status .ok → ∀ k, ¬ Connected n k := of_decide_eq_true hg
    refine ⟨fun _ _ => trivial, fun _ k hk => ?_⟩
    exact hm.2 (fun he => hg he k (hm.1 k hk)) k hk
  · by_cases ho : a = .switch_off_radio
    · subst ho
      refine Triple.bind (switch_off_radio_spec n) fun h => triple_record fun m l hg hm => ?_
      have hg : n.lteConfig.fCfunSleep = true → ∀ k, ¬ Connected n k := of_decide_eq_true hg
      refine ⟨fun _ _ => trivial, fun _ k hk => ?_⟩
      exact hm.2 (Bool.eq_false_iff.mpr fun he => hg he k (hm.1 k hk)) k hk
    · have hp : Preserves (Under Sound Inv) (perform fuel a) :=
        perform_preserves fuel a (fun _ => inferInstance) (fun _ => inferInstance) (fun h => absurd h hr)
          (fun h => absurd h ho) (fun _ => inferInstance) fun _ => inferInstance
      refine triple_pre (fun _ _ h => h.2) ?_
      exact Triple.bind hp.out fun h => triple_record fun _ _ _ hm => hm

/-! ## The calls on one server -/

section Servers

variable {X : World → Prop} {k : Conn}

/-- The other connections are as they should be, and this one is not connected where `c`. -/
def Apart (k : Conn) (c : Prop) (n : Net) (l : List Entry) : Prop :=
  (∀ j, j ≠ k → Connected n j → isOpen j l = true) ∧ (c → ¬ Connected n k)

theorem id_ne {j k : Conn} (h : j ≠ k) : k.id ≠ j.id := by
  unfold Conn.id
  intro he
  exact h (Fin.ext (by omega))

theorem Apart.exchange {n : Net} {l : List Entry} {cmd : AtCmd} {a : Answer} (h : Apart k c n l)
    (hc : ∀ j, j ≠ k → closes j a l cmd = false) : Apart k c n (.exchange cmd a :: l) :=
  ⟨fun j hj hn => isOpen_exchange (hc j hj) (h.1 j hj hn), h.2⟩

theorem Apart.close {n : Net} {l : List Entry} {a : Answer} (h : Apart k c n l) :
    Apart k c n (.exchange (.udp_close k.id) a :: l) :=
  h.exchange fun j hj => by simp [closes, id_ne hj]

theorem Apart.inv {n : Net} {l : List Entry} (h : Apart k True n l) : Inv n l := by
  refine ⟨fun _ _ => trivial, fun _ j hj => ?_⟩
  by_cases he : j = k
  · exact absurd (he ▸ hj) (h.2 trivial)
  · exact h.1 j he hj

theorem apart_of_inv {n : Net} {l : List Entry} (h : Inv n l) (hc : c → ¬ Connected n k) : Apart k c n l :=
  ⟨fun j _ hj => h.2 trivial j hj, hc⟩

instance : Blind (Apart k c) := ⟨fun _ _ _ h => h⟩

instance : Stable Sound (Apart k c) where
  move n _ m h := by simpa [Apart, Connected] using h
  data _ _ _ _ h := h
  other _ _ _ _ _ _ h := h.exchange fun _ _ => rfl
  prompt _ _ _ _ _ _ h := h.exchange fun _ _ => rfl

theorem Apart.update {n : Net} {l : List Entry} {s : ServerInfo} {d : Prop} (h : Apart k c n l)
    (hs : d → s.state ≠ .connected) :
    Apart k d { n with serverInfo := Function.update n.serverInfo k s } l := by
  refine ⟨fun j hj hn => h.1 j hj ?_, fun hd => ?_⟩
  · simpa [Connected, Function.update_of_ne hj] using hn
  · simpa [Connected] using hs hd

theorem server_open_spec (c : Prop) (protocol ip : Str) (port : Nat) :
    Triple (Under Sound (Apart k c)) (server_open k protocol ip port)
      (fun opened => Under Sound fun n l => Apart k (opened ≠ some .ok ∧ c) n l ∧
        (opened = some .ok → isOpen k l = true)) X := by
  refine Triple.ite (fun _ => ?_) fun _ => triple_pure fun n l h => ?_
  · refine Triple.bind (triple_send (R := fun s n l => Apart k c n l ∧ (s = .ok → isOpen k l = true)) ?_)
      fun status => Triple.ite (fun hs => ?_) fun hs => ?_
    · intro n l a _ h
      exact ⟨h.exchange fun _ _ => rfl, fun hs => by simp [isOpen, opens, hs]⟩
    · refine triple_pre (fun n l h => h.1) ?_
      refine Triple.bind (triple_send (R := fun _ => Apart k c) fun n l a _ h => h.close) fun _ => ?_
      exact triple_pure fun n l h => ⟨⟨h.1, fun hc => h.2 hc.2⟩, by simp [hs]⟩
    · have hs : status = .ok := by simpa using hs
      refine Triple.bind (Q := fun _ => Under Sound fun n l => Apart k False n l ∧ isOpen k l = true)
        (triple_updateNet ?_) fun _ => triple_pure ?_
      · exact fun n l h => ⟨h.1.update False.elim, h.2 hs⟩
      · exact fun n l h => ⟨⟨h.1.1, fun hc => absurd (by rw [hs]) hc.1⟩, fun _ => h.2⟩
  · exact ⟨⟨h.1, fun hc => h.2 hc.2⟩, by simp⟩

theorem inv_of_opened {n : Net} {l : List Entry} {opened : Option ModemStatus} {c : Prop}
    (h : Apart k (opened ≠ some .ok ∧ c) n l ∧ (opened = some .ok → isOpen k l = true))
    (hc : opened = some .ok ∨ c) : Inv n l := by
  refine ⟨fun _ _ => trivial, fun _ j hj => ?_⟩
  by_cases he : j = k
  · subst he
    rcases hc with hc | hc
    · exact h.2 hc
    · by_contra ho
      exact h.1.2 ⟨fun hs => ho (h.2 hs), hc⟩ hj
  · exact h.1.1 j he hj

theorem udp_status_spec :
    Triple (Under Sound Inv) (xE310.udp_status k 0)
      (fun r => Under Sound fun n l => Inv n l ∧ (r.2 = 1 → isOpen k l = true)) X := by
  refine Triple.bind (triple_exchange
    (R := fun a n l => Inv n l ∧ ((Replies.udp_status a 0).2 = 1 → isOpen k l = true)) ?_) fun a => Triple.pure fun _ hw => hw
  intro n l a _ h
  refine ⟨h.exchange fun _ => rfl, fun hr => ?_⟩
  have hs : Replies.udp_status a 0 = (.ok, 1) := by
    unfold Replies.udp_status at hr ⊢
    split_ifs at hr ⊢
    revert hr
    split <;> simp
  simp [isOpen, opens, hs]

theorem ofUInt8_connected {v : Nat} (h : ServerState.ofUInt8 v = .connected) : v = 1 := by
  unfold ServerState.ofUInt8 at h
  split at h <;> simp_all

instance (protocol ip : Str) (port : Nat) :
    Preserves (Under Sound Inv) (server_connect k protocol ip port) X := by
  refine ⟨Triple.bind (Preserves.out (m := net)) fun n => Triple.ite (fun _ => Preserves.out) fun _ =>
    Triple.ite (fun _ => ?_) fun _ => Preserves.out⟩
  refine Triple.bind udp_status_spec fun r => ?_
  -- the state that the modem reports replaces the cached one
  refine Triple.bind (Q := fun _ => Under Sound fun n l => Inv n l ∧
    Apart k (ServerState.ofUInt8 r.2 ≠ .connected) n l) (triple_updateNet ?_) fun _ => ?_
  · rintro n l ⟨h, hr⟩
    have ha := (apart_of_inv (k := k) (c := False) h False.elim).update
      (s := { n.serverInfo k with state := .ofUInt8 r.2 }) (d := ServerState.ofUInt8 r.2 ≠ .connected) id
    refine ⟨⟨fun _ _ => trivial, fun _ j hj => ?_⟩, ha⟩
    by_cases he : j = k
    · subst he
      exact hr (ofUInt8_connected (by simpa [Connected] using hj))
    · exact ha.1 j he hj
  · refine Triple.ite (fun _ => triple_pure fun _ _ h => h.1) fun hc => ?_
    refine Triple.ite (fun _ => ?_) fun _ => Triple.ite (fun _ => ?_) fun _ => ?_
    · -- a suspended connection is marked connected as soon as it is closed
      refine triple_pre (fun _ _ h => h.2) ?_
      refine Triple.bind (triple_send (R := fun _ => Apart k (ServerState.ofUInt8 r.2 ≠ .connected))
        fun n l a _ h => h.close) fun status => Triple.ite (fun _ => ?_) fun _ => ?_
      · exact triple_pure fun _ _ h => Apart.inv ⟨h.1, fun _ => h.2 hc⟩
      · refine Triple.bind (Q := fun _ => Under Sound (Apart k False)) (triple_updateNet ?_) fun _ => ?_
        · exact fun n l h => h.update False.elim
        · refine Triple.bind (server_open_spec False protocol ip port) fun opened => ?_
          refine Triple.bind (Q := fun _ => Under Sound Inv) (triple_record fun n l hg h => ?_) fun _ =>
            Preserves.out
          exact inv_of_opened h (.inl (of_decide_eq_true hg))
    · exact triple_pure fun _ _ h => h.1
    · refine triple_pre (fun _ _ h => h.2) ?_
      refine Triple.bind (server_open_spec _ protocol ip port) fun opened => triple_pure ?_
      exact fun n l h => inv_of_opened h (.inr hc)

instance : Preserves (Under Sound Inv) (server_disconnect k) X := by
  refine ⟨Triple.bind (Preserves.out (m := net)) fun n => Triple.ite (fun _ => Preserves.out) fun _ =>
    Triple.ite (fun _ => ?_) fun _ => Preserves.out⟩
  refine Triple.bind (triple_send (R := fun s n l => Apart k False n l ∧ (s ≠ .ok → Inv n l)) ?_)
    fun status => Triple.ite (fun hs => ?_) fun _ => ?_
  · refine fun n l a _ h => ⟨(apart_of_inv h False.elim).close, fun hs => h.exchange fun j => ?_⟩
    simp [closes, hs]
  · exact triple_pure fun _ _ h => h.2 hs
  · refine Triple.bind (Q := fun _ => Under Sound Inv) (triple_updateNet ?_) fun _ => Preserves.out
    exact fun n l h => (h.1.update fun _ => by simp).inv

instance (protocol ip port : Str) : Preserves (Under Sound Inv) (new_connection k protocol ip port) X := by
  unfold new_connection update_server
  refine ⟨triple_updateNet fun n l h => ?_⟩
  have ha : Apart k False n l := apart_of_inv h False.elim
  exact (ha.update fun _ => by simp).inv

end Servers

/-! ## Runs -/

section Run

variable {X : World → Prop}

theorem send_at_command_spec (fuel : Nat) (text : Str) :
    Preserves (Under Sound Inv)
      (do let n ← net; record (.called (.send_at_command text) n); (Call.send_at_command text).exec fuel) X := by
  let Safe (n : Net) (l : List Entry) : Prop :=
    (n.state_ = .transparent_mode → ∀ k, closingText k text = true → ¬ Connected n k) ∧ Inv n l
  have : Stable Sound Safe :=
    { move := fun n l m h => ⟨by simpa [Connected] using h.1, Still.move Sound n l m h.2⟩
      data := fun _ _ _ _ h => h
      other := fun n l c a hc hg h => ⟨h.1, Stable.other n l c a hc hg h.2⟩
      prompt := fun n l c a hc hg h => ⟨h.1, Stable.prompt n l c a hc hg h.2⟩ }
  refine ⟨triple_called (Q := Safe) (fun n l hg h => ⟨of_decide_eq_true hg, h⟩) ?_⟩
  refine Triple.bind (Q := fun _ => Under Sound Inv) ?_ fun _ => Preserves.out
  refine Triple.bind triple_net fun m => Triple.ite (fun _ => ?_) fun ht => ?_
  · exact triple_pure fun _ _ h => h.2.2
  · have ht : m.state_ = .transparent_mode := by simpa using ht
    refine Triple.bind (Q := fun _ => Under Sound Inv) ?_ fun _ => Preserves.out
    refine triple_pre (P := In (· = .transparent_mode) Safe) (fun n l h => ⟨h.1 ▸ ht, h.2⟩) ?_
    refine triple_exchange fun n l a _ h => ⟨fun _ _ => trivial, fun _ k hk => ?_⟩
    refine isOpen_exchange ?_ (h.2.2.2 trivial k hk)
    have hc := h.2.1 h.1 k
    have hk : Connected n k := hk
    simp only [closingText, decide_eq_true_eq] at hc
    simp only [closes, decide_eq_false_iff_not]
    tauto

end Run

instance (t : Taken) (h : Heard) : Preserves (Under Sound Inv) (record (.handled t h)) :=
  ⟨triple_record fun _ _ _ h => h⟩
instance (offers : List Offer) (n : Net) : Preserves (Under Sound Inv) (record (.searched offers n)) :=
  ⟨triple_record fun _ _ _ h => h⟩
instance : Preserves (Under Sound Inv) force_psm := by
  unfold force_psm
  infer_instance

theorem run_inv (fuel : Nat) (calls : List Call) : Preserves (Under Sound Inv) (run fuel calls) := by
  refine run_preserves fuel (fun c => ?_) calls
  by_cases hc : ∃ text, c = .send_at_command text
  · obtain ⟨text, rfl⟩ := hc
    exact send_at_command_spec fuel text
  · have := exec_preserves (G := Sound) (P := Inv) (X := Under Sound Inv) fuel c (fun _ _ => inferInstance)
      (fun _ _ => inferInstance) (fun _ => inferInstance) (fun text h => absurd ⟨text, h⟩ hc) fun _ _ => inferInstance
    infer_instance

theorem run_honest (config : NetworkLteConfig) (with_timer : Bool) (env : Nat → Tick) (fuel : Nat)
    (calls : List Call) :
    let w := (run fuel calls (initial config with_timer env)).2
    (∀ e ∈ w.log, Sound e) → Honest w.net w.log := by
  intro w hw
  refine ((run_inv fuel calls).final (fun _ => ⟨fun _ _ => trivial, fun _ k hk => ?_⟩) hw).2 trivial
  simp [initial, Connected] at hk

/-- A network that takes the modem in at once, and answers tick `i` with `t i`. -/
def online (t : Nat → Option Tick) : Nat → Tick := fun i =>
  (t i).getD { body := .ofView _ "+CEREG: 0,1,1,1".toList }

theorem run_honest_connected :
    let w := (run 9 [.network_connect, firstServer] (initial {} false (online fun _ => none))).2
    Connected w.net ⟨0, by decide⟩ ∧ Honest w.net w.log :=
  ⟨by decide +kernel, run_honest _ _ _ _ _ (by decide +kernel)⟩

/-- A suspended connection is closed and cannot be opened again. Or the timeout of `data_ready` shuts
the modem down. Either way the server stays connected. -/
theorem connected_while_closed :
    let suspended : Nat → Option Tick := fun i =>
      if i = 42 then some { body := .ofView _ "#SS: 1,2".toList } else if i = 44 then some { status := .at_error } else none
    let expired : Nat → Option Tick := fun i =>
      if i = 43 then some { moves := [.expire_state_timer, .callback 0] } else none
    let w := (run 9 [.network_connect, firstServer] (initial {} false (online suspended))).2
    let v := (run 9 [.network_connect, firstServer, .loop, .loop] (initial {} false (online expired))).2
    ¬ Honest w.net w.log ∧ v.net.state_ = .off_mode ∧ ¬ Honest v.net v.log := by
  decide +kernel

end LteModem.NetworkLte.Sockets
