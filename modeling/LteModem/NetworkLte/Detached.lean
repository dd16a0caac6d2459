import LteModem.NetworkLte.Frame

/-!
# No connection data while detached

`change_state` clears the servers and the IP address on entry to `network_detached` and to
`pdp_context_closed`. What fills them again runs in `data_ready`, or is on its way there.
-/

open Prog Strings

set_option synthInstance.maxSize 100000

namespace LteModem.NetworkLte.Detached

def detached (s : NetworkLteState) : Prop := s = .network_detached ∨ s = .pdp_context_closed

def Disconnected (n : Net) : Prop := ∀ k, (n.serverInfo k).state = .disconnected

def Bare (n : Net) : Prop := Disconnected n ∧ n.data.ip_address = .empty _

def Inv (n : Net) (_ : List Entry) : Prop := detached n.state_ → Bare n

def Holding (ip : FixedString MODEM_IP_STR) (n : Net) (l : List Entry) : Prop :=
  n.data.ip_address = ip ∧ Inv n l

section Steps

variable {X : World → Prop}

instance : Uncounted Inv := ⟨fun _ _ _ h => h⟩
instance : Unqueued Inv := ⟨fun _ _ _ h => h⟩
instance : Unflagged Inv := ⟨fun _ _ _ _ h => h⟩
instance : Restarting Inv := ⟨fun _ _ h => h⟩
instance : Fixless Inv := ⟨fun _ _ _ h => h⟩
instance : Untimed Inv := ⟨fun _ _ _ _ h => h⟩
instance (ip : FixedString MODEM_IP_STR) : Untimed (Holding ip) := ⟨fun _ _ _ _ h => h⟩

theorem Inv.move {n : Net} {l : List Entry} (m : Net.Move) (h : Inv n l) : Inv (n.move m) l := by
  intro hs
  rw [Net.move_state_] at hs
  exact ⟨by simpa [Disconnected] using (h hs).1, (move_same n m).ip_address.trans (h hs).2⟩

theorem Inv.data {n : Net} {l : List Entry} {d : NetData} (hd : Same n.data d) (h : Inv n l) :
    Inv { n with data := d } l :=
  fun hs => ⟨(h hs).1, hd.ip_address.trans (h hs).2⟩

instance : Free Always Inv where
  move _ _ m h := h.move m
  data _ _ _ hd h := h.data hd
  last_status _ _ _ h := h
  other _ _ _ _ _ _ h := h
  prompt _ _ _ _ _ _ h := h
  cold _ _ _ h := h
  warm _ _ _ h := h
  config _ _ _ h := h
  reset _ _ h := fun hs => ⟨fun _ => rfl, (h hs).2⟩
  action _ _ _ _ h := h
  event _ _ _ _ h := h
  urc _ _ _ _ _ _ h := h
  cfun _ _ _ _ _ _ h := h
  ran _ _ _ _ _ _ h := h
  polled _ _ _ _ h := h
  loopEnd _ _ _ _ h := h
  called _ _ _ _ _ h := h

instance : Timeless Always Inv where
  st_timer _ _ _ h := h
  timer _ _ _ h := h
  started _ _ _ _ h := h

instance (ip : FixedString MODEM_IP_STR) : Stable Always (Holding ip) where
  move n _ m h := ⟨(move_same n m).ip_address.trans h.1, h.2.move m⟩
  data _ _ _ hd h := ⟨hd.ip_address.trans h.1, h.2.data hd⟩
  other _ _ _ _ _ _ h := h
  prompt _ _ _ _ _ _ h := h

/-! ## change_state -/

theorem inv_elsewhere {s : NetworkLteState} (hs : ¬ detached s) {n : Net} {l : List Entry}
    (h : In (· = s) Whatever n l) : Inv n l :=
  fun hd => absurd (h.1 ▸ hd) hs

theorem not_detached_data_ready : ¬ detached .data_ready := by
  unfold detached
  decide

theorem clear_spec {s : NetworkLteState} {f : NetData → NetData} (hf : ∀ d, (f d).ip_address = .empty _)
    (a : ModemAction) :
    Triple (Under Always (In (· = s) Whatever)) (do updateData f; reset_servers; call_action a)
      (fun _ => Under Always Inv) X := by
  refine Triple.bind (Q := fun _ => Under Always fun n _ => n.data.ip_address = .empty _)
    (triple_updateNet fun n _ _ => hf n.data) fun _ => ?_
  refine Triple.bind (Q := fun _ => Under Always Inv) (triple_updateNet ?_) fun _ => Preserves.out
  exact fun n l h _ => ⟨fun _ => rfl, h⟩

theorem enter_state_spec (s : NetworkLteState) :
    Triple (Under Always (In (· = s) Whatever)) (enter_state s) (fun _ => Under Always Inv) X := by
  refine Triple.bind (Preserves.out (m := Prog.when _ _)) fun _ => ?_
  refine Triple.bind (Preserves.out (m := enter_timer s)) fun _ => ?_
  refine Triple.ite (fun _ => clear_spec (fun _ => rfl) _) fun hd => ?_
  refine Triple.ite (fun _ => clear_spec (fun _ => rfl) _) fun hp => ?_
  exact triple_pure fun n l h => inv_elsewhere (not_or.mpr ⟨hd, hp⟩) h

/-- A change of the state that need not find the invariant, where the state really changes. -/
theorem change_state_spec {P : Net → List Entry → Prop} [Stable Always P] [Untimed P] (s : NetworkLteState)
    (same : ∀ n l, P n l → n.state_ = s → Inv n l) :
    Triple (Under Always P) (change_state s) (fun _ => Under Always Inv) X := by
  refine triple_change_state (A := fun _ => In (· = s) Whatever) (B := In (· = s) Whatever)
    (C := In (· = s) Whatever) same ?_ ?_ ?_ (enter_state_spec s)
  · exact fun _ _ _ _ => ⟨rfl, trivial⟩
  · exact fun _ _ => Preserves.out
  · exact fun _ _ _ h => h

instance (s : NetworkLteState) : Preserves (Under Always Inv) (change_state s) X :=
  ⟨change_state_spec s fun _ _ h _ => h⟩

/-! ## The writers of the connection data -/

theorem get_ip_address_failed {a : Answer} {ip : FixedString MODEM_IP_STR}
    (h : (Replies.get_ip_address a ip).1 ≠ .ok) : (Replies.get_ip_address a ip).2 = ip := by
  unfold Replies.get_ip_address at h ⊢
  split_ifs at h ⊢
  · rfl
  · revert h
    split
    · simp
    · split_ifs <;> simp

/-- The address is only written on the way to `data_ready`. -/
instance : Preserves (Under Always Inv) query_pdp_context X := by
  refine ⟨Triple.bind triple_net fun n => ?_⟩
  refine triple_pre (P := Holding n.data.ip_address) (fun m l h => ⟨h.1 ▸ rfl, h.2⟩) ?_
  refine Triple.bind (Preserves.out (m := xE310.get_pdp_state _ _)) fun pdp => ?_
  refine Triple.ite (fun _ => triple_pure fun _ _ h => h.2) fun _ => Triple.ite (fun _ => ?_) fun _ => ?_
  · exact triple_pre (fun _ _ h => h.2) Preserves.out
  · refine Triple.bind (triple_ask (R := fun ip m l => Holding n.data.ip_address m l ∧
      (ip.1 ≠ .ok → ip.2 = n.data.ip_address)) ?_) fun ip => ?_
    · exact fun m l a _ h => ⟨h, get_ip_address_failed⟩
    · refine Triple.bind (Q := fun _ => Under Always fun m l => ip.1 ≠ .ok → Inv m l) (triple_updateNet ?_)
        fun _ => Triple.ite (fun hip => triple_pure fun _ _ h => h hip) fun _ => ?_
      · exact fun m l h hip hs => ⟨(h.1.2 hs).1, (h.2 hip).trans (h.1.1.symm.trans (h.1.2 hs).2)⟩
      · refine triple_pre (P := Whatever) (fun _ _ _ => trivial) ?_
        refine Triple.bind (change_state_spec .data_ready ?_) fun _ => Preserves.out
        exact fun m l _ hs => inv_elsewhere not_detached_data_ready ⟨hs, trivial⟩

/-- The servers are only written in `data_ready`. -/
instance (k : Conn) (protocol ip : Str) (port : Nat) :
    Preserves (Under Always Inv) (server_connect k protocol ip port) X := by
  refine ⟨Triple.bind triple_net fun n => Triple.ite (fun _ => triple_pure fun _ _ h => h.2) fun _ => ?_⟩
  refine Triple.ite (fun hs => ?_) fun _ => triple_pure fun _ _ h => h.2
  refine triple_pre (P := In (· = .data_ready) Whatever) (fun m l h => ⟨h.1 ▸ hs, trivial⟩) ?_
  refine triple_post (fun _ _ _ h => inv_elsewhere not_detached_data_ready h) ?_
  unfold xE310.udp_status
  exact Preserves.out

instance (cmd : AtCmd) : Preserves (Under Always Inv) (exchange cmd) X := exchange_preserves fun _ _ _ _ h => h

theorem disconnect_inv {n : Net} {l : List Entry} (k : Conn) (h : Inv n l) {s : ServerInfo}
    (hs : s.state = .disconnected) :
    Inv { n with serverInfo := Function.update n.serverInfo k s } l := by
  refine fun hd => ⟨fun j => ?_, (h hd).2⟩
  by_cases hj : j = k
  · subst hj
    simpa using hs
  · simpa [Function.update_of_ne hj] using (h hd).1 j

instance (k : Conn) (protocol ip port : Str) :
    Preserves (Under Always Inv) (new_connection k protocol ip port) X := by
  unfold new_connection update_server
  exact ⟨triple_updateNet fun _ _ h => disconnect_inv k h rfl⟩

instance (k : Conn) : Preserves (Under Always Inv) (server_disconnect k) X := by
  have : Preserves (Under Always Inv) (update_server k ({ · with state := .disconnected })) X :=
    ⟨triple_updateNet fun _ _ h => disconnect_inv k h rfl⟩
  unfold server_disconnect
  infer_instance

/-! ## Runs -/

instance (t : Taken) (h : Heard) : Preserves (Under Always Inv) (record (.handled t h)) X :=
  ⟨triple_record fun _ _ _ h => h⟩
instance (offers : List Offer) (n : Net) : Preserves (Under Always Inv) (record (.searched offers n)) X :=
  ⟨triple_record fun _ _ _ h => h⟩
instance : Preserves (Under Always Inv) force_psm X := by
  unfold force_psm
  infer_instance

end Steps

theorem run_inv (fuel : Nat) (calls : List Call) : Preserves (Under Always Inv) (run fuel calls) := by
  refine run_preserves fuel (fun c => ?_) calls
  have := exec_preserves (G := Always) (P := Inv) (X := Under Always Inv) fuel c (fun _ _ => inferInstance)
    (fun _ _ => inferInstance) (fun _ => inferInstance) (fun _ _ => inferInstance) fun _ _ => inferInstance
  infer_instance

/-- Also where a call does not return: every loop that need not end can be cut off after any round. -/
theorem detached_is_bare (config : NetworkLteConfig) (with_timer : Bool) (env : Nat → Tick) (fuel : Nat)
    (calls : List Call) :
    let n := (run fuel calls (initial config with_timer env)).2.net
    n.state_ = .network_detached ∨ n.state_ = .pdp_context_closed →
      (∀ k, (n.serverInfo k).state = .disconnected) ∧ n.data.ip_address = .empty _ := by
  exact (run_inv fuel calls).final (fun _ hs => ⟨fun _ => rfl, rfl⟩) fun _ _ => trivial

/-- A network that gives out an address and detaches the modem at tick 43. -/
def detaching : Nat → Tick := fun i =>
  { body := .ofView _ "+CGACT: 1,1\n+CEREG: 0,1,1,1 \"10.0.0.2\"".toList
    urcs := if i = 43 then ["+CGEV: NW_DETACH".toList] else [] }

theorem detached_is_bare_after_data :
    let calls : List Call :=
      [.network_connect, .server_connect ⟨0, by decide⟩ "UDP".toList "10.0.0.1".toList 7000]
    let n := (run 9 calls (initial {} false detaching)).2.net
    let m := (run 9 (calls ++ [.loop .network_detached]) (initial {} false detaching)).2.net
    ((n.serverInfo ⟨0, by decide⟩).state = .connected ∧ n.data.ip_address.view = "10.0.0.2".toList) ∧
      m.state_ = .network_detached ∧
      (∀ k, (m.serverInfo k).state = .disconnected) ∧ m.data.ip_address = .empty _ :=
  ⟨by decide +kernel, by decide +kernel, detached_is_bare _ _ _ _ _ (.inl (by decide +kernel))⟩

end LteModem.NetworkLte.Detached
