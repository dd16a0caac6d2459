import LteModem.NetworkLte.Machine

/-!
# Worlds that look alike

Once `loop` has taken the event, what becomes of the state and of the pending action depends on the
machine without its timers and its event, and on what the modem still answers. Two worlds that agree in
this much stay so.
-/

open Prog Strings

set_option synthInstance.maxSize 100000

namespace LteModem

namespace Net

/-- The machine without what the timer thread touches, the times, the trace and the status of the last command. -/
def bare (n : Net) : Net :=
  { n with
    event_ := .none
    event_visit := 0
    last_status_ := .ok
    st_timer := {}
    timer_ := none
    callbacks := []
    data := { n.data with stateTimers_ := {}, trace_buffer_ := [], timing := {} } }

/-- The machines differ in that only. -/
def Like (n m : Net) : Prop := n.bare = m.bare

/-- A change that can be made to the bare machine. -/
def Plain (f : Net → Net) : Prop := ∀ n, (f n).bare = (f n.bare).bare

variable {n m : Net}

theorem Like.eq {α : Type} {f : Net → α} (hf : ∀ n, f n = f n.bare) (h : n.Like m) : f n = f m := by
  have hb : n.bare = m.bare := h
  rw [hf n, hf m, hb]

theorem Like.state_ (h : n.Like m) : n.state_ = m.state_ := h.eq (f := Net.state_) fun _ => rfl

theorem Like.modem_action_ (h : n.Like m) : n.modem_action_ = m.modem_action_ :=
  h.eq (f := Net.modem_action_) fun _ => rfl

theorem Like.map {f : Net → Net} (hf : Plain f) (h : n.Like m) : (f n).Like (f m) := by
  have hb : n.bare = m.bare := h
  unfold Like
  rw [hf n, hf m, hb]

theorem on_event_bare (e : NetworkLteEvent) (n : Net) : (n.on_event e).bare = n.bare := by
  unfold bare Net.on_event
  dsimp only
  split <;> rfl

theorem move_bare (n : Net) (v : Net.Move) : (n.move v).bare = n.bare := by
  unfold Net.move
  cases v with
  | expire_state_timer => rfl
  | expire_timer =>
    dsimp only
    split <;> rfl
  | callback i =>
    dsimp only
    split
    · rfl
    · exact on_event_bare .timeout n

theorem moves_bare (vs : List Net.Move) (n : Net) : (vs.foldl Net.move n).bare = n.bare :=
  moves_keep move_bare vs n

end Net

namespace NetworkLte

/-- What the modem says in a tick, and the value of the uninitialised variable. -/
def Tick.said (t : Tick) : Answer × RadioTech := (t.answer, t.tech)

/-- The machines are alike, and the modem will say the same. -/
structure Alike (w v : World) : Prop where
  net : w.net.Like v.net
  said : ∀ j, (w.env (w.clock + j)).said = (v.env (v.clock + j)).said

section Steps

variable {w v : World} {α : Type}

theorem Alike.tick (h : Alike w v) : Alike (tick w).2 (tick v).2 := by
  refine ⟨?_, fun j => ?_⟩
  · exact (Net.moves_bare _ _).trans (h.net.trans (Net.moves_bare _ _).symm)
  · have hj := h.said (1 + j)
    rw [← Nat.add_assoc, ← Nat.add_assoc] at hj
    exact hj

theorem agree_record (e e' : Entry) : Agree Alike (record e) (record e') :=
  fun _ _ h => ⟨rfl, h.net, h.said⟩

instance (e : Entry) : Respects Alike (record e) := ⟨agree_record e e⟩

theorem updateNet_respects {f : Net → Net} (hf : Net.Plain f) : Respects Alike (updateNet f) :=
  ⟨fun _ _ h => ⟨rfl, h.net.map hf, h.said⟩⟩

theorem updateData_respects {f : NetData → NetData} (hf : Net.Plain fun n => { n with data := f n.data }) :
    Respects Alike (updateData f) :=
  updateNet_respects hf

theorem net_respects {f : Net → Prog World α} (hf : ∀ n, f n = f n.bare) (h : ∀ n, Respects Alike (f n)) :
    Respects Alike (net >>= f) :=
  ⟨Agree.gets fun w _ hw => hw.net.eq hf ▸ (h w.net).out⟩

theorem net_recorded {e : Net → Entry} {m : Prog World α} (h : Respects Alike m) :
    Respects Alike (net >>= fun n => record (e n) >>= fun _ => m) :=
  ⟨Agree.gets fun _ _ _ => Agree.bind (agree_record _ _) fun _ => h.out⟩

instance (a : ModemAction) : Respects Alike (call_action a) := updateNet_respects fun _ => rfl

instance (s : ModemStatus) : Respects Alike (set_last_status s) := updateNet_respects fun _ => rfl

instance (b : Bool) : Respects Alike (set_fColdBoot b) := updateNet_respects fun _ => rfl

instance (b : Bool) : Respects Alike (set_fWarmBoot b) := updateNet_respects fun _ => rfl

instance : Respects Alike reset_servers := updateNet_respects fun _ => rfl

instance : Respects Alike get_action :=
  ⟨fun _ _ h => ⟨congrArg some h.net.modem_action_,
    h.net.map (f := fun n => { n with modem_action_ := .none }) fun _ => rfl, h.said⟩⟩

theorem answer_eq (h : Alike w v) : (w.env w.clock).answer = (v.env v.clock).answer := by
  have hs : (w.env w.clock).said = (v.env v.clock).said := h.said 0
  simp only [Tick.said, Prod.mk.injEq] at hs
  exact hs.1

instance (cmd : AtCmd) : Respects Alike (exchange cmd) :=
  ⟨fun _ _ h => ⟨congrArg some (answer_eq h), h.tick.net, h.tick.said⟩⟩

instance (cmd : AtCmd) : Respects Alike (exchange_with_prompt cmd) :=
  ⟨fun _ _ h => ⟨congrArg some (answer_eq h), h.tick.net, h.tick.said⟩⟩

instance (cmd : AtCmd) : Respects Alike (xE310.send cmd) := by unfold xE310.send; infer_instance

instance {β : Type} (c : Command) (parse : Answer → β) : Respects Alike (xE310.ask c parse) := by
  unfold xE310.ask; infer_instance

instance : Respects Alike xE310.get_iot_tech := by
  refine ⟨fun w v h => ?_⟩
  have hs : (w.env w.clock).said = (v.env v.clock).said := h.said 0
  simp only [Tick.said, Prod.mk.injEq] at hs
  have ha := (inferInstance : Respects Alike (xE310.ask .get_iot_tech
    (Replies.get_iot_tech · (w.env w.clock).tech))).out (tick w).2 (tick v).2 h.tick
  change (xE310.ask _ _ (tick w).2).1 = (xE310.ask .get_iot_tech
    (Replies.get_iot_tech · (v.env v.clock).tech) (tick v).2).1 ∧ _
  rw [← hs.2]
  exact ha

instance (e : NetworkLteEvent) : Respects Alike (on_event e) := by
  refine ⟨fun w v h => ⟨rfl, ?_, h.tick.said⟩⟩
  exact (Net.on_event_bare e _).trans (h.tick.net.trans (Net.on_event_bare e _).symm)

end Steps

/-! ## The functions of the machine -/

instance (s : NetworkLteState) : Respects Alike (set_state s) :=
  ⟨fun _ _ h => ⟨rfl, h.tick.net.map (f := Net.enter s) fun _ => rfl, h.tick.said⟩⟩

theorem leave_state_bare {prev : NetworkLteState} (hp : prev.timed = true) (w : World) :
    (leave_state prev w).2.net.bare = (tick w).2.net.bare := by
  unfold leave_state
  rw [if_pos hp]
  exact Net.moves_bare _ _

instance (prev : NetworkLteState) : Respects Alike (leave_state prev) := by
  by_cases hp : prev.timed = true
  · refine ⟨fun w v h => ?_⟩
    have hn : (leave_state prev w).2.net.Like (leave_state prev v).2.net :=
      (leave_state_bare hp w).trans (h.tick.net.trans (leave_state_bare hp v).symm)
    unfold leave_state at hn ⊢
    rw [if_pos hp] at hn ⊢
    exact ⟨rfl, hn, h.tick.tick.said⟩
  · unfold leave_state
    rw [if_neg hp]
    infer_instance

instance (s : NetworkLteState) : Respects Alike (enter_timer s) := by
  refine net_respects (fun _ => rfl) fun n => ?_
  split
  · infer_instance
  · exact ⟨fun _ _ h => ⟨rfl, h.tick.net, h.tick.said⟩⟩

instance : Respects Alike refresh_info := by
  have (clock : FixedString MODEM_SHORT_STR) (sq : SignalQuality) (oper apn : FixedString MODEM_MEDIUM_STR) :
      Respects Alike (updateData fun d =>
        { d with
          modemClock := clock
          signalQuality := sq
          regInfo := { d.regInfo with operator_name := oper, apn := apn } }) :=
    updateData_respects fun _ => rfl
  exact net_respects (fun _ => rfl) fun _ => inferInstance

instance (s : NetworkLteState) : Respects Alike (enter_state s) := by
  have : Respects Alike (updateData fun d => { d with ip_address := .empty _, context_state := .inactive }) :=
    updateData_respects fun _ => rfl
  have : Respects Alike (updateData fun d => { d with ip_address := .empty _ }) :=
    updateData_respects fun _ => rfl
  unfold enter_state
  infer_instance

instance (s : NetworkLteState) : Respects Alike (change_state s) := by
  refine net_respects (fun _ => rfl) fun n => ?_
  have : Respects Alike (net >>= fun m => record (.left m) >>= fun _ => enter_state s) := net_recorded inferInstance
  infer_instance

/-! ## The actions -/

instance (status : ModemStatus) : Respects Alike (check_status_response status) := by
  unfold check_status_response; infer_instance

instance : Respects Alike reboot := by unfold reboot; infer_instance

instance (fuel : Nat) : Respects Alike (check_responsiveness fuel) := by
  induction fuel with
  | zero => unfold check_responsiveness; infer_instance
  | succ fuel ih => unfold check_responsiveness; infer_instance

instance : Respects Alike power_on := by
  have : Respects Alike (updateData fun d => { d with nNetworkAttempts := 0 }) := updateData_respects fun _ => rfl
  unfold power_on
  infer_instance

instance : Respects Alike power_off := by unfold power_off; infer_instance

instance : Respects Alike turn_on_radio := by unfold turn_on_radio; infer_instance

instance : Respects Alike xE310.shutdown := by unfold xE310.shutdown; infer_instance

instance : Respects Alike switch_off_radio := net_respects (fun _ => rfl) fun _ => inferInstance

instance : Respects Alike enter_sleep_action := by unfold enter_sleep_action; infer_instance

instance : Respects Alike wake_up := net_respects (fun _ => rfl) fun _ => inferInstance

instance (b : Bool) : Respects Alike (set_urcs b) := by unfold set_urcs; infer_instance

instance (tech : RadioTech) : Respects Alike (xE310.set_iot_tech tech) := by
  unfold xE310.set_iot_tech; infer_instance

instance (n : Net) : Respects Alike (set_changed_bands n) := by
  have : Respects Alike (updateData fun d => { d with fChangeBands := false }) := updateData_respects fun _ => rfl
  unfold set_changed_bands
  infer_instance

instance (n : Net) : Respects Alike (set_changed_rat n) := by
  have : Respects Alike (updateData fun d => { d with fChangeRAT := false }) := updateData_respects fun _ => rfl
  unfold set_changed_rat
  infer_instance

instance (c : NetworkLteConfig) : Respects Alike (apply_boot_configuration c) := by
  unfold apply_boot_configuration; infer_instance

instance : Respects Alike setup_radio := net_respects (fun _ => rfl) fun _ => inferInstance

instance : Respects Alike query_network_status := by
  have (r : RegistrationInfo) : Respects Alike (updateData fun d => { d with regInfo := r }) :=
    updateData_respects fun _ => rfl
  exact net_respects (fun _ => rfl) fun _ => inferInstance

instance (cid : Nat) (apn : FixedString MODEM_MEDIUM_STR) (tech : RadioTech) (bands : Nat) :
    Respects Alike (check_attach cid apn tech bands) := by
  have (apn : FixedString MODEM_MEDIUM_STR) :
      Respects Alike (updateData fun d => { d with regInfo := { d.regInfo with apn := apn } }) :=
    updateData_respects fun _ => rfl
  have : Respects Alike (updateData fun d => { d with fChangeRAT := true }) := updateData_respects fun _ => rfl
  have : Respects Alike (updateData fun d => { d with fChangeBands := true }) := updateData_respects fun _ => rfl
  exact net_respects (fun _ => rfl) fun _ => inferInstance

instance : Respects Alike count_attach := updateData_respects fun _ => rfl

instance : Respects Alike start_attach := net_respects (fun _ => rfl) fun _ => inferInstance

instance : Respects Alike attach_network := by
  refine ⟨Agree.bind Respects.out fun _ => ?_⟩
  exact (net_respects (fun _ => rfl) fun _ => inferInstance).out

instance : Respects Alike query_pdp_context := by
  have (ip : FixedString MODEM_IP_STR) : Respects Alike (updateData fun d => { d with ip_address := ip }) :=
    updateData_respects fun _ => rfl
  exact net_respects (fun _ => rfl) fun _ => inferInstance

instance : Respects Alike open_pdp_context := net_respects (fun _ => rfl) fun _ => inferInstance

instance : Respects Alike tx_pop_next := by
  have (tx : Lane) :
      Respects Alike (updateData fun d => { d with message_queue_ := { d.message_queue_ with tx } }) :=
    updateData_respects fun _ => rfl
  exact net_respects (fun _ => rfl) fun _ => inferInstance

instance (k : Conn) (data : Str) : Respects Alike (xE310.udp_send k data) := by
  unfold xE310.udp_send; infer_instance

instance (msg : QueueMessage) : Respects Alike (send_message msg) := by
  refine net_respects (fun _ => rfl) fun _ => ?_
  split <;> infer_instance

instance (count : Nat) : Respects Alike (send_messages count) := by
  induction count with
  | zero => unfold send_messages; infer_instance
  | succ count ih =>
    unfold send_messages
    refine ⟨Agree.bind Respects.out fun msg => ?_⟩
    cases msg <;> exact Respects.out

instance : Respects Alike send_data := net_respects (fun _ => rfl) fun _ => inferInstance

instance : Respects Alike read_data := net_respects (fun _ => rfl) fun _ => inferInstance

instance : Respects Alike enter_transparent_mode_action := by
  unfold enter_transparent_mode_action; infer_instance

instance : Respects Alike leave_transparent_mode_action := by
  unfold leave_transparent_mode_action; infer_instance

instance (enable : Bool) : Respects Alike (xE310.set_gnss_power enable) := by
  unfold xE310.set_gnss_power; infer_instance

instance (powered : Bool) : Respects Alike (switch_on_gnss powered) := by
  unfold switch_on_gnss; infer_instance

instance : Respects Alike enter_gnss_fix := by unfold enter_gnss_fix; infer_instance

instance : Respects Alike leave_gnss_fix := by unfold leave_gnss_fix; infer_instance

instance (fuel : Nat) (a : ModemAction) : Respects Alike (perform fuel a) := by
  cases a <;> (unfold perform; infer_instance)

instance (fuel : Nat) : Respects Alike (execute_actions fuel) := by
  refine ⟨Agree.bind Respects.out fun a => Agree.gets fun w v h => Agree.bind Respects.out fun heard => ?_⟩
  exact agree_record _ _

instance : Respects Alike end_loop := by
  refine ⟨fun w v h => ⟨?_, h.tick.net, h.tick.said⟩⟩
  exact congrArg some h.tick.net.state_

/-! ## The events and the rest of a loop -/

instance : Respects Alike receive_data := by
  have (conn : Nat) (data : Str) : Respects Alike (updateData fun d =>
      { d with message_queue_ :=
        { d.message_queue_ with rx := (d.message_queue_.rx.push_to DEFAULT_CAPACITY conn data).2 } }) :=
    updateData_respects fun _ => rfl
  exact net_respects (fun _ => rfl) fun _ => inferInstance

instance : Respects Alike take_fix := by
  have (pos : GnssPosition) : Respects Alike (updateData fun d => { d with gnssPosition := pos }) :=
    updateData_respects fun _ => rfl
  unfold take_fix
  infer_instance

instance : Respects Alike on_timeout := net_respects (fun _ => rfl) fun _ => inferInstance

instance : Respects Alike on_detached :=
  ⟨Agree.bind Respects.out fun _ => (net_respects (fun _ => rfl) fun _ => inferInstance).out⟩

instance (e : NetworkLteEvent) : Respects Alike (handle_event e) := by
  cases e with
  | psm_exit => exact net_respects (fun _ => rfl) fun _ => inferInstance
  | _ => unfold handle_event; infer_instance

/-- The handling of the event. -/
def take_event (t : Taken) : Prog World Unit := do
  let h ← handle_event t.event
  record (.handled t h)

theorem take_event_agree {t t' : Taken} (h : t.event = t'.event) : Agree Alike (take_event t) (take_event t') := by
  unfold take_event
  rw [h]
  exact Agree.bind Respects.out fun _ => agree_record _ _

/-- `loop` after it has handled the event. -/
def finish_loop (fuel : Nat) (target_state : NetworkLteState) : Prog World NetworkLteState := do
  let n ← net
  if n.state_ = target_state ∧ target_state ≠ .none then end_loop
  else do
    execute_actions fuel
    end_loop

instance (fuel : Nat) (target_state : NetworkLteState) : Respects Alike (finish_loop fuel target_state) :=
  net_respects (fun _ => rfl) fun _ => inferInstance

theorem loop_eq (fuel : Nat) (target_state : NetworkLteState) :
    loop fuel target_state =
      (do poll_urc; check_last_status; process_event; finish_loop fuel target_state) := rfl

end NetworkLte

end LteModem
