import LteModem.NetworkLte.Urcs

/-!
# The power of the receiver

`enter_gnss_fix` switches the receiver on and only `leave_gnss_fix` switches it off. Every other way out of
`gnss_fix_mode`, and every step that replaces a pending `leave_gnss_fix`, leaves the receiver on.
-/

open Prog Strings

set_option synthInstance.maxSize 100000

namespace LteModem.NetworkLte.GnssPower

/-- A successful `AT$GPSP`. -/
def switches : Entry → Option Bool
  | .exchange (.other (.set_gnss_power on)) a => if a.status = .ok then some on else none
  | _ => none

/-- The last successful `AT$GPSP` was the one of `enter_gnss_fix`. -/
def powered : List Entry → Bool
  | [] => false
  | e :: l => (switches e).getD (powered l)

def moved : Entry → Option NetworkLteState
  | .left n => some n.state_
  | _ => none

/-- The state, as the log has it. -/
def lastState : List Entry → NetworkLteState
  | [] => .switched_off
  | e :: l => (moved e).getD (lastState l)

/-! ## Harmless steps -/

/-- The event neither ends the fix mode nor replaces a pending `leave_gnss_fix`; `n` is the machine that
handles it. -/
def keeps (e : NetworkLteEvent) (n : Net) : Bool :=
  match e with
  | .psm_enter | .psm_exit | .context_opened => n.modem_action_ = .leave_gnss_fix
  | .network_attached => n.state_ = .pdp_context_closed
  | .context_closed => n.state_ = .network_detached
  | .network_detached =>
    n.state_ = .switched_off ∨ n.state_ = .off_mode ∨ n.state_ = .sleep_mode ∨ n.state_ = .network_detached
  | .timeout => n.state_ = .gnss_fix_mode ∨ n.state_ = .data_ready ∧ n.lteConfig.data_ready_timeout_sec = 0
  | .attach_error | .at_command_no_response => n.state_ = .gnss_fix_mode
  | _ => true

/-- Nor does the action, which the machine `n` ran with this outcome. -/
@[simp] def stays (a : ModemAction) (n : Net) (h : Heard) : Bool :=
  match a with
  | .none | .factory_reset | .data_complete | .enter_sleep | .send_data | .read_data | .enter_gnss_fix
  | .leave_gnss_fix => true
  | .switch_off_radio => !n.lteConfig.fCfunSleep
  | .setup_radio => n.data.fChangeBands || n.data.fChangeRAT
  | .query_network_status =>
    match h with
    | .registration s stat =>
      s ≠ .ok ∨ ¬ (stat = .denied ∨ stat = .not_registered ∨ stat = .searching ∨ stat = .unknown)
    | _ => false
  | .query_pdp_context =>
    match h with
    | .pdp s active ip => s ≠ .ok ∨ active = true ∧ ip ≠ .ok
    | _ => false
  | .attach_network => h ≠ .attach false
  | .open_pdp_context | .reboot => h ≠ .status .ok
  | _ => false

/-- The first thing that the call does is to call for another action. -/
def overrides (c : Call) (s : NetworkLteState) : Bool :=
  match c with
  | .network_connect => s ≠ .transparent_mode && s ≠ .modem_fota && s ≠ .done && s ≠ .data_ready &&
      (towards .data_ready s).isSome
  | .enter_transparent_mode =>
    s ≠ .transparent_mode && s ≠ .modem_fota && s ≠ .done && (towards .transparent_mode s).isSome
  | .acquire_gnss_position => s ≠ .modem_fota && s ≠ .done && (towards .gnss_fix_mode s).isSome
  | .exit_transparent_mode | .leave_transparent_mode => s = .transparent_mode
  | _ => false

/-- A step after the log `l`. -/
def harmless (l : List Entry) : Entry → Bool
  | .exchange (.other (.set_gnss_power false)) a => a.status = .ok
  | .exchange (.other .network_detach) a =>
    match l with
    | .called .network_disconnect n :: _ => a.status ≠ .ok ∨ n.state_ = .network_detached
    | _ => true
  | .polled urcs => lastState l = .gnss_fix_mode ∨ ∀ urc ∈ urcs, readUrc urc ≠ .registered
  | .handled t _ => keeps t.event t.after
  | .ran a n h => stays a n h
  | .called c n =>
    n.state_ = .gnss_fix_mode ||
      match c with
      | .call_action a => a = .leave_gnss_fix
      | _ => !overrides c n.state_
  | _ => true

/-- Every step that finds the receiver on is harmless. -/
def Quiet : List Entry → Prop
  | [] => True
  | e :: l => (powered l = true → harmless l e = true) ∧ Quiet l

instance : DecidablePred Quiet := fun l => by
  induction l with
  | nil => exact isTrue trivial
  | cons e l ih => unfold Quiet; infer_instance

/-! ## What is known along a run -/

/-- What `F` says about the receiver, the state and the pending action, as long as the steps are harmless. -/
def Sure (F : Bool → NetworkLteState → ModemAction → Prop) (n : Net) (l : List Entry) : Prop :=
  n.state_ = lastState l ∧ (Quiet l → F (powered l) n.state_ n.modem_action_)

/-- The receiver is off. -/
def off (p : Bool) (_ : NetworkLteState) (_ : ModemAction) : Prop := p = false

def on (p : Bool) (_ : NetworkLteState) (_ : ModemAction) : Prop := p = true

/-- It is on, in the fix mode. -/
def fixing (p : Bool) (s : NetworkLteState) (_ : ModemAction) : Prop := p = true ∧ s = .gnss_fix_mode

/-- It is on and the machine is elsewhere, in one of these states, with the way to switch it off pending. -/
def leaving (S : NetworkLteState → Prop) (p : Bool) (s : NetworkLteState) (a : ModemAction) : Prop :=
  p = true ∧ s ≠ .gnss_fix_mode ∧ S s ∧ a = .leave_gnss_fix

def balanced (S : NetworkLteState → Prop) (p : Bool) (s : NetworkLteState) (a : ModemAction) : Prop :=
  off p s a ∨ fixing p s a ∨ leaving S p s a

abbrev anywhere (_ : NetworkLteState) : Prop := True

variable {F F' : Bool → NetworkLteState → ModemAction → Prop} {S : NetworkLteState → Prop} {G : Entry → Prop}
variable {X : World → Prop}

theorem Sure.mono {n : Net} {l : List Entry} (h : Sure F n l) (hf : ∀ p s a, F p s a → F' p s a) : Sure F' n l :=
  ⟨h.1, fun hq => hf _ _ _ (h.2 hq)⟩

theorem Sure.note {n : Net} {l : List Entry} {e : Entry} (h : Sure F n l) (hs : switches e = none)
    (hm : moved e = none) : Sure F n (e :: l) := by
  unfold Sure powered lastState
  rw [hs, hm]
  exact ⟨h.1, fun hq => h.2 hq.2⟩

theorem Sure.keep {n m : Net} {l : List Entry} (h : Sure F n l) (hs : m.state_ = n.state_)
    (ha : m.modem_action_ = n.modem_action_) : Sure F m l := by
  unfold Sure
  rw [hs, ha]
  exact h

theorem Sure.harmful {n : Net} {l : List Entry} {e : Entry} (h : Sure on n l) (hm : moved e = none)
    (he : harmless l e = false) : Sure F n (e :: l) := by
  refine ⟨?_, fun hq => ?_⟩
  · unfold lastState
    rw [hm]
    exact h.1
  · have hk := hq.1 (h.2 hq.2)
    rw [he] at hk
    cases hk

section Steps

instance : Blind (Sure F) := ⟨fun _ _ _ h => h.keep rfl rfl⟩

instance : Still G (Sure F) where
  move n _ m h := h.keep (n.move_state_ m) (n.move_modem_action_ m)
  data _ _ _ _ h := h.keep rfl rfl

theorem exchange_sure {cmd : AtCmd} (hc : ∀ a, switches (.exchange cmd a) = none) :
    Preserves (Under G (Sure F)) (exchange cmd) X :=
  exchange_preserves fun _ _ a _ h => (h.keep rfl rfl).note (hc a) rfl

theorem switches_plain {c : Command} (hc : plain c = true) (a : Answer) :
    switches (.exchange (.other c) a) = none := by
  cases c <;> first | rfl | cases hc

instance : Stable G (Sure F) where
  other _ _ _ a hc _ h := (h.keep rfl rfl).note (switches_plain hc a) rfl
  prompt _ _ _ a hc _ h := h.note (switches_plain hc a) rfl

instance : Timeless G (Sure F) where
  st_timer _ _ _ h := h.keep rfl rfl
  timer _ _ _ h := h.keep rfl rfl
  started _ _ _ _ h := h.note rfl rfl

instance (e : NetworkLteEvent) : Preserves (Under G (Sure F)) (on_event e) X := by
  have : Preserves (Under G (Sure F)) (updateNet (Net.on_event e)) X := ⟨triple_updateNet fun _ _ h => h.keep rfl rfl⟩
  unfold on_event
  infer_instance

instance (c : NetworkLteConfig) : Preserves (Under G (Sure F)) (set_lteConfig c) X :=
  ⟨triple_updateNet fun _ _ h => h.keep rfl rfl⟩
instance (b : Bool) : Preserves (Under G (Sure F)) (set_fColdBoot b) X :=
  ⟨triple_updateNet fun _ _ h => h.keep rfl rfl⟩
instance (b : Bool) : Preserves (Under G (Sure F)) (set_fWarmBoot b) X :=
  ⟨triple_updateNet fun _ _ h => h.keep rfl rfl⟩
instance (s : ModemStatus) : Preserves (Under G (Sure F)) (set_last_status s) X :=
  ⟨triple_updateNet fun _ _ h => h.keep rfl rfl⟩
instance : Preserves (Under G (Sure F)) reset_servers X := ⟨triple_updateNet fun _ _ h => h.keep rfl rfl⟩
instance (k : Conn) (f : ServerInfo → ServerInfo) : Preserves (Under G (Sure F)) (update_server k f) X :=
  ⟨triple_updateNet fun _ _ h => h.keep rfl rfl⟩

instance : Preserves (Under G (Sure F)) (exchange .reboot) X := exchange_sure fun _ => rfl
instance (i : Nat) : Preserves (Under G (Sure F)) (exchange (.cfun i)) X := exchange_sure fun _ => rfl
instance (s : Subscription) (b : Bool) : Preserves (Under G (Sure F)) (exchange (.urc s b)) X :=
  exchange_sure fun _ => rfl
instance (conn_id : Nat) : Preserves (Under G (Sure F)) (exchange (.udp_status conn_id)) X := exchange_sure fun _ => rfl
instance (conn_id : Nat) (host : Str) (r p : Nat) :
    Preserves (Under G (Sure F)) (exchange (.udp_open conn_id host r p)) X := exchange_sure fun _ => rfl
instance (conn_id : Nat) : Preserves (Under G (Sure F)) (exchange (.udp_close conn_id)) X := exchange_sure fun _ => rfl
instance (command : Str) : Preserves (Under G (Sure F)) (exchange (.raw command)) X := exchange_sure fun _ => rfl
instance (conn_id size : Nat) : Preserves (Under G (Sure F)) (exchange (.other (.udp_receive conn_id size))) X :=
  exchange_sure fun _ => rfl
instance : Preserves (Under G (Sure F)) (exchange (.other .get_gnss_position)) X := exchange_sure fun _ => rfl

instance (offers : List Offer) (n : Net) : Preserves (Under G (Sure F)) (record (.searched offers n)) X :=
  ⟨triple_record fun _ _ _ h => h.note rfl rfl⟩
instance (opened : Option ModemStatus) : Preserves (Under G (Sure F)) (record (.resumed opened)) X :=
  ⟨triple_record fun _ _ _ h => h.note rfl rfl⟩
instance (n : Net) : Preserves (Under G (Sure F)) (record (.loopEnd n)) X :=
  ⟨triple_record fun _ _ _ h => h.note rfl rfl⟩
instance : Preserves (Under G (Sure F)) end_loop X := by unfold end_loop; infer_instance
instance : Preserves (Under G (Sure F)) check_last_status X := by unfold check_last_status; infer_instance
instance (c : Call) (n : Net) : Preserves (Under G (Sure F)) (record (.called c n)) X :=
  ⟨triple_record fun _ _ _ h => h.note rfl rfl⟩

end Steps

/-! ## Actions and states -/

/-- `F` does not look at the pending action. -/
class Bare (F : Bool → NetworkLteState → ModemAction → Prop) : Prop where
  out : ∀ p s a b, F p s a → F p s b

/-- Nor at the state. -/
class Roaming (F : Bool → NetworkLteState → ModemAction → Prop) : Prop where
  out : ∀ p s a r b, F p s a → F p r b

instance [h : Roaming F] : Bare F := ⟨fun p s a b => h.out p s a s b⟩
instance : Roaming off := ⟨fun _ _ _ _ _ h => h⟩
instance : Roaming on := ⟨fun _ _ _ _ _ h => h⟩
instance : Bare fixing := ⟨fun _ _ _ _ h => h⟩

section Bare

variable [hb : Bare F]

instance : Restarting (Sure F) := ⟨fun _ _ h => ⟨h.1, fun hq => hb.out _ _ _ _ (h.2 hq)⟩⟩

instance : Free G (Sure F) where
  last_status _ _ _ h := h.keep rfl rfl
  cold _ _ _ h := h.keep rfl rfl
  warm _ _ _ h := h.keep rfl rfl
  config _ _ _ h := h.keep rfl rfl
  reset _ _ h := h.keep rfl rfl
  action _ _ _ _ h := ⟨h.1, fun hq => hb.out _ _ _ _ (h.2 hq)⟩
  event _ _ _ _ h := h.keep rfl rfl
  urc _ _ _ _ _ _ h := (h.keep rfl rfl).note rfl rfl
  cfun _ _ _ _ _ _ h := (h.keep rfl rfl).note rfl rfl
  ran _ _ _ _ _ _ h := h.note rfl rfl
  polled _ _ _ _ h := h.note rfl rfl
  loopEnd _ _ _ _ h := h.note rfl rfl
  called _ _ _ _ _ h := h.note rfl rfl

end Bare

/-- `Sure`, between the assignment of a state and its entry in the log. -/
def Passing (F : Bool → NetworkLteState → ModemAction → Prop) (n : Net) (l : List Entry) : Prop :=
  Quiet l → F (powered l) n.state_ n.modem_action_

section Passing

theorem Passing.keep {n m : Net} {l : List Entry} (h : Passing F n l) (hs : m.state_ = n.state_)
    (ha : m.modem_action_ = n.modem_action_) : Passing F m l := by
  unfold Passing
  rw [hs, ha]
  exact h

theorem Passing.note {n : Net} {l : List Entry} {e : Entry} (h : Passing F n l) (hs : switches e = none) :
    Passing F n (e :: l) := by
  unfold Passing powered
  rw [hs]
  exact fun hq => h hq.2

instance : Blind (Passing F) := ⟨fun _ _ _ h => h⟩

instance : Timeless G (Passing F) where
  move n _ m h := h.keep (n.move_state_ m) (n.move_modem_action_ m)
  data _ _ _ _ h := h
  other _ _ _ a hc _ h := (h.keep rfl rfl).note (switches_plain hc a)
  prompt _ _ _ a hc _ h := h.note (switches_plain hc a)
  st_timer _ _ _ h := h
  timer _ _ _ h := h
  started _ _ _ _ h := h.note rfl

theorem Passing.left {n : Net} {l : List Entry} (h : Passing F n l) : Sure F n (.left n :: l) :=
  ⟨rfl, fun hq => h hq.2⟩

theorem triple_change {s : NetworkLteState} (hf : ∀ p r a, F p r a → F' p s a)
    (enter : Triple (Under G (Sure F')) (enter_state s) (fun _ => Under G (Sure F')) X) :
    Triple (Under G (Sure F)) (change_state s) (fun _ => Under G (Sure F')) X := by
  refine triple_change_state (A := fun _ => Passing F') (B := Passing F') (C := Sure F') ?_ ?_ ?_ ?_ enter
  · rintro n l h rfl
    exact ⟨h.1, fun hq => hf _ _ _ (h.2 hq)⟩
  · exact fun n l h _ hq => hf _ _ _ (h.2 hq)
  · exact fun _ _ => Preserves.out
  · exact fun n l _ h => h.left

theorem change_state_sure {s : NetworkLteState} (hd : s ≠ .network_detached) (hp : s ≠ .pdp_context_closed)
    (hf : ∀ p r a, F p r a → F' p s a) :
    Triple (Under G (Sure F)) (change_state s) (fun _ => Under G (Sure F')) X :=
  triple_change hf (enter_state_preserves hd hp).out

instance [h : Roaming F] (s : NetworkLteState) : Preserves (Under G (Sure F)) (change_state s) X :=
  ⟨triple_change (fun p r a => h.out p r a s a) Preserves.out⟩

end Passing

/-! ## The receiver itself -/

/-- After a step that was not harmless. -/
def never (_ : Bool) (_ : NetworkLteState) (_ : ModemAction) : Prop := False

instance : Roaming never := ⟨fun _ _ _ _ _ h => h⟩

theorem Sure.of_never {n : Net} {l : List Entry} (h : Sure never n l) : Sure F n l := h.mono fun _ _ _ h => h.elim

section Receiver

theorem Sure.switched {n : Net} {l : List Entry} {b : Bool} {a : Answer} (h : Sure F n l)
    (hf : ∀ p s m, (p = true → b = false → a.status = .ok) → F p s m → F' (if a.status = .ok then b else p) s m) :
    Sure F' { n with last_status_ := a.status } (.exchange (.other (.set_gnss_power b)) a :: l) := by
  refine ⟨h.1, fun hq => ?_⟩
  have hp : powered (.exchange (.other (.set_gnss_power b)) a :: l) = if a.status = .ok then b else powered l := by
    change (if a.status = .ok then some b else none).getD (powered l) = _
    split <;> rfl
  rw [hp]
  refine hf _ _ _ (fun ho hb => ?_) (h.2 hq.2)
  subst hb
  simpa [harmless] using hq.1 ho

instance (b : Bool) : Preserves (Under G (Sure never)) (exchange (.other (.set_gnss_power b))) X :=
  exchange_preserves fun _ _ _ _ h => h.switched fun _ _ _ _ h => h

instance : Preserves (Under G (Sure off)) (exchange (.other (.set_gnss_power false))) X :=
  exchange_preserves fun _ _ _ _ h => h.switched fun p _ _ _ h => by
    unfold off at h ⊢
    split
    · rfl
    · exact h

instance : Preserves (Under G (Sure fixing)) (exchange (.other (.set_gnss_power true))) X :=
  exchange_preserves fun _ _ _ _ h => h.switched fun p _ _ _ h => by
    refine ⟨?_, h.2⟩
    split
    · rfl
    · exact h.1

theorem leave_gnss_fix_spec : Triple (Under G (Sure F)) leave_gnss_fix (fun _ => Under G (Sure off)) X := by
  refine Triple.bind (Q := fun _ => Under G (Sure off)) ?_ fun _ => Preserves.out
  refine Triple.bind (triple_send (R := fun _ => Sure off) fun n l a _ h => ?_) fun status => Preserves.out
  refine h.switched fun p _ _ ho _ => ?_
  unfold off
  split
  · rfl
  · next hs => cases p <;> simp_all

theorem switch_on_gnss_off (b : Bool) : Triple (Under G (Sure off)) (switch_on_gnss b)
    (fun status => Under G fun n l => Sure off n l ∨ status = .ok ∧ Sure on n l) X := by
  refine Triple.ite (fun _ => triple_pure fun _ _ h => .inl h) fun _ => ?_
  refine Triple.bind (triple_send fun n l a _ h => ?_) fun status => triple_pure fun _ _ h => h
  by_cases ha : a.status = .ok
  · exact .inr ⟨ha, h.switched fun _ _ _ _ _ => if_pos ha⟩
  · exact .inl (h.switched fun _ _ _ _ h => (if_neg ha).trans h)

theorem enter_gnss_fix_off : Triple (Under G (Sure off)) enter_gnss_fix
    (fun _ => Under G fun n l => Sure off n l ∨ Sure fixing n l) X := by
  refine Triple.bind (Preserves.out (m := set_urcs false)) fun _ => ?_
  refine Triple.bind (Preserves.out (m := xE310.power_off_radio)) fun _ => ?_
  refine Triple.bind (Preserves.out (m := xE310.is_gnss_powered)) fun powered => ?_
  refine Triple.bind (switch_on_gnss_off powered.2) fun status => Triple.ite (fun hs => ?_) fun _ => ?_
  · refine triple_pre (P := Sure off) (fun _ _ h => h.resolve_right fun hk => hs hk.1) ?_
    exact triple_post (fun _ _ _ h => .inl h) Preserves.out
  · refine triple_or (triple_post (fun _ _ _ h => .inl h) Preserves.out) ?_
    refine triple_pre (P := Sure on) (fun _ _ h => h.2) ?_
    refine Triple.bind (Q := fun _ => Under G (Sure fixing)) ?_ fun _ => triple_post (fun _ _ _ h => .inr h) Preserves.out
    exact change_state_sure (by decide) (by decide) fun _ _ _ h => ⟨h, rfl⟩

instance : Preserves (Under G (Sure fixing)) (change_state .gnss_fix_mode) X :=
  ⟨change_state_sure (by decide) (by decide) fun _ _ _ h => ⟨h.1, rfl⟩⟩

instance : Preserves (Under G (Sure fixing)) enter_gnss_fix X := by
  unfold enter_gnss_fix
  infer_instance

end Receiver

/-! ## The actions in the fix mode -/

/-- The action `a`, which the machine `b` ran with the outcome `h`, left the fix mode alone if it `stays`. -/
def Ran (a : ModemAction) (b : Net) (h : Heard) (n : Net) (l : List Entry) : Prop :=
  Sure on n l ∧ (stays a b h = true → Sure fixing n l)

section Ran

variable {a : ModemAction} {b : Net} {h : Heard}

theorem Sure.on {n : Net} {l : List Entry} (hf : Sure fixing n l) : Sure on n l := hf.mono fun _ _ _ h => h.1

theorem Sure.ran {n : Net} {l : List Entry} (hf : Sure fixing n l) : Ran a b h n l := ⟨hf.on, fun _ => hf⟩

theorem ran_of_kept {P : Net → List Entry → Prop} {m : Prog World Heard} (hp : ∀ n l, P n l → Sure fixing n l)
    [hm : Preserves (Under G (Sure fixing)) m X] : Triple (Under G P) m (fun h => Under G (Ran a b h)) X :=
  triple_pre hp (triple_post (fun _ _ _ h => h.ran) hm.out)

theorem ran_of_left (hs : stays a b h = false) :
    Triple (Under G (Sure on)) (pure h) (fun h => Under G (Ran a b h)) X := by
  refine triple_pure fun _ _ h => ⟨h, fun hk => ?_⟩
  rw [hs] at hk
  cases hk

theorem triple_on {α : Type} {m : Prog World α} {R : α → Net → List Entry → Prop}
    (h : Triple (Under G (Sure on)) m (fun r => Under G (R r)) X) :
    Triple (Under G (Sure fixing)) m (fun r => Under G (R r)) X :=
  triple_pre (fun _ _ h => h.on) h

theorem ran_of_on {P : Net → List Entry → Prop} {m : Prog World Heard} (hp : ∀ n l, P n l → Sure fixing n l)
    (hs : ∀ h, stays a b h = false) [hm : Preserves (Under G (Sure on)) m X] :
    Triple (Under G P) m (fun h => Under G (Ran a b h)) X := by
  refine triple_pre (fun n l h => (hp n l h).on) (triple_post (fun h _ _ hn => ⟨hn, fun hk => ?_⟩) hm.out)
  rw [hs h] at hk
  cases hk

theorem check_status_response_sure (status : ModemStatus) :
    Triple (Under G (Sure F)) (check_status_response status)
      (fun ok => Under G fun n l => (ok = true → status = .ok) ∧ Sure F n l) X := by
  refine Triple.ite (fun hs => triple_pure fun _ _ h => ⟨fun _ => hs, h⟩) fun _ => Triple.ite (fun _ => ?_) fun _ => ?_
  · refine Triple.bind (Preserves.out (m := on_event _)) fun _ => triple_pure fun _ _ h => ⟨nofun, h⟩
  · exact triple_pure fun _ _ h => ⟨nofun, h⟩

theorem setup_radio_ran : Triple (Under G fun n l => n = b ∧ Sure fixing n l) setup_radio
    (fun h => Under G (Ran .setup_radio b h)) X := by
  refine triple_net_of (F := fun n => n = b) (fun _ _ h => h.1) fun n hn => Triple.ite (fun _ => ?_) fun hf => ?_
  · exact ran_of_kept fun _ _ h => h.2
  · refine ran_of_on (fun _ _ h => h.2) fun h => ?_
    simpa [hn] using hf

theorem switch_off_radio_ran : Triple (Under G fun n l => n = b ∧ Sure fixing n l) switch_off_radio
    (fun h => Under G (Ran .switch_off_radio b h)) X := by
  refine triple_net_of (F := fun n => n = b) (fun _ _ h => h.1) fun n hn => Triple.ite (fun hf => ?_) fun _ => ?_
  · refine ran_of_on (fun _ _ h => h.2) fun h => ?_
    simp [← hn, hf]
  · exact ran_of_kept fun _ _ h => h.2

theorem query_network_status_ran : Triple (Under G (Sure fixing)) query_network_status
    (fun h => Under G (Ran .query_network_status b h)) X := by
  have (info : RegistrationInfo) : Preserves (Under G (Sure fixing)) (updateData fun d => { d with regInfo := info }) X :=
    inferInstance
  refine Triple.bind (Preserves.out (m := net)) fun n => ?_
  refine Triple.bind (Preserves.out (m := xE310.get_registration_status _ _)) fun r => ?_
  refine Triple.bind Preserves.out fun _ => Triple.bind (check_status_response_sure r.1) fun ok => ?_
  refine Triple.ite (fun _ => ?_) fun hok => Triple.ite (fun hs => ?_) fun _ => ?_
  · exact triple_pure fun _ _ h => h.2.ran
  · refine triple_fact fun ho => triple_on (Triple.bind Preserves.out fun _ => ran_of_left ?_)
    have ho : r.1 = .ok := ho (by simpa using hok)
    simp [ho, hs]
  · exact triple_pre (fun _ _ h => h.2) (ran_of_kept fun _ _ h => h)

theorem query_pdp_context_ran : Triple (Under G (Sure fixing)) query_pdp_context
    (fun h => Under G (Ran .query_pdp_context b h)) X := by
  refine Triple.bind (Preserves.out (m := net)) fun n => ?_
  refine Triple.bind (Preserves.out (m := xE310.get_pdp_state _ _)) fun pdp => ?_
  refine Triple.ite (fun _ => triple_pure fun _ _ h => h.ran) fun hp => ?_
  have hp : pdp.1 = .ok := by simpa using hp
  refine Triple.ite (fun ha => triple_on (Triple.bind Preserves.out fun _ => ?_)) fun _ => ?_
  · refine Triple.bind (Q := fun _ => Under G (Sure on)) Preserves.out fun _ => ran_of_left ?_
    have ha : pdp.2 = false := by simpa using ha
    simp [hp, ha]
  · refine Triple.bind (Preserves.out (m := xE310.get_ip_address _ _)) fun ip => ?_
    refine Triple.bind Preserves.out fun _ => Triple.ite (fun _ => ?_) fun hi => ?_
    · exact triple_pure fun _ _ h => h.ran
    · refine triple_on (Triple.bind Preserves.out fun _ => ran_of_left ?_)
      have hi : ip.1 = .ok := by simpa using hi
      simp [hp, hi]

theorem attach_network_ran : Triple (Under G (Sure fixing)) attach_network
    (fun h => Under G (Ran .attach_network b h)) X := by
  have hs : Triple (Under G (Sure fixing)) start_attach (fun h => Under G (Ran .attach_network b h)) X := by
    refine Triple.bind (Preserves.out (m := net)) fun n => Triple.ite (fun _ => ?_) fun _ => ?_
    · exact Triple.bind Preserves.out fun _ => triple_pure fun _ _ h => h.ran
    · refine triple_on (Triple.bind Preserves.out fun _ => Triple.bind Preserves.out fun _ => ?_)
      exact Triple.bind (Q := fun _ => Under G (Sure on)) Preserves.out fun _ => ran_of_left rfl
  have : Preserves (Under G (Sure fixing)) (on_event .attach_error) X := inferInstance
  refine Triple.bind (Preserves.out (m := xE310.power_off_radio)) fun _ => ?_
  refine Triple.bind (Preserves.out (m := net)) fun n => ?_
  refine Triple.ite (fun _ => Triple.bind Preserves.out fun _ => hs) fun _ => ?_
  refine Triple.ite (fun _ => Triple.bind Preserves.out fun _ => hs) fun _ => ?_
  exact ran_of_kept fun _ _ h => h

theorem open_pdp_context_ran : Triple (Under G (Sure fixing)) open_pdp_context
    (fun h => Under G (Ran .open_pdp_context b h)) X := by
  refine Triple.bind (Preserves.out (m := net)) fun n => Triple.bind Preserves.out fun status => ?_
  refine Triple.ite (fun hs => triple_on (Triple.bind Preserves.out fun _ => ran_of_left ?_)) fun _ => ?_
  · simp [hs]
  · exact triple_pure fun _ _ h => h.ran

theorem reboot_ran : Triple (Under G (Sure fixing)) reboot (fun h => Under G (Ran .reboot b h)) X := by
  refine Triple.bind Preserves.out fun status => Triple.bind (check_status_response_sure status) fun ok => ?_
  refine Triple.ite (fun ho => triple_fact fun hs => ?_) fun _ => triple_pure fun _ _ h => h.2.ran
  refine triple_on (Triple.bind Preserves.out fun _ => ?_)
  refine Triple.bind (Q := fun _ => Under G (Sure on)) Preserves.out fun _ => ran_of_left ?_
  simp [hs ho]

theorem check_responsiveness_ran [hc : CutTo (Under G (Sure fixing)) X] (fuel : Nat) :
    Triple (Under G (Sure fixing)) (check_responsiveness fuel)
      (fun h => Under G (Ran .check_responsiveness b h)) X := by
  induction fuel with
  | zero => exact Triple.cutOff hc.out
  | succ fuel ih =>
    refine Triple.bind Preserves.out fun status => Triple.ite (fun _ => ih) fun _ => ?_
    exact triple_on (Triple.bind Preserves.out fun _ =>
      Triple.bind (Q := fun _ => Under G (Sure on)) Preserves.out fun _ => ran_of_left rfl)

theorem perform_ran [CutTo (Under G (Sure fixing)) X] (fuel : Nat) (ha : a ≠ .leave_gnss_fix) :
    Triple (Under G fun n l => n = b ∧ Sure fixing n l) (perform fuel a) (fun h => Under G (Ran a b h)) X := by
  have hf : ∀ n l, n = b ∧ Sure fixing n l → Sure fixing n l := fun _ _ h => h.2
  cases a
  case leave_gnss_fix => exact absurd rfl ha
  case setup_radio => exact setup_radio_ran
  case switch_off_radio => exact switch_off_radio_ran
  case query_network_status => exact triple_pre hf query_network_status_ran
  case query_pdp_context => exact triple_pre hf query_pdp_context_ran
  case attach_network => exact triple_pre hf attach_network_ran
  case open_pdp_context => exact triple_pre hf open_pdp_context_ran
  case reboot => exact triple_pre hf reboot_ran
  case check_responsiveness => exact triple_pre hf (check_responsiveness_ran fuel)
  case power_on => exact ran_of_on (m := power_on) hf fun _ => rfl
  case power_off => exact ran_of_on (m := power_off) hf fun _ => rfl
  case turn_on_radio => exact ran_of_on (m := turn_on_radio) hf fun _ => rfl
  case wake_up => exact ran_of_on (m := wake_up) hf fun _ => rfl
  case enter_transparent_mode => exact ran_of_on (m := enter_transparent_mode_action) hf fun _ => rfl
  case leave_transparent_mode => exact ran_of_on (m := leave_transparent_mode_action) hf fun _ => rfl
  case enter_sleep => exact ran_of_kept (m := enter_sleep_action) hf
  case send_data => exact ran_of_kept (m := send_data) hf
  case read_data => exact ran_of_kept (m := read_data) hf
  case enter_gnss_fix => exact ran_of_kept (m := enter_gnss_fix) hf
  all_goals exact triple_pure fun n l h => (hf n l h).ran

end Ran

/-! ## execute_actions -/

abbrev nowhere (_ : NetworkLteState) : Prop := False

theorem Sure.split {n : Net} {l : List Entry} (h : Sure (balanced S) n l) :
    (Sure off n l ∨ Sure fixing n l) ∨ Sure (leaving S) n l := by
  by_cases hq : Quiet l
  · rcases h.2 hq with hb | hb | hb
    · exact .inl (.inl ⟨h.1, fun _ => hb⟩)
    · exact .inl (.inr ⟨h.1, fun _ => hb⟩)
    · exact .inr ⟨h.1, fun _ => hb⟩
  · exact .inl (.inl ⟨h.1, fun hl => absurd hl hq⟩)

theorem triple_split {α : Type} {m : Prog World α} {R : α → Net → List Entry → Prop}
    (ho : Triple (Under G (Sure off)) m (fun r => Under G (R r)) X)
    (hf : Triple (Under G (Sure fixing)) m (fun r => Under G (R r)) X)
    (hl : Triple (Under G (Sure (leaving S))) m (fun r => Under G (R r)) X) :
    Triple (Under G (Sure (balanced S))) m (fun r => Under G (R r)) X :=
  triple_pre (fun _ _ h => h.split) (triple_or (triple_or ho hf) hl)

theorem Sure.of_off {n : Net} {l : List Entry} (h : Sure off n l) : Sure (balanced S) n l :=
  h.mono fun _ _ _ h => .inl h

theorem Sure.of_fixing {n : Net} {l : List Entry} (h : Sure fixing n l) : Sure (balanced S) n l :=
  h.mono fun _ _ _ h => .inr (.inl h)

theorem Sure.of_leaving {n : Net} {l : List Entry} (h : Sure (leaving S) n l) : Sure (balanced S) n l :=
  h.mono fun _ _ _ h => .inr (.inr h)

abbrev Balanced : World → Prop := Under Always (Sure (balanced anywhere))

instance : CutTo (Under Always (Sure off)) Balanced := ⟨fun _ => Under.mono fun _ _ h => h.of_off⟩
instance : CutTo (Under Always (Sure fixing)) Balanced := ⟨fun _ => Under.mono fun _ _ h => h.of_fixing⟩
instance : CutTo (Under Always (Sure never)) Balanced := ⟨fun _ => Under.mono fun _ _ h => h.of_never⟩

section Actions

theorem take_action {α : Type} {f : ModemAction → Prog World α} {R : α → Net → List Entry → Prop} [hb : Bare F]
    (h : ∀ a, Triple (Under G (Sure F)) (f a) (fun r => Under G (R r)) X) :
    Triple (Under G (Sure F)) (get_action >>= f) (fun r => Under G (R r)) X :=
  Triple.bind (triple_get_action (R := fun _ => Sure F) fun _ _ hn => ⟨hn.1, fun hq => hb.out _ _ _ _ (hn.2 hq)⟩) h

theorem execute_actions_off (fuel : Nat) : Triple (Under Always (Sure off)) (execute_actions fuel)
    (fun _ => Under Always (Sure (balanced nowhere))) Balanced := by
  refine take_action fun a => Triple.bind (Preserves.out (m := net)) fun b => ?_
  by_cases ha : a = .enter_gnss_fix
  · subst ha
    refine Triple.bind enter_gnss_fix_off fun h => triple_record fun _ _ _ hn => ?_
    rcases hn with hn | hn
    · exact (hn.note rfl rfl).of_off
    · exact (hn.note rfl rfl).of_fixing
  · have hp : Preserves (Under Always (Sure off)) (perform fuel a) Balanced :=
      perform_preserves fuel a (fun _ => inferInstance) (fun _ => inferInstance) (fun _ => inferInstance)
        (fun _ => inferInstance) (fun _ => inferInstance) fun h => absurd h ha
    exact Triple.bind hp.out fun h => triple_record fun _ _ _ hn => (hn.note rfl rfl).of_off

theorem execute_actions_fixing (fuel : Nat) : Triple (Under Always (Sure fixing)) (execute_actions fuel)
    (fun _ => Under Always (Sure (balanced nowhere))) Balanced := by
  refine take_action fun a => ?_
  by_cases ha : a = .leave_gnss_fix
  · subst ha
    refine Triple.bind (Preserves.out (m := net)) fun b => Triple.bind leave_gnss_fix_spec fun h => ?_
    exact triple_record fun _ _ _ hn => (hn.note rfl rfl).of_off
  · refine Triple.bind triple_net fun b => Triple.bind (perform_ran fuel ha) fun h => triple_record fun n l _ hn => ?_
    cases hs : stays a b h with
    | true => exact ((hn.2 hs).note rfl rfl).of_fixing
    | false => exact Sure.of_never (hn.1.harmful rfl hs)

theorem execute_actions_leaving (fuel : Nat) : Triple (Under Always (Sure (leaving S))) (execute_actions fuel)
    (fun _ => Under Always (Sure (balanced nowhere))) Balanced := by
  refine Triple.bind (triple_get_action (R := fun a n l => Sure on n l ∧ (a = .leave_gnss_fix ∨ Sure never n l))
    fun n l h => ⟨⟨h.1, fun hq => (h.2 hq).1⟩, ?_⟩) fun a => ?_
  · by_cases hq : Quiet l
    · exact .inl (h.2 hq).2.2.2
    · exact .inr ⟨h.1, fun hl => hq hl⟩
  · by_cases ha : a = .leave_gnss_fix
    · subst ha
      refine triple_pre (P := Sure on) (fun _ _ h => h.1) (Triple.bind (Preserves.out (m := net)) fun b => ?_)
      exact Triple.bind leave_gnss_fix_spec fun h => triple_record fun _ _ _ hn => (hn.note rfl rfl).of_off
    · refine triple_pre (P := Sure never) (fun _ _ h => h.2.resolve_left ha) ?_
      refine Triple.bind (Preserves.out (m := net)) fun b => ?_
      have hp : Preserves (Under Always (Sure never)) (perform fuel a) Balanced :=
        perform_preserves fuel a (fun _ => inferInstance) (fun _ => inferInstance) (fun _ => inferInstance)
          (fun _ => inferInstance) (fun _ => inferInstance) fun _ => inferInstance
      exact Triple.bind hp.out fun h => triple_record fun _ _ _ hn => Sure.of_never (hn.note rfl rfl)

theorem execute_actions_balanced (fuel : Nat) : Triple (Under Always (Sure (balanced S))) (execute_actions fuel)
    (fun _ => Under Always (Sure (balanced nowhere))) Balanced :=
  triple_split (execute_actions_off fuel) (execute_actions_fixing fuel) (execute_actions_leaving fuel)

end Actions

/-! ## The events -/

/-- On, with `leave_gnss_fix` pending. -/
def pending (p : Bool) (_ : NetworkLteState) (a : ModemAction) : Prop := p = true ∧ a = .leave_gnss_fix

section Events

variable {t : Taken}

theorem change_state_pending {s : NetworkLteState} (hd : s ≠ .network_detached) (hp : s ≠ .pdp_context_closed)
    (hg : s ≠ .gnss_fix_mode) :
    Triple (Under G (Sure pending)) (change_state s) (fun _ => Under G (Sure (leaving anywhere))) X :=
  change_state_sure hd hp fun _ _ _ h => ⟨h.1, hg, trivial, h.2⟩

theorem Sure.pending {n : Net} {l : List Entry} (h : Sure (leaving S) n l) : Sure pending n l :=
  h.mono fun _ _ _ h => ⟨h.1, h.2.2.2⟩

theorem handle_event_pending {e : NetworkLteEvent} (he : e = .psm_enter ∨ e = .psm_exit ∨ e = .context_opened) :
    Triple (Under G (Sure pending)) (handle_event e) (fun _ => Under G (Sure (leaving anywhere))) X := by
  have hc {s : NetworkLteState} (hd : s ≠ .network_detached) (hp : s ≠ .pdp_context_closed) (hg : s ≠ .gnss_fix_mode) :
      Triple (Under G (Sure pending)) (do change_state s; pure Heard.nothing)
        (fun _ => Under G (Sure (leaving anywhere))) X :=
    Triple.bind (change_state_pending hd hp hg) fun _ => triple_pure fun _ _ h => h
  rcases he with rfl | rfl | rfl
  · exact hc (by decide) (by decide) (by decide)
  · refine Triple.bind (Preserves.out (m := net)) fun n => ?_
    split
    · exact hc (by decide) (by decide) (by decide)
    · exact hc (by decide) (by decide) (by decide)
  · exact hc (by decide) (by decide) (by decide)

/-- In the fix mode: a harmless event leaves it alone, or comes with `leave_gnss_fix`. -/
theorem handle_event_fixing (hk : keeps t.event t.after = true) (hs : t.after.state_ = .gnss_fix_mode) :
    Triple (Under G fun n l => n = t.after ∧ Sure fixing n l) (handle_event t.event)
      (fun _ => Under G (Sure (balanced anywhere))) X := by
  have hq (m : Prog World Heard) [hp : Preserves (Under G (Sure fixing)) m X] :
      Triple (Under G fun n l => n = t.after ∧ Sure fixing n l) m (fun _ => Under G (Sure (balanced anywhere))) X :=
    triple_pre (fun _ _ h => h.2) (triple_post (fun _ _ _ h => h.of_fixing) hp.out)
  have hl {e : NetworkLteEvent} (he : e = .psm_enter ∨ e = .psm_exit ∨ e = .context_opened)
      (ha : t.after.modem_action_ = .leave_gnss_fix) :
      Triple (Under G fun n l => n = t.after ∧ Sure fixing n l) (handle_event e)
        (fun _ => Under G (Sure (balanced anywhere))) X := by
    refine triple_pre (P := Sure pending) ?_ (triple_post (fun _ _ _ h => h.of_leaving) (handle_event_pending he))
    rintro n l ⟨rfl, h⟩
    exact ⟨h.1, fun hq => ⟨(h.2 hq).1, ha⟩⟩
  cases he : t.event <;> rw [he] at hk <;> simp only [keeps, hs, decide_eq_true_eq, reduceCtorEq, or_self] at hk
  case psm_enter => exact hl (.inl rfl) hk
  case psm_exit => exact hl (.inr (.inl rfl)) hk
  case context_opened => exact hl (.inr (.inr rfl)) hk
  case timeout =>
    refine Triple.bind (Q := fun _ => Under G (Sure (balanced anywhere))) ?_ fun _ => triple_pure fun _ _ h => h
    refine triple_net_of (F := fun n => n.state_ = .gnss_fix_mode) (fun n l h => h.1 ▸ hs) fun n hn => ?_
    refine Triple.ite (fun hd => absurd (hn.symm.trans hd.1) (by decide)) fun _ => ?_
    refine Triple.bind (Q := fun _ => Under G (Sure pending)) (triple_updateNet fun m l h => ?_) fun _ => ?_
    · exact ⟨h.2.1, fun hq => ⟨(h.2.2 hq).1, by rw [hn]; rfl⟩⟩
    · exact triple_post (fun _ _ _ h => h.of_leaving) (change_state_pending (by decide) (by decide) (by decide))
  case data_available => exact hq receive_data
  case gps_available => exact hq take_fix
  case attach_error => exact hq (do call_action .enter_sleep; pure .nothing)
  case at_command_no_response => exact hq (do call_action .check_responsiveness; pure .nothing)
  all_goals exact hq (pure .nothing)

/-- Elsewhere, with `leave_gnss_fix` pending: a harmless event does not replace it. -/
theorem handle_event_leaving (hk : keeps t.event t.after = true) (hs : t.after.state_ ≠ .gnss_fix_mode) :
    Triple (Under G fun n l => n = t.after ∧ Sure (leaving S) n l) (handle_event t.event)
      (fun _ => Under G (Sure (leaving anywhere))) X := by
  have ha : ∀ n l, n = t.after ∧ Sure (leaving S) n l → Sure (leaving anywhere) n l :=
    fun _ _ h => h.2.mono fun _ _ _ h => ⟨h.1, h.2.1, trivial, h.2.2.2⟩
  have hq (m : Prog World Heard) [hp : Preserves (Under G (Sure (leaving anywhere))) m X] :
      Triple (Under G fun n l => n = t.after ∧ Sure (leaving S) n l) m (fun _ => Under G (Sure (leaving anywhere))) X :=
    triple_pre ha hp.out
  have hl {e : NetworkLteEvent} (he : e = .psm_enter ∨ e = .psm_exit ∨ e = .context_opened) :
      Triple (Under G fun n l => n = t.after ∧ Sure (leaving S) n l) (handle_event e)
        (fun _ => Under G (Sure (leaving anywhere))) X :=
    triple_pre (P := Sure pending) (fun _ _ h => h.2.pending) (handle_event_pending he)
  have hsame (s : NetworkLteState) : Triple (Under G (In (· = s) (Sure (leaving anywhere)))) (change_state s)
      (fun _ => Under G (In (· = s) (Sure (leaving anywhere)))) X :=
    change_state_same fun _ _ h => h.1
  cases he : t.event <;> rw [he] at hk <;> simp only [keeps, hs, decide_eq_true_eq, false_or] at hk
  case psm_enter => exact hl (.inl rfl)
  case psm_exit => exact hl (.inr (.inl rfl))
  case context_opened => exact hl (.inr (.inr rfl))
  case network_attached =>
    refine triple_pre (P := In (· = .pdp_context_closed) (Sure (leaving anywhere))) (fun n l h => ⟨h.1 ▸ hk, ha n l h⟩) ?_
    exact Triple.bind (hsame _) fun _ => triple_pure fun _ _ h => h.2
  case context_closed =>
    refine triple_pre (P := In (· = .network_detached) (Sure (leaving anywhere))) (fun n l h => ⟨h.1 ▸ hk, ha n l h⟩) ?_
    refine Triple.bind (Q := fun _ => Under G (In (· = .network_detached) (Sure (leaving anywhere)))) ?_ fun _ => ?_
    · exact triple_updateNet fun _ _ h => ⟨h.1, h.2.keep rfl rfl⟩
    · exact Triple.bind (hsame _) fun _ => triple_pure fun _ _ h => h.2
  case network_detached =>
    refine Triple.bind (Q := fun _ => Under G (Sure (leaving anywhere))) ?_ fun _ => triple_pure fun _ _ h => h
    let R := fun s : NetworkLteState => s = .switched_off ∨ s = .off_mode ∨ s = .sleep_mode ∨ s = .network_detached
    refine triple_pre (P := In R (Sure (leaving anywhere))) (fun n l h => ⟨h.1 ▸ hk, ha n l h⟩) ?_
    refine Triple.bind (Q := fun _ => Under G (In R (Sure (leaving anywhere)))) ?_ fun _ => ?_
    · exact triple_updateNet fun _ _ h => ⟨h.1, h.2.keep rfl rfl⟩
    · refine Triple.bind triple_net fun n => Triple.ite (fun hd => ?_) fun _ => triple_pure fun _ _ h => h.2.2
      refine triple_pre (P := In (· = .network_detached) (Sure (leaving anywhere))) ?_
        (triple_post (fun _ _ _ h => h.2) (hsame _))
      rintro m l ⟨rfl, hr, h⟩
      exact ⟨((hr.resolve_left hd.1).resolve_left hd.2.1).resolve_left hd.2.2, h⟩
  case timeout =>
    refine Triple.bind (Q := fun _ => Under G (Sure (leaving anywhere))) ?_ fun _ => triple_pure fun _ _ h => h
    refine triple_net_of (fun n _ h => (h.1 ▸ hk : n.state_ = .data_ready ∧ n.lteConfig.data_ready_timeout_sec = 0))
      fun n hn => Triple.ite (fun _ => triple_pure ha) fun hd => absurd hn hd
  case data_available => exact hq receive_data
  case gps_available =>
    refine triple_pre ha (Triple.bind (Preserves.out (m := xE310.get_gnss_position _)) fun pos => ?_)
    refine Triple.ite (fun _ => Triple.bind Preserves.out fun _ => ?_) fun _ => triple_pure fun _ _ h => h
    refine Triple.bind (Q := fun _ => Under G (Sure (leaving anywhere))) (triple_updateNet fun n l h => ?_) fun _ =>
      triple_pure fun _ _ h => h
    exact ⟨h.1, fun hq => ⟨(h.2 hq).1, (h.2 hq).2.1, trivial, rfl⟩⟩
  all_goals exact hq (pure .nothing)

theorem take_event {f : Taken → Prog World Unit} {R : Net → List Entry → Prop}
    (h : ∀ t, Triple (Under G fun n l => n = t.after ∧ Sure F n l) (f t) (fun _ => Under G R) X) :
    Triple (Under G (Sure F)) (get_event >>= f) (fun _ => Under G R) X :=
  Triple.bind (triple_take_event fun _ _ h => h.keep rfl rfl) h

theorem handle_event_harmful {P : Net → List Entry → Prop} (hp : ∀ n l, P n l → Sure on n l)
    (hk : keeps t.event t.after = false) :
    Triple (Under G P) (do let h ← handle_event t.event; record (.handled t h)) (fun _ => Under G (Sure F)) X := by
  refine triple_pre hp (Triple.bind Preserves.out fun h => triple_record fun n l _ hn => ?_)
  exact hn.harmful rfl hk

theorem process_event_balanced : Triple (Under G (Sure (balanced S))) process_event
    (fun _ => Under G (Sure (balanced anywhere))) X := by
  refine triple_split (take_event fun t => ?_) (take_event fun t => ?_) (take_event fun t => ?_)
  · refine triple_pre (P := Sure off) (fun _ _ h => h.2) (Triple.bind Preserves.out fun h => ?_)
    exact triple_record fun _ _ _ h => (h.note rfl rfl).of_off
  · cases hk : keeps t.event t.after with
    | false => exact handle_event_harmful (fun _ _ h => h.2.on) hk
    | true =>
      by_cases hs : t.after.state_ = .gnss_fix_mode
      · exact Triple.bind (handle_event_fixing hk hs) fun h => triple_record fun _ _ _ h => h.note rfl rfl
      · refine triple_pre (P := Sure never) ?_ (Triple.bind Preserves.out fun h => ?_)
        · rintro n l ⟨rfl, h⟩
          exact ⟨h.1, fun hq => hs (h.2 hq).2⟩
        · exact triple_record fun _ _ _ h => (h.note rfl rfl).of_never
  · cases hk : keeps t.event t.after with
    | false => exact handle_event_harmful (fun _ _ h => h.2.mono fun _ _ _ h => h.1) hk
    | true =>
      by_cases hs : t.after.state_ = .gnss_fix_mode
      · refine triple_pre (P := Sure never) ?_ (Triple.bind Preserves.out fun h => ?_)
        · rintro n l ⟨rfl, h⟩
          exact ⟨h.1, fun hq => (h.2 hq).2.1 hs⟩
        · exact triple_record fun _ _ _ h => (h.note rfl rfl).of_never
      · refine Triple.bind (handle_event_leaving hk hs) fun h => triple_record fun _ _ _ h => ?_
        exact (h.note rfl rfl).of_leaving

end Events

/-! ## loop and go_to_state -/

section Loop

theorem poll_urc_leaving : Triple (Under G (Sure (leaving S))) poll_urc (fun _ => Under G (Sure (leaving S))) X := by
  refine Triple.bind (Preserves.out (m := net)) fun n => Triple.ite (fun _ => ?_) fun _ => Preserves.out
  refine Triple.bind (Preserves.out (m := tick)) fun t => ?_
  by_cases hr : ∀ urc ∈ t.urcs, readUrc urc ≠ .registered
  · refine Triple.bind (Q := fun _ => Under G (Sure (leaving S))) (triple_record fun _ _ _ h => h.note rfl rfl) fun _ => ?_
    exact (handle_urcs_preserves fun urc hu => handle_preserves (fun _ _ => inferInstance) (hr urc hu)).out
  · refine Triple.bind (Q := fun _ => Under G (Sure never)) (triple_record fun n l _ h => ?_) fun _ => ?_
    · by_cases hq : Quiet l
      · refine Sure.harmful (h.mono fun _ _ _ h => h.1) rfl ?_
        have hs := (h.2 hq).2.1
        rw [h.1] at hs
        simpa [harmless, hs] using hr
      · exact ⟨(h.note rfl rfl : Sure _ n _).1, fun hl => hq hl.2⟩
    · exact triple_post (fun _ _ _ h => h.of_never) Preserves.out

theorem poll_urc_balanced : Triple (Under G (Sure (balanced S))) poll_urc (fun _ => Under G (Sure (balanced S))) X :=
  triple_split (triple_post (fun _ _ _ h => h.of_off) Preserves.out)
    (triple_post (fun _ _ _ h => h.of_fixing) Preserves.out)
    (triple_post (fun _ _ _ h => h.of_leaving) poll_urc_leaving)

theorem Sure.balanced_mono {S' : NetworkLteState → Prop} {n : Net} {l : List Entry} (h : Sure (balanced S) n l)
    (hs : S n.state_ → S' n.state_) : Sure (balanced S') n l := by
  refine ⟨h.1, fun hq => ?_⟩
  rcases h.2 hq with hb | hb | hb
  · exact .inl hb
  · exact .inr (.inl hb)
  · exact .inr (.inr ⟨hb.1, hb.2.1, hs hb.2.2.1, hb.2.2.2⟩)

theorem loop_balanced (fuel : Nat) (target : NetworkLteState) :
    Triple (Under Always (Sure (balanced S))) (loop fuel target)
      (fun _ => Under Always (Sure (balanced (· = target)))) Balanced := by
  refine Triple.bind poll_urc_balanced fun _ => Triple.bind (Preserves.out (m := check_last_status)) fun _ => ?_
  refine Triple.bind process_event_balanced fun _ => Triple.bind triple_net fun n => Triple.ite (fun hn => ?_) fun _ => ?_
  · refine triple_pre (P := Sure (balanced (· = target))) ?_ Preserves.out
    rintro m l ⟨rfl, h⟩
    exact h.balanced_mono fun _ => hn.1
  · refine triple_pre (fun _ _ h => h.2) (Triple.bind (execute_actions_balanced fuel) fun _ => ?_)
    exact triple_pre (fun _ _ h => h.balanced_mono fun hf => hf.elim) Preserves.out

/-- The states in which `go_to_state` does not call for another action. -/
def resting (target s : NetworkLteState) : Prop :=
  s = target ∨ s = .done ∨ s = .modem_fota ∨ towards target s = none

theorem call_towards_balanced {target s : NetworkLteState} (ht : s ≠ target) (hd : s ≠ .done) (hf : s ≠ .modem_fota) :
    Triple (Under G fun m l => m.state_ = s ∧ Sure (balanced (resting target)) m l) (call_towards target s)
      (fun _ => Under G (Sure (balanced (resting target)))) X := by
  unfold call_towards
  cases ha : towards target s with
  | none => exact triple_pure fun _ _ h => h.2
  | some a =>
    refine triple_pre (P := Sure (balanced nowhere)) ?_ (triple_split ?_ ?_ ?_)
    · rintro m l ⟨rfl, h⟩
      refine h.balanced_mono fun hr => ?_
      rcases hr with hr | hr | hr | hr
      · exact ht hr
      · exact hd hr
      · exact hf hr
      · rw [hr] at ha
        cases ha
    · exact triple_post (fun _ _ _ h => h.of_off) Preserves.out
    · exact triple_post (fun _ _ _ h => h.of_fixing) Preserves.out
    · refine triple_pre (P := Sure never) (fun _ _ h => h.mono fun _ _ _ h => h.2.2.1) ?_
      exact triple_post (fun _ _ _ h => h.of_never) Preserves.out

theorem go_to_state_balanced (target : NetworkLteState) (fuel : Nat) :
    Triple (Under Always (Sure (balanced (resting target)))) (go_to_state target fuel)
      (fun _ => Balanced) Balanced := by
  have hm {R : NetworkLteState → Prop} {n : Net} {l : List Entry} (h : Sure (balanced R) n l) :
      Sure (balanced anywhere) n l := h.balanced_mono fun _ => trivial
  induction fuel with
  | zero => exact Triple.cutOff fun _ => Under.mono fun _ _ h => hm h
  | succ fuel ih =>
    refine Triple.bind triple_net fun n => Triple.ite (fun _ => triple_pure fun _ _ h => hm h.2) fun ht => ?_
    refine Triple.ite (fun _ => triple_pure fun _ _ h => hm h.2) fun hd => ?_
    rw [not_or] at hd
    refine triple_pre (P := fun m l => m.state_ = n.state_ ∧ Sure (balanced (resting target)) m l)
      (fun m l h => ⟨congrArg Net.state_ h.1, h.2⟩) ?_
    refine Triple.bind (call_towards_balanced ht hd.1 hd.2) fun _ => Triple.bind (loop_balanced fuel target) fun _ => ?_
    refine Triple.bind (Preserves.out (m := tick)) fun _ => Triple.bind (Preserves.out (m := net)) fun _ => ?_
    refine Triple.ite (fun _ => triple_pure fun _ _ h => hm h) fun _ => ?_
    exact triple_pre (fun _ _ h => h.balanced_mono .inl) ih

theorem wait_for_fix_balanced (fuel : Nat) :
    Triple Balanced (wait_for_fix fuel) (fun _ => Balanced) Balanced := by
  induction fuel with
  | zero => exact Triple.cutOff fun _ h => h
  | succ fuel ih =>
    refine Triple.bind (Preserves.out (m := net)) fun n => Triple.ite (fun _ => ?_) fun _ => triple_pure fun _ _ h => h
    refine Triple.bind (loop_balanced fuel .none) fun _ => ?_
    exact triple_pre (fun _ _ h => h.balanced_mono fun _ => trivial) ih

end Loop

/-! ## The calls -/

section Calls

variable {c : Call}

/-- Calls that only talk to the modem or work on the data. -/
def calm : Call → Bool
  | .loop _ | .network_connect | .network_disconnect | .force_psm | .enter_sleep | .enter_transparent_mode
  | .exit_transparent_mode | .leave_transparent_mode | .update_modem | .acquire_gnss_position | .call_action _ => false
  | _ => true

theorem exec_calm (fuel : Nat) (hc : calm c = true) : Preserves (Under G (Sure F)) (c.exec fuel) X := by
  cases c <;> simp only [calm, Bool.false_eq_true] at hc <;> unfold Call.exec
  all_goals first | infer_instance | (unfold void; infer_instance)

theorem triple_go {α : Type} {P : Net → List Entry → Prop} {target : NetworkLteState} {k : Bool → Prog World α}
    [∀ b, Preserves Balanced (k b)] (fuel : Nat) (hp : ∀ n l, P n l → Sure (balanced (resting target)) n l) :
    Triple (Under Always P) (go_to_state target fuel >>= k) (fun _ => Balanced) Balanced :=
  triple_pre hp (Triple.bind (go_to_state_balanced target fuel) fun _ => Preserves.out)

theorem triple_idle {α : Type} {P : Net → List Entry → Prop} {a : α} (hp : ∀ n l, P n l → Sure (balanced S) n l) :
    Triple (Under Always P) (pure a) (fun _ => Balanced) Balanced :=
  triple_pure fun n l h => (hp n l h).balanced_mono fun _ => trivial

theorem network_connect_balanced (fuel : Nat) :
    Triple (Under Always (Sure (balanced fun s => overrides .network_connect s = false))) (network_connect fuel)
      (fun _ => Balanced) Balanced := by
  refine Triple.bind (Preserves.out (m := net)) fun n => Triple.bind Preserves.out fun _ => ?_
  refine Triple.bind triple_net fun n => Triple.ite (fun _ => triple_idle fun _ _ h => h.2) fun hn => ?_
  refine Triple.ite (fun _ => triple_idle fun _ _ h => h.2) fun hd => triple_go fuel ?_
  rintro m l ⟨rfl, h⟩
  refine h.balanced_mono fun ho => .inr (.inr (.inr ?_))
  simp only [not_or] at hn
  simpa [overrides, hn, hd] using ho

theorem enter_sleep_balanced (fuel : Nat) : Triple (Under Always (Sure (balanced S))) (enter_sleep fuel)
    (fun _ => Balanced) Balanced := by
  refine Triple.bind (Preserves.out (m := net)) fun n => Triple.ite (fun _ => ?_) fun _ => triple_idle fun _ _ h => h
  refine triple_go fuel fun m l h => h.balanced_mono fun _ => .inr (.inr (.inr ?_))
  cases m.state_ <;> rfl

theorem enter_transparent_mode_balanced (fuel : Nat) :
    Triple (Under Always (Sure (balanced fun s => overrides .enter_transparent_mode s = false)))
      (enter_transparent_mode fuel) (fun _ => Balanced) Balanced := by
  refine Triple.bind triple_net fun n => Triple.ite (fun hn => triple_go fuel ?_) fun _ => triple_idle fun _ _ h => h.2
  rintro m l ⟨rfl, h⟩
  refine h.balanced_mono fun ho => ?_
  unfold resting
  by_cases hd : m.state_ = .done <;> by_cases hf : m.state_ = .modem_fota <;> simp_all [overrides]

theorem exit_transparent_mode_balanced (fuel : Nat) :
    Triple (Under Always (Sure (balanced fun s => overrides .exit_transparent_mode s = false)))
      (exit_transparent_mode fuel) (fun _ => Balanced) Balanced := by
  refine Triple.bind triple_net fun n => Triple.ite (fun _ => triple_idle fun _ _ h => h.2) fun hn => triple_go fuel ?_
  rintro m l ⟨rfl, h⟩
  refine h.balanced_mono fun ho => absurd ?_ hn
  simpa [overrides] using ho

theorem leave_transparent_mode_balanced (fuel : Nat) :
    Triple (Under Always (Sure (balanced fun s => overrides .leave_transparent_mode s = false)))
      (leave_transparent_mode fuel) (fun _ => Balanced) Balanced := by
  refine Triple.bind triple_net fun n => Triple.ite (fun _ => triple_idle fun _ _ h => h.2) fun hn => ?_
  refine triple_pre (P := Sure (balanced nowhere)) ?_ ?_
  · rintro m l ⟨rfl, h⟩
    refine h.balanced_mono fun ho => hn fun hs => ?_
    simp [overrides, hs] at ho
  · refine Triple.bind (Q := fun _ => Under Always (Sure (balanced nowhere))) (triple_split ?_ ?_ ?_) fun _ => ?_
    · exact triple_post (fun _ _ _ h => h.of_off) Preserves.out
    · exact triple_post (fun _ _ _ h => h.of_fixing) Preserves.out
    · refine triple_pre (P := Sure never) (fun _ _ h => h.mono fun _ _ _ h => h.2.2.1) ?_
      exact triple_post (fun _ _ _ h => h.of_never) Preserves.out
    · refine Triple.bind (execute_actions_balanced fuel) fun _ => ?_
      refine Triple.bind (Preserves.out (m := net)) fun _ => triple_idle fun _ _ h => h

theorem update_modem_balanced (fuel : Nat) : Triple (Under Always (Sure (balanced S))) (update_modem fuel)
    (fun _ => Balanced) Balanced := by
  have hr {target : NetworkLteState} (ht : ∀ s, towards target s = none) {R : NetworkLteState → Prop} {n : Net}
      {l : List Entry} (h : Sure (balanced R) n l) : Sure (balanced (resting target)) n l :=
    h.balanced_mono fun _ => .inr (.inr (.inr (ht _)))
  refine Triple.bind (Preserves.out (m := net)) fun n => Triple.bind (Q := fun _ => Balanced) ?_ fun _ => ?_
  · refine Triple.ite (fun _ => triple_go fuel fun _ _ h => hr ?_ h) fun _ => triple_idle fun _ _ h => h
    intro s
    cases s <;> rfl
  · refine Triple.bind (Preserves.out (m := net)) fun n => Triple.ite (fun _ => triple_idle fun _ _ h => h) fun _ => ?_
    refine Triple.bind (Preserves.out (m := set_fColdBoot true)) fun _ => triple_go fuel fun _ _ h => hr ?_ h
    intro s
    cases s <;> rfl

theorem acquire_gnss_position_balanced (fuel : Nat) :
    Triple (Under Always (Sure (balanced fun s => overrides .acquire_gnss_position s = false)))
      (acquire_gnss_position fuel) (fun _ => Balanced) Balanced := by
  refine Triple.bind triple_net fun n => Triple.bind (Q := fun _ => Balanced) ?_ fun _ => ?_
  · refine Triple.ite (fun _ => triple_go fuel ?_) fun _ => triple_idle fun _ _ h => h.2
    rintro m l ⟨rfl, h⟩
    refine h.balanced_mono fun ho => ?_
    unfold resting
    by_cases hd : m.state_ = .done <;> by_cases hf : m.state_ = .modem_fota <;> simp_all [overrides]
  · refine Triple.bind (Preserves.out (m := net)) fun n => Triple.ite (fun _ => triple_idle fun _ _ h => h) fun _ => ?_
    exact Triple.bind (wait_for_fix_balanced fuel) fun _ => Preserves.out

theorem force_psm_balanced : Triple (Under Always (Sure (balanced S))) force_psm (fun _ => Balanced) Balanced := by
  have h1 : Preserves (Under Always (Sure (leaving anywhere))) (change_state .data_ready) Balanced :=
    ⟨change_state_sure (by decide) (by decide) fun _ _ _ h => ⟨h.1, by decide, trivial, h.2.2.2⟩⟩
  have h2 : Preserves (Under Always (Sure (leaving anywhere))) (change_state .idle_mode) Balanced :=
    ⟨change_state_sure (by decide) (by decide) fun _ _ _ h => ⟨h.1, by decide, trivial, h.2.2.2⟩⟩
  have h3 (b : Prop) [Decidable b] : Preserves (Under Always (Sure (leaving anywhere)))
      (change_state (if b then .data_ready else .idle_mode)) Balanced := by
    split <;> infer_instance
  have h4 : Preserves (Under Always (Sure (leaving anywhere))) force_psm Balanced := by
    unfold force_psm
    infer_instance
  have h5 : Preserves (Under Always (Sure off)) force_psm Balanced := by
    unfold force_psm
    infer_instance
  refine triple_split (triple_post (fun _ _ _ h => h.of_off) h5.out) ?_ ?_
  · refine Triple.bind triple_net fun n => Triple.ite (fun _ => triple_pure fun _ _ h => h.2.of_fixing) fun hn => ?_
    refine triple_pre (P := Sure never) ?_ (triple_post (fun _ _ _ h => h.of_never) Preserves.out)
    rintro m l ⟨rfl, h⟩
    refine ⟨h.1, fun hq => hn fun hd => ?_⟩
    cases (h.2 hq).2.symm.trans hd
  · refine triple_pre (P := Sure (leaving anywhere)) (fun _ _ h => h.mono fun _ _ _ h => ⟨h.1, h.2.1, trivial, h.2.2.2⟩) ?_
    exact triple_post (fun _ _ _ h => h.of_leaving) h4.out

theorem network_disconnect_on (b : Net) (hf : ∀ p s a, F p s a → p = true) :
    Triple (Under G fun n l => ∃ l', l = .called .network_disconnect b :: l' ∧ n.state_ = b.state_ ∧ Sure F n l)
      network_disconnect (fun _ => Under G (Sure F)) X := by
  have : Still G fun n l => ∃ l', l = .called .network_disconnect b :: l' ∧ n.state_ = b.state_ ∧ Sure F n l :=
    { move := fun n _ m ⟨l', hl, hs, h⟩ =>
        ⟨l', hl, (n.move_state_ m).trans hs, h.keep (n.move_state_ m) (n.move_modem_action_ m)⟩
      data := fun _ _ _ _ ⟨l', hl, hs, h⟩ => ⟨l', hl, hs, h.keep rfl rfl⟩ }
  refine Triple.bind (triple_send (R := fun status n l => (status = .ok → b.state_ ≠ .network_detached → Sure never n l) ∧
    n.state_ = b.state_ ∧ Sure F n l) ?_) fun status => ?_
  · rintro n l a - ⟨l', rfl, hs, h⟩
    refine ⟨fun ha hd => Sure.harmful ((h.mono hf).keep rfl rfl) rfl ?_, hs, (h.keep rfl rfl).note rfl rfl⟩
    simp [harmless, ha, hd]
  · refine Triple.ite (fun hs => ?_) fun _ => triple_pure fun _ _ h => h.2.2
    by_cases hd : b.state_ = .network_detached
    · refine triple_pre (P := In (· = .network_detached) (Sure F)) (fun n l h => ⟨h.2.1.trans hd, h.2.2⟩) ?_
      exact Triple.bind (change_state_same fun _ _ h => h.1) fun _ => triple_pure fun _ _ h => h.2
    · refine triple_pre (P := Sure never) (fun _ _ h => h.1 hs hd) ?_
      exact triple_post (fun _ _ _ h => h.of_never) Preserves.out

theorem Sure.called {n : Net} {l : List Entry} (h : Sure (balanced anywhere) n l) (hc : ∀ a, c ≠ .call_action a) :
    Sure (balanced fun s => overrides c s = false) n (.called c n :: l) := by
  refine ⟨(h.note rfl rfl : Sure _ n _).1, fun hq => ?_⟩
  rcases h.2 hq.2 with hb | hb | hb
  · exact .inl hb
  · exact .inr (.inl hb)
  · refine .inr (.inr ⟨hb.1, hb.2.1, ?_, hb.2.2.2⟩)
    have hk := hq.1 hb.1
    cases c with
    | call_action a => exact absurd rfl (hc a)
    | _ => simpa [harmless, hb.2.1] using hk

theorem triple_void {α : Type} {P Q : World → Prop} {m : Prog World α} (h : Triple P m (fun _ => Q) X) :
    Triple P (void m) (fun _ => Q) X :=
  Triple.bind h fun _ => Triple.pure fun _ h => h

theorem network_disconnect_balanced (fuel : Nat) :
    Triple Balanced (do let n ← net; record (.called .network_disconnect n); Call.exec fuel .network_disconnect)
      (fun _ => Balanced) Balanced := by
  have hd {F : Bool → NetworkLteState → ModemAction → Prop} (hf : ∀ p s a, F p s a → p = true) :
      Triple (Under Always (Sure F))
        (do let n ← net; record (.called .network_disconnect n); Call.exec fuel .network_disconnect)
        (fun _ => Under Always (Sure F)) Balanced := by
    refine Triple.bind triple_net fun b => Triple.bind (triple_record ?_) fun _ => triple_void (network_disconnect_on b hf)
    rintro n l - ⟨rfl, h⟩
    exact ⟨l, rfl, rfl, h.note rfl rfl⟩
  refine triple_split ?_ ?_ ?_
  · have : Preserves (Under Always (Sure off)) (Call.exec fuel .network_disconnect) Balanced := by
      unfold Call.exec void
      infer_instance
    exact triple_post (fun _ _ _ h => h.of_off) Preserves.out
  · exact triple_post (fun _ _ _ h => h.of_fixing) (hd fun _ _ _ h => h.1)
  · exact triple_post (fun _ _ _ h => h.of_leaving) (hd fun _ _ _ h => h.1)

theorem call_action_balanced (fuel : Nat) (a : ModemAction) :
    Triple Balanced (do let n ← net; record (.called (.call_action a) n); Call.exec fuel (.call_action a))
      (fun _ => Balanced) Balanced := by
  have hb (F : Bool → NetworkLteState → ModemAction → Prop) [Bare F] :
      Preserves (Under Always (Sure F)) (Call.exec fuel (.call_action a)) Balanced := by
    unfold Call.exec
    infer_instance
  refine triple_split ?_ ?_ ?_
  · exact triple_post (fun _ _ _ h => h.of_off) Preserves.out
  · exact triple_post (fun _ _ _ h => h.of_fixing) Preserves.out
  · by_cases ha : a = .leave_gnss_fix
    · subst ha
      refine triple_called (Q := Sure (leaving anywhere)) (fun n l _ h => h.note rfl rfl) (triple_updateNet ?_)
      exact fun n l h => Sure.of_leaving ⟨h.1, fun hq => ⟨(h.2 hq).1, (h.2 hq).2.1, trivial, rfl⟩⟩
    · refine triple_called (Q := Sure never) (fun n l _ h => ?_) (triple_post (fun _ _ _ h => h.of_never) (hb never).out)
      by_cases hq : Quiet l
      · refine Sure.harmful (h.mono fun _ _ _ h => h.1) rfl ?_
        simp [harmless, ha, (h.2 hq).2.1]
      · exact ⟨(h.note rfl rfl : Sure _ n _).1, fun hl => hq hl.2⟩

theorem call_balanced (fuel : Nat) (c : Call) :
    Triple Balanced (do let n ← net; record (.called c n); c.exec fuel) (fun _ => Balanced) Balanced := by
  cases c
  case network_disconnect => exact network_disconnect_balanced fuel
  case call_action a => exact call_action_balanced fuel a
  case loop target =>
    refine triple_called (fun n l _ h => h.called nofun) (triple_void ?_)
    exact triple_post (fun _ _ _ h => h.balanced_mono fun _ => trivial) (loop_balanced fuel target)
  case network_connect =>
    exact triple_called (fun n l _ h => h.called nofun) (triple_void (network_connect_balanced fuel))
  case force_psm => exact triple_called (fun n l _ h => h.called nofun) (triple_void force_psm_balanced)
  case enter_sleep => exact triple_called (fun n l _ h => h.called nofun) (triple_void (enter_sleep_balanced fuel))
  case enter_transparent_mode =>
    exact triple_called (fun n l _ h => h.called nofun) (triple_void (enter_transparent_mode_balanced fuel))
  case exit_transparent_mode =>
    exact triple_called (fun n l _ h => h.called nofun) (triple_void (exit_transparent_mode_balanced fuel))
  case leave_transparent_mode =>
    exact triple_called (fun n l _ h => h.called nofun) (triple_void (leave_transparent_mode_balanced fuel))
  case update_modem => exact triple_called (fun n l _ h => h.called nofun) (triple_void (update_modem_balanced fuel))
  case acquire_gnss_position =>
    exact triple_called (fun n l _ h => h.called nofun) (triple_void (acquire_gnss_position_balanced fuel))
  all_goals
    refine triple_called (Q := Sure (balanced anywhere)) (fun n l _ h => h.note rfl rfl) ?_
    exact (exec_calm fuel rfl).out

end Calls

theorem run_balanced (fuel : Nat) (calls : List Call) : Preserves Balanced (run fuel calls) :=
  run_preserves fuel (fun c => ⟨call_balanced fuel c⟩) calls

/-- For every run: at the end of a call in which every step that found the receiver on was harmless, a receiver
that `enter_gnss_fix` left on is in use or about to be switched off. -/
theorem gnss_power_balanced (config : NetworkLteConfig) (with_timer : Bool) (env : Nat → Tick) (fuel : Nat)
    (calls : List Call) :
    let w := (run fuel calls (initial config with_timer env)).2
    Quiet w.log → powered w.log = true →
      w.net.state_ = .gnss_fix_mode ∨ w.net.modem_action_ = .leave_gnss_fix := by
  intro w hq hp
  have h : Sure (balanced anywhere) w.net w.log := (run_balanced fuel calls).final (s := initial config with_timer env)
    (fun _ => ⟨rfl, fun _ => .inl rfl⟩) fun _ _ => trivial
  rcases h.2 hq with hb | hb | hb
  · rw [hp] at hb
    cases hb
  · exact .inl hb.2
  · exact .inr hb.2.2.2

theorem gnss_power_balanced_searching :
    let w := (run 9 [.call_action .power_on, .loop, .call_action .enter_gnss_fix, .loop, .loop]
      (initial {} false (script [(17, "$GPSP: 0")] [(23, "$GPGSA,A,1")]))).2
    powered w.log = true ∧ (w.net.state_ = .gnss_fix_mode ∨ w.net.modem_action_ = .leave_gnss_fix) :=
  ⟨by decide +kernel, gnss_power_balanced _ _ _ _ _ (by decide +kernel) (by decide +kernel)⟩

/-- The modem is silent once, when it is asked for the position. -/
def lostPosition : Nat → Tick := fun i =>
  { script [(18, "$GPSP: 0")] [(25, "$GPGSA,A,3,04,05,,09,12,,,24,,,,,2.5,1.3,2.1*39")] i with
    status := if i = 29 then .timeout else .ok }

/-- The check of the modem goes on from `idle_mode`, with the receiver on. -/
theorem recovery_leaves_receiver_on :
    let w := (run 9 [.acquire_gnss_position] (initial {} false lostPosition)).2
    powered w.log = true ∧ w.net.state_ = .idle_mode ∧ w.net.modem_action_ = .query_network_status := by
  decide +kernel

end LteModem.NetworkLte.GnssPower
