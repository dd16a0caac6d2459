import LteModem.NetworkLte.Frame

/-!
# A waiting machine has something to wait for

Each branch of an action and of an event that ends in a waiting state has to leave an action, an event or
an armed timer behind. Most do. The branches on a refused command, and some events, leave nothing.
-/

open Prog Strings

set_option synthInstance.maxSize 100000

namespace LteModem.NetworkLte.NoStall

/-! ## A way forward -/

def waiting : NetworkLteState → Bool
  | .rebooting | .idle_mode | .network_detached | .network_attaching | .pdp_context_closed
  | .pdp_context_opening => true
  | _ => false

/-- The state timer runs, and it will raise the timeout event. -/
def armed (n : Net) : Bool := n.st_timer.running && n.st_timer.cb.any (·.raises)

def wayForward (n : Net) : Bool :=
  waiting n.state_ → n.modem_action_ ≠ .none ∨ n.event_ ≠ .none ∨ armed n

def endsOk : Entry → Bool
  | .loopEnd n => wayForward n
  | _ => true

def EndsOk (l : List Entry) : Prop := ∀ e ∈ l, endsOk e = true

instance (l : List Entry) : Decidable (EndsOk l) := inferInstanceAs (Decidable (∀ e ∈ l, endsOk e = true))

/-! ## The condition -/

/-- As `wayForward`, or a timer has expired and its callback is about to raise the event. -/
def live (n : Net) : Bool :=
  waiting n.state_ → n.modem_action_ ≠ .none ∨ n.event_ ≠ .none ∨ armed n ∨ n.callbacks ≠ []

/-- The events after which the machine moves on. -/
def eventDrives (e : NetworkLteEvent) (after : Net) (h : Heard) : Bool :=
  match e with
  | .timeout | .psm_enter | .attach_error | .at_command_no_response => true
  | .network_detached | .context_closed => after.state_ ≠ .network_detached
  | .gps_available => h = .fix true
  | _ => false

/-- The actions after which the machine moves on, by what the modem answered. -/
def drives (a : ModemAction) (before : Net) (h : Heard) : Bool :=
  match a, h with
  | .none, _ | .factory_reset, _ | .send_data, _ | .read_data, _ | .data_complete, _ => false
  | .reboot, h => h = .status .ok ∨ h = .status .timeout
  | .switch_off_radio, _ => before.lteConfig.fCfunSleep
  | .setup_radio, .setup bands tech => bands = some .ok ∨ tech = some .ok
  | .query_network_status, .registration status stat =>
    status = .timeout ∨ status = .ok ∧
      (stat = .registered_home ∨ stat = .registered_roaming ∨ before.state_ ≠ .network_detached ∧
        (stat = .denied ∨ stat = .not_registered ∨ stat = .searching ∨ stat = .unknown))
  | .attach_network, .attach changed => changed = true ∨ before.state_ ≠ .network_attaching
  | .query_pdp_context, .pdp status active ip => status = .ok ∧ (active = true → ip = .ok)
  | .open_pdp_context, h => h = .status .ok
  | _, _ => true

/-- No step that takes the last thing the machine waits for leaves it where it is. `psm_exit` and the other
events that nothing raises do not occur. -/
def moving : Entry → Bool
  | .handled t h => t.dropped = .none ∨ live t.after ∨ eventDrives t.event t.after h
  | .ran a before h => a = .none ∨ live before ∨ drives a before h
  | .searched offers n => offers.any Offer.grants ∨ 0 < n.lteConfig.data_ready_timeout_sec
  | .called (.call_action a) _ => a ≠ .none
  | .loopEnd n => waiting n.state_ → n.callbacks = []
  | _ => true

def Moving (e : Entry) : Prop := moving e = true

instance : DecidablePred Moving := fun e => inferInstanceAs (Decidable (moving e = true))

/-! ## The invariant -/

/-- The events that the machine raises. -/
def raised : NetworkLteEvent → Bool
  | .psm_exit | .network_attached | .context_opened | .attach_started | .pdp_opening | .network_error
  | .context_error => false
  | _ => true

/-- A timer that will raise nothing runs only where the machine does not wait. -/
def Loud (n : Net) : Prop :=
  n.st_timer.running = true →
    armed n = true ∨ n.state_ = .data_ready ∨ n.state_ = .sleep_mode ∨ n.state_ = .off_mode

/-- The machine is live where `c`. -/
structure Kept (c : Prop) (n : Net) (l : List Entry) : Prop where
  loud : Loud n
  event : raised n.event_ = true
  ends : EndsOk l
  forward : c → live n = true

abbrev Inv : Net → List Entry → Prop := Kept True

variable {c : Prop} {n : Net} {l : List Entry}

theorem live_iff : live n = true ↔
    (waiting n.state_ = true → n.modem_action_ ≠ .none ∨ n.event_ ≠ .none ∨ armed n = true ∨ n.callbacks ≠ []) :=
  decide_eq_true_iff

theorem live_of_state (h : waiting n.state_ = false) : live n = true := by simp [live, h]
theorem live_of_action (h : n.modem_action_ ≠ .none) : live n = true := by simp [live, h]
theorem live_of_event (h : n.event_ ≠ .none) : live n = true := by simp [live, h]
theorem live_of_armed (h : armed n = true) : live n = true := by simp [live, h]

theorem EndsOk.cons {e : Entry} (h : EndsOk l) (he : endsOk e = true) : EndsOk (e :: l) :=
  List.forall_mem_cons.mpr ⟨he, h⟩

theorem Kept.note {e : Entry} (h : Kept c n l) (he : endsOk e = true) : Kept c n (e :: l) :=
  ⟨h.loud, h.event, h.ends.cons he, h.forward⟩

theorem Kept.imp {d : Prop} (h : Kept c n l) (hd : d → c) : Kept d n l :=
  ⟨h.loud, h.event, h.ends, fun hc => h.forward (hd hc)⟩

theorem Kept.of_live (h : Kept c n l) (hl : live n = true) : Inv n l := ⟨h.loud, h.event, h.ends, fun _ => hl⟩

/-! ## The timer thread -/

theorem put_callbacks (n : Net) (cb : Option Callback) (h : n.callbacks ≠ []) : (n.put cb).callbacks ≠ [] := by
  simp [Net.put, h]

theorem expire_armed (h : armed n = true) : (n.move .expire_state_timer).callbacks ≠ [] := by
  unfold armed at h
  obtain ⟨hr, cb, hcb, hc⟩ : n.st_timer.running = true ∧ ∃ cb, n.st_timer.cb = some cb ∧ cb.raises = true := by
    simpa [Option.any_eq_true] using h
  simp [Net.move, Net.put, Timer.expire, hr, hcb, hc]

theorem move_armed (m : Net.Move) (h : armed n = true) : armed (n.move m) = true ∨ (n.move m).callbacks ≠ [] := by
  cases m with
  | expire_state_timer => exact .inr (expire_armed h)
  | expire_timer =>
    refine .inl ?_
    dsimp only [Net.move]
    split <;> exact h
  | callback i =>
    refine .inl ?_
    dsimp only [Net.move]
    split <;> exact h

theorem move_callbacks (m : Net.Move) (h : n.callbacks ≠ []) :
    (n.move m).callbacks ≠ [] ∨ (n.move m).event_ = .timeout := by
  cases m with
  | expire_state_timer => exact .inl (put_callbacks _ _ h)
  | expire_timer =>
    refine .inl ?_
    dsimp only [Net.move]
    split
    · exact h
    · exact put_callbacks _ _ h
  | callback i =>
    dsimp only [Net.move]
    split
    · exact .inl h
    · exact .inr rfl

theorem move_live (m : Net.Move) (h : live n = true) : live (n.move m) = true := by
  rw [live_iff] at h ⊢
  intro hw
  rcases h (by simpa using hw) with h | h | h | h
  · exact .inl (by simpa using h)
  · rcases n.move_event_ m with he | he
    · exact .inr (.inl (by rwa [he]))
    · exact .inr (.inl (by simp [he]))
  · exact .inr (.inr (move_armed m h))
  · rcases move_callbacks m h with h | h
    · exact .inr (.inr (.inr h))
    · exact .inr (.inl (by simp [h]))

theorem move_loud (m : Net.Move) (h : Loud n) : Loud (n.move m) := by
  intro hr
  have ht := n.move_st_timer m hr
  rw [ht] at hr
  simpa [armed, ht] using h hr

theorem move_raised (m : Net.Move) (h : raised n.event_ = true) : raised (n.move m).event_ = true := by
  rcases n.move_event_ m with he | he
  · rwa [he]
  · rw [he]; rfl

theorem Kept.move (m : Net.Move) (h : Kept c n l) : Kept c (n.move m) l :=
  ⟨move_loud m h.loud, move_raised m h.event, h.ends, fun hc => move_live m (h.forward hc)⟩

instance : Blind (Kept c) := ⟨fun _ _ _ h => ⟨h.loud, h.event, h.ends, h.forward⟩⟩

instance : Stable Moving (Kept c) where
  move _ _ m h := h.move m
  data _ _ _ _ h := ⟨h.loud, h.event, h.ends, h.forward⟩
  other _ _ _ _ _ _ h := ⟨h.loud, h.event, h.ends.cons rfl, h.forward⟩
  prompt _ _ _ _ _ _ h := h.note rfl

/-! ## change_state -/

section Steps

variable {X : World → Prop} {s : NetworkLteState}

theorem call_action_spec {a : ModemAction} (ha : a ≠ .none) :
    Triple (Under Moving (Kept c)) (call_action a) (fun _ => Under Moving Inv) X :=
  triple_updateNet fun _ _ h => ⟨h.loud, h.event, h.ends, fun _ => live_of_action ha⟩

theorem on_event_spec {S : NetworkLteState → Prop} {e : NetworkLteEvent} (he : e ≠ .none) (hr : raised e = true) :
    Triple (Under Moving (In S (Kept c))) (on_event e) (fun _ => Under Moving (In S Inv)) X :=
  Triple.bind (Preserves.out (m := tick)) fun _ =>
    triple_updateNet fun _ _ h => ⟨h.1, h.2.loud, hr, h.2.ends, fun _ => live_of_event he⟩

/-- In `s`, with a timer that is armed if it runs, or else of a state that had one where `d`. -/
def Passing (s : NetworkLteState) (d : Prop) (n : Net) (l : List Entry) : Prop :=
  n.state_ = s ∧ (n.st_timer.running = true → armed n = true ∨ d) ∧ raised n.event_ = true ∧ EndsOk l

instance (d : Prop) : Blind (Passing s d) := ⟨fun _ _ _ h => h⟩

instance (d : Prop) : Stable Moving (Passing s d) where
  move n l m h := by
    refine ⟨by simpa using h.1, fun hr => ?_, move_raised m h.2.2.1, h.2.2.2⟩
    have ht := n.move_st_timer m hr
    rw [ht] at hr
    simpa [armed, ht] using h.2.1 hr
  data _ _ _ _ h := h
  other _ _ _ _ _ _ h := ⟨h.1, h.2.1, h.2.2.1, h.2.2.2.cons rfl⟩
  prompt _ _ _ _ _ _ h := ⟨h.1, h.2.1, h.2.2.1, h.2.2.2.cons rfl⟩

theorem leave_state_spec (prev : NetworkLteState) :
    Triple (Under Moving (Passing s (prev.timed = true))) (leave_state prev)
      (fun _ => Under Moving (Passing s False)) X := by
  refine Triple.ite (fun _ => ?_) fun hp => triple_pure fun n l h => ?_
  · refine Triple.bind (Preserves.out (m := state_timer_elapsed)) fun _ => ?_
    refine Triple.bind (Preserves.out (m := updateData _)) fun _ => ?_
    refine triple_stop_state_timer (Still.move Moving) fun n l h => ?_
    exact ⟨h.1, fun hr => by simp at hr, h.2.2⟩
  · exact ⟨h.1, fun hr => .inl ((h.2.1 hr).resolve_right hp), h.2.2⟩

def Timed (s : NetworkLteState) : Prop := s = .network_attaching ∨ s = .pdp_context_opening ∨ waiting s = false

theorem entryTimer_silent {c : NetworkLteConfig} {t : Nat} (h : entryTimer c s = some (t, false)) :
    s = .data_ready ∨ s = .sleep_mode ∨ s = .off_mode := by
  cases s <;> simp [entryTimer] at h ⊢

theorem start_spec {cfg : NetworkLteConfig} {timeout_ms : Nat} {raises : Bool}
    (ht : entryTimer cfg s = some (timeout_ms, raises)) :
    Triple (Under Moving (Passing s False)) (start_state_timer timeout_ms raises)
      (fun _ => Under Moving (Kept (Timed s))) X := by
  refine triple_start_state_timer (Still.move Moving) fun n l now h => ?_
  by_cases hr : n.st_timer.running = true
  · have ha : armed n = true := (h.2.1 hr).resolve_right id
    simp only [Timer.start, hr, if_true]
    exact ⟨fun _ => .inl ha, h.2.2.1, h.2.2.2, fun _ => live_of_armed ha⟩
  · rw [Timer.start_of_stopped _ _ _ _ (by simpa using hr)]
    cases raises with
    | true => exact ⟨fun _ => .inl rfl, h.2.2.1, h.2.2.2, fun _ => live_of_armed rfl⟩
    | false =>
      have hs := h.1 ▸ entryTimer_silent ht
      refine ⟨fun _ => .inr hs, h.2.2.1, h.2.2.2, fun _ => live_of_state ?_⟩
      rcases hs with hs | hs | hs <;> simp [hs, waiting]

theorem enter_timer_spec :
    Triple (Under Moving (Passing s False)) (enter_timer s) (fun _ => Under Moving (Kept (Timed s))) X := by
  refine Triple.bind (Preserves.out (m := net)) fun m => ?_
  rcases ht : entryTimer m.lteConfig s with _ | ⟨timeout_ms, raises⟩
  · refine triple_pure fun n l h => ⟨fun hr => ?_, h.2.2.1, h.2.2.2, fun hs => ?_⟩
    · exact .inl ((h.2.1 hr).resolve_right id)
    · rcases hs with hs | hs | hs
      · simp [hs, entryTimer] at ht
      · simp [hs, entryTimer] at ht
      · exact live_of_state (h.1 ▸ hs)
  · exact Triple.bind (start_spec ht) fun _ => triple_record fun _ _ _ h => h.note rfl

def Stirs (s : NetworkLteState) : Prop := s ≠ .idle_mode ∧ s ≠ .rebooting

instance : Preserves (Under Moving (Kept c)) reset_servers X :=
  ⟨triple_updateNet fun _ _ h => ⟨h.loud, h.event, h.ends, h.forward⟩⟩

theorem enter_state_spec :
    Triple (Under Moving (Passing s False)) (enter_state s) (fun _ => Under Moving (Kept (Stirs s))) X := by
  refine Triple.bind (Preserves.out (m := Prog.when _ refresh_info)) fun _ => ?_
  refine Triple.bind enter_timer_spec fun _ => ?_
  have ha (a : ModemAction) (ha : a ≠ .none) :
      Triple (Under Moving (Kept (Timed s))) (call_action a) (fun _ => Under Moving (Kept (Stirs s))) X :=
    triple_post (fun _ _ _ h => h.imp fun _ => trivial) (call_action_spec ha)
  refine Triple.ite (fun _ => ?_) fun hd => Triple.ite (fun _ => ?_) fun hp => ?_
  · exact Triple.bind Preserves.out fun _ => Triple.bind Preserves.out fun _ => ha _ (by decide)
  · exact Triple.bind Preserves.out fun _ => Triple.bind Preserves.out fun _ => ha _ (by decide)
  · refine triple_pure fun _ _ h => h.imp fun hs => ?_
    cases s <;> simp_all [Stirs, Timed, waiting]

theorem triple_change {P Q : Net → List Entry → Prop} [Stable Moving P] [Untimed P]
    (kept : ∀ n l, P n l → Kept False n l)
    (same : ∀ n l, P n l → n.state_ = s → Q n l) (entered : ∀ n l, Kept (Stirs s) n l → Q n l) :
    Triple (Under Moving P) (change_state s) (fun _ => Under Moving Q) X := by
  refine triple_change_state (A := fun prev => Passing s (prev.timed = true)) (B := Passing s False)
    (C := Passing s False) same ?_ (fun prev _ => leave_state_spec prev) ?_ ?_
  · intro n l h _
    have hk := kept n l h
    refine ⟨rfl, fun hr => (hk.loud hr).imp_right fun hs => ?_, hk.event, hk.ends⟩
    rcases hs with hs | hs | hs <;> rw [hs] <;> rfl
  · exact fun n l _ h => ⟨h.1, h.2.1, h.2.2.1, h.2.2.2.cons rfl⟩
  · exact triple_post (fun _ => entered) enter_state_spec

theorem change_state_spec (s : NetworkLteState) :
    Triple (Under Moving (Kept c)) (change_state s)
      (fun _ => Under Moving (Kept (waiting s = false ∨ c ∧ Stirs s))) X := by
  refine triple_change (fun n l h => h.imp False.elim) (fun n l h hs => ?_) fun n l h => h.imp ?_
  · refine ⟨h.loud, h.event, h.ends, fun hc => ?_⟩
    rcases hc with hc | hc
    · exact live_of_state (hs ▸ hc)
    · exact h.forward hc.1
  · rintro (h | h)
    · cases s <;> simp_all [Stirs, waiting]
    · exact h.2

theorem change_state_from (hs : Stirs s) :
    Triple (Under Moving (In (· ≠ s) (Kept c))) (change_state s) (fun _ => Under Moving Inv) X :=
  triple_change (fun _ _ h => h.2.imp False.elim) (fun _ _ h he => absurd he h.1) fun _ _ h => h.imp fun _ => hs

theorem change_state_on (hs : waiting s = false) :
    Triple (Under Moving (Kept c)) (change_state s) (fun _ => Under Moving Inv) X :=
  triple_post (fun _ _ _ h => h.imp fun _ => .inl hs) (change_state_spec s)

/-! ## The actions -/

variable {S : NetworkLteState → Prop}

theorem of_inv {α : Type} {m : Prog World α} {P : World → Prop} {d : α → Prop}
    (h : Triple P m (fun _ => Under Moving Inv) X) : Triple P m (fun a => Under Moving (Kept (d a))) X :=
  triple_post (fun _ _ _ h => h.imp fun _ => trivial) h

instance (cmd : AtCmd) : Preserves (Under Moving (Kept c)) (exchange cmd) X :=
  exchange_preserves fun _ _ _ _ h => ⟨h.loud, h.event, h.ends.cons rfl, h.forward⟩
instance (cmd : AtCmd) : Preserves (Under Moving (In S (Kept c))) (exchange cmd) X :=
  exchange_preserves fun _ _ _ _ h => ⟨h.1, h.2.loud, h.2.event, h.2.ends.cons rfl, h.2.forward⟩
instance (b : Bool) : Preserves (Under Moving (Kept c)) (set_fColdBoot b) X :=
  ⟨triple_updateNet fun _ _ h => ⟨h.loud, h.event, h.ends, h.forward⟩⟩
instance (b : Bool) : Preserves (Under Moving (Kept c)) (set_fWarmBoot b) X :=
  ⟨triple_updateNet fun _ _ h => ⟨h.loud, h.event, h.ends, h.forward⟩⟩
instance (status : ModemStatus) : Preserves (Under Moving (Kept c)) (set_last_status status) X :=
  ⟨triple_updateNet fun _ _ h => ⟨h.loud, h.event, h.ends, h.forward⟩⟩
instance (cfg : NetworkLteConfig) : Preserves (Under Moving (Kept c)) (apply_boot_configuration cfg) X := by
  unfold apply_boot_configuration; infer_instance
instance (b : Bool) : Preserves (Under Moving (Kept c)) (xE310.set_gnss_power b) X := by
  unfold xE310.set_gnss_power; infer_instance
instance (b : Bool) : Preserves (Under Moving (Kept c)) (switch_on_gnss b) X := by
  unfold switch_on_gnss; infer_instance

theorem change_then_call {α : Type} {a : ModemAction} {m : Prog World α} [Preserves (Under Moving Inv) m X]
    (ha : a ≠ .none) :
    Triple (Under Moving (Kept c)) (do change_state s; call_action a; m) (fun _ => Under Moving Inv) X :=
  Triple.bind (change_state_spec s) fun _ => Triple.bind (call_action_spec ha) fun _ => Preserves.out

theorem check_status_response_spec (status : ModemStatus) :
    Triple (Under Moving (In S (Kept c))) (check_status_response status)
      (fun ok => Under Moving fun n l =>
        ok = decide (status = .ok) ∧ In S (Kept (c ∨ status = .timeout)) n l) X := by
  refine Triple.ite (fun hs => ?_) fun hs => Triple.ite (fun ht => ?_) fun ht => ?_
  · refine triple_pure fun _ _ h => ⟨by simp [hs], h.1, h.2.imp ?_⟩
    simp [hs]
  · refine Triple.bind (on_event_spec (by decide) rfl) fun _ => triple_pure fun _ _ h => ?_
    exact ⟨by simp [hs], h.1, h.2.imp fun _ => trivial⟩
  · refine triple_pure fun _ _ h => ⟨by simp [hs], h.1, h.2.imp ?_⟩
    simp [ht]

theorem reboot_spec (before : Net) :
    Triple (Under Moving (Kept c)) reboot
      (fun h => Under Moving (Kept (c ∨ drives .reboot before h = true))) X := by
  refine triple_pre (P := In (fun _ => True) (Kept c)) ?_ ?_
  · exact fun _ _ h => ⟨trivial, h⟩
  · refine Triple.bind Preserves.out fun status => Triple.bind (check_status_response_spec status) fun ok => ?_
    refine Triple.ite (fun _ => ?_) fun hok => ?_
    · refine triple_pre (fun _ _ h => h.2.2) (of_inv ?_)
      exact change_then_call (by decide)
    · refine triple_pure fun n l h => h.2.2.imp ?_
      have hs : status ≠ .ok := by simpa [h.1] using hok
      simp [drives, hs]

theorem check_responsiveness_spec [CutTo (Under Moving (Kept c)) X] (fuel : Nat) :
    Triple (Under Moving (Kept c)) (check_responsiveness fuel) (fun _ => Under Moving Inv) X := by
  induction fuel with
  | zero => exact Triple.cutOff CutTo.out
  | succ fuel ih =>
    refine Triple.bind Preserves.out fun status => Triple.ite (fun _ => ih) fun _ => ?_
    exact change_then_call (by decide)

theorem power_on_spec : Triple (Under Moving (Kept c)) power_on (fun _ => Under Moving Inv) X := by
  refine Triple.bind Preserves.out fun _ => Triple.bind Preserves.out fun _ => Triple.bind Preserves.out fun _ => ?_
  refine Triple.ite (fun _ => ?_) fun _ => Triple.bind Preserves.out fun _ => ?_
  · exact Triple.bind (change_state_on rfl) fun _ => Preserves.out
  · exact change_then_call (by decide)

theorem wake_up_spec : Triple (Under Moving (Kept c)) wake_up (fun _ => Under Moving Inv) X := by
  refine Triple.bind (Preserves.out (m := net)) fun _ => Triple.ite (fun _ => ?_) fun _ => ?_
  · exact change_then_call (by decide)
  · refine Triple.bind Preserves.out fun _ => ?_
    exact change_then_call (by decide)

theorem switch_off_radio_spec (before : Net) :
    Triple (Under Moving fun n l => n = before ∧ Kept c n l) switch_off_radio
      (fun h => Under Moving (Kept (c ∨ drives .switch_off_radio before h = true))) X := by
  have hs : Preserves (Under Moving (Kept c)) xE310.shutdown X := by unfold xE310.shutdown; infer_instance
  refine Triple.bind triple_net fun n => Triple.ite (fun _ => ?_) fun hn => ?_
  · refine triple_pre (fun _ _ h => h.2.2) (of_inv ?_)
    refine Triple.bind Preserves.out fun _ => Triple.bind Preserves.out fun _ => ?_
    exact Triple.bind (change_state_on rfl) fun _ => Preserves.out
  · refine triple_pure fun m l h => h.2.2.imp ?_
    have hb : before.lteConfig.fCfunSleep = false := by simpa [← h.1, h.2.1] using hn
    simp [drives, hb]

theorem setup_radio_spec (before : Net) :
    Triple (Under Moving (Kept c)) setup_radio
      (fun h => Under Moving (Kept (c ∨ drives .setup_radio before h = true))) X := by
  refine Triple.bind (Preserves.out (m := net)) fun n => Triple.ite (fun _ => ?_) fun _ => ?_
  · refine Triple.bind Preserves.out fun bands => Triple.bind Preserves.out fun tech => ?_
    refine Triple.bind (Q := fun _ => Under Moving (Kept (c ∨ bands = some .ok ∨ tech = some .ok))) ?_ fun _ => ?_
    · refine Triple.when (fun _ => of_inv (call_action_spec (by decide))) fun hn w => ?_
      exact Under.mono fun _ _ h => h.imp fun hc => hc.resolve_right hn
    · exact triple_pure fun _ _ h => h.imp fun hc => hc.imp_right of_decide_eq_true
  · refine Triple.bind Preserves.out fun _ => of_inv ?_
    exact change_then_call (by decide)

theorem query_network_status_spec (before : Net) :
    Triple (Under Moving (In (· = before.state_) (Kept c))) query_network_status
      (fun h => Under Moving (Kept (c ∨ drives .query_network_status before h = true))) X := by
  refine Triple.bind (Preserves.out (m := net)) fun n => Triple.bind Preserves.out fun r => ?_
  refine Triple.bind Preserves.out fun _ => Triple.bind (check_status_response_spec r.1) fun ok => ?_
  let Answered (n : Net) (l : List Entry) : Prop :=
    ok = decide (r.1 = .ok) ∧ In (· = before.state_) (Kept (c ∨ r.1 = .timeout)) n l
  -- the branches that do nothing
  have hn (h : ¬ ok = true ∨ drives .query_network_status before (.registration .ok r.2.stat) = false) :
      Triple (Under Moving Answered) (pure (.registration r.1 r.2.stat))
        (fun h => Under Moving (Kept (c ∨ drives .query_network_status before h = true))) X := by
    refine triple_pure fun n l ha => ha.2.2.imp ?_
    by_cases hs : r.1 = .ok
    · have hd := h.resolve_left (by simp [ha.1, hs])
      simp [hs, hd]
    · simp [drives, hs]
  refine Triple.ite (fun hok => hn (.inl (by simpa using hok))) fun hok => ?_
  refine Triple.ite (fun hs => ?_) fun hs => Triple.ite (fun _ => ?_) fun hr => ?_
  · by_cases hb : before.state_ = .network_detached
    · refine Triple.bind (Q := fun _ => Under Moving Answered) ?_ fun _ => hn (.inr ?_)
      · exact change_state_same fun n l h => h.2.1.trans hb
      · rcases hs with hs | hs | hs | hs <;> simp [drives, hs, hb]
    · refine triple_pre (P := In (· ≠ .network_detached) (Kept c)) ?_ (of_inv ?_)
      · exact fun n l h => ⟨h.2.1 ▸ hb, h.2.2.imp .inl⟩
      · exact Triple.bind (change_state_from ⟨by decide, by decide⟩) fun _ => Preserves.out
  · refine triple_pre (fun _ _ h => h.2.2) (of_inv ?_)
    exact Triple.bind (call_action_spec (by decide)) fun _ => Preserves.out
  · refine hn (.inr ?_)
    simp only [not_or] at hs hr
    simp [drives, hs, hr]

theorem start_attach_spec (before : Net) :
    Triple (Under Moving (In (· = before.state_) (Kept c))) start_attach
      (fun h => Under Moving (Kept (c ∨ drives .attach_network before h = true))) X := by
  refine Triple.bind (Preserves.out (m := net)) fun n => Triple.ite (fun _ => ?_) fun _ => ?_
  · refine triple_pre (fun _ _ h => h.2) (of_inv ?_)
    exact Triple.bind (call_action_spec (by decide)) fun _ => Preserves.out
  · by_cases hb : before.state_ = .network_attaching
    · refine Triple.bind (change_state_same fun n l h => h.1.trans hb) fun _ => ?_
      refine Triple.bind Preserves.out fun _ => Triple.bind Preserves.out fun _ => ?_
      refine triple_pure fun n l h => h.2.imp ?_
      simp [drives, hb]
    · refine triple_pre (P := In (· ≠ .network_attaching) (Kept c)) ?_ (of_inv ?_)
      · exact fun n l h => ⟨h.1 ▸ hb, h.2⟩
      · exact Triple.bind (change_state_from ⟨by decide, by decide⟩) fun _ => Preserves.out

theorem attach_network_spec (before : Net) :
    Triple (Under Moving (In (· = before.state_) (Kept c))) attach_network
      (fun h => Under Moving (Kept (c ∨ drives .attach_network before h = true))) X := by
  refine Triple.bind Preserves.out fun _ => Triple.bind (Preserves.out (m := net)) fun n => ?_
  refine Triple.ite (fun _ => ?_) fun _ => Triple.ite (fun _ => ?_) fun _ => of_inv ?_
  · exact Triple.bind Preserves.out fun _ => start_attach_spec before
  · exact Triple.bind Preserves.out fun _ => start_attach_spec before
  · refine Triple.bind (on_event_spec (by decide) rfl) fun _ => ?_
    exact triple_pre (fun _ _ h => h.2) Preserves.out

theorem query_pdp_context_spec (before : Net) :
    Triple (Under Moving (Kept c)) query_pdp_context
      (fun h => Under Moving (Kept (c ∨ drives .query_pdp_context before h = true))) X := by
  refine Triple.bind (Preserves.out (m := net)) fun n => Triple.bind Preserves.out fun pdp => ?_
  refine Triple.ite (fun hs => ?_) fun _ => Triple.ite (fun _ => of_inv (change_then_call (by decide))) fun ha => ?_
  · refine triple_pure fun n l h => h.imp ?_
    simp [drives, hs]
  · refine Triple.bind Preserves.out fun ip => Triple.bind Preserves.out fun _ => ?_
    refine Triple.ite (fun hi => ?_) fun _ => ?_
    · refine triple_pure fun n l h => h.imp ?_
      simp only [Bool.not_eq_true', Bool.not_eq_false] at ha
      simp [drives, ha, hi]
    · exact of_inv (Triple.bind (change_state_on rfl) fun _ => Preserves.out)

theorem open_pdp_context_spec (before : Net) :
    Triple (Under Moving (Kept c)) open_pdp_context
      (fun h => Under Moving (Kept (c ∨ drives .open_pdp_context before h = true))) X := by
  refine Triple.bind (Preserves.out (m := net)) fun n => Triple.bind Preserves.out fun status => ?_
  refine Triple.ite (fun _ => of_inv (Triple.bind (change_state_on rfl) fun _ => Preserves.out)) fun hs => ?_
  refine triple_pure fun n l h => h.imp ?_
  simp [drives, hs]

theorem enter_transparent_mode_spec :
    Triple (Under Moving (Kept c)) enter_transparent_mode_action (fun _ => Under Moving Inv) X :=
  Triple.bind (change_state_on rfl) fun _ => Preserves.out

theorem leave_transparent_mode_spec :
    Triple (Under Moving (Kept c)) leave_transparent_mode_action (fun _ => Under Moving Inv) X :=
  Triple.bind Preserves.out fun _ => Triple.bind Preserves.out fun _ => change_then_call (by decide)

theorem enter_gnss_fix_spec : Triple (Under Moving (Kept c)) enter_gnss_fix (fun _ => Under Moving Inv) X := by
  refine Triple.bind Preserves.out fun _ => Triple.bind Preserves.out fun _ => Triple.bind Preserves.out fun _ => ?_
  refine Triple.bind Preserves.out fun status => Triple.ite (fun _ => ?_) fun _ => ?_
  · exact Triple.bind (call_action_spec (by decide)) fun _ => Preserves.out
  · exact Triple.bind (change_state_on rfl) fun _ => Preserves.out

theorem leave_gnss_fix_spec : Triple (Under Moving (Kept c)) leave_gnss_fix (fun _ => Under Moving Inv) X :=
  Triple.bind Preserves.out fun _ => Triple.bind Preserves.out fun _ => change_then_call (by decide)

section Snapshot

variable {before : Net} {m : Prog World Heard} {R : Heard → World → Prop}

theorem anyhow (h : Triple (Under Moving (Kept c)) m R X) :
    Triple (Under Moving fun n l => n = before ∧ Kept c n l) m R X :=
  triple_pre (fun _ _ h => h.2) h

theorem by_state (h : Triple (Under Moving (In (· = before.state_) (Kept c))) m R X) :
    Triple (Under Moving fun n l => n = before ∧ Kept c n l) m R X :=
  triple_pre (fun _ _ h => ⟨h.1 ▸ rfl, h.2⟩) h

theorem idle [Preserves (Under Moving (Kept c)) m X] {d : Heard → Bool} (hd : ∀ h, d h = false) :
    Triple (Under Moving (Kept c)) m (fun h => Under Moving (Kept (c ∨ d h = true))) X :=
  triple_post (fun _ _ _ h => h.imp fun hc => hc.resolve_right (by simp [hd])) Preserves.out

end Snapshot

theorem perform_spec [CutTo (Under Moving (Kept c)) X] (fuel : Nat) (a : ModemAction) (before : Net) :
    Triple (Under Moving fun n l => n = before ∧ Kept c n l) (perform fuel a)
      (fun h => Under Moving (Kept (c ∨ drives a before h = true))) X := by
  cases a <;> unfold perform
  case none => exact anyhow (idle fun _ => rfl)
  case reboot => exact anyhow (reboot_spec before)
  case factory_reset => exact anyhow (idle fun _ => rfl)
  case check_responsiveness => exact anyhow (of_inv (check_responsiveness_spec fuel))
  case power_on => exact anyhow (of_inv power_on_spec)
  case power_off => exact anyhow (of_inv (Triple.bind (change_state_on rfl) fun _ => Preserves.out))
  case turn_on_radio => exact anyhow (of_inv (change_then_call (by decide)))
  case switch_off_radio => exact switch_off_radio_spec before
  case enter_sleep => exact anyhow (of_inv (Triple.bind (call_action_spec (by decide)) fun _ => Preserves.out))
  case wake_up => exact anyhow (of_inv wake_up_spec)
  case setup_radio => exact anyhow (setup_radio_spec before)
  case query_network_status => exact by_state (query_network_status_spec before)
  case query_pdp_context => exact anyhow (query_pdp_context_spec before)
  case attach_network => exact by_state (attach_network_spec before)
  case open_pdp_context => exact anyhow (open_pdp_context_spec before)
  case send_data => exact anyhow (idle fun _ => rfl)
  case read_data => exact anyhow (idle fun _ => rfl)
  case data_complete => exact anyhow (idle fun _ => rfl)
  case enter_transparent_mode => exact anyhow (of_inv enter_transparent_mode_spec)
  case leave_transparent_mode => exact anyhow (of_inv leave_transparent_mode_spec)
  case enter_gnss_fix => exact anyhow (of_inv enter_gnss_fix_spec)
  case leave_gnss_fix => exact anyhow (of_inv leave_gnss_fix_spec)

/-! ## The events -/

instance : Preserves (Under Moving (In S (Kept c))) reset_servers X :=
  ⟨triple_updateNet fun _ _ h => ⟨h.1, h.2.loud, h.2.event, h.2.ends, h.2.forward⟩⟩

theorem detach_spec (after : Net) :
    Triple (Under Moving (In (· = after.state_) (Kept c))) (change_state .network_detached)
      (fun _ => Under Moving (Kept (c ∨ after.state_ ≠ .network_detached))) X := by
  by_cases ha : after.state_ = .network_detached
  · refine triple_post (fun _ n l h => h.2.imp ?_) (change_state_same fun n l h => h.1.trans ha)
    simp [ha]
  · refine triple_pre (fun n l h => ⟨?_, h.2⟩) (of_inv (change_state_from ⟨by decide, by decide⟩))
    exact h.1 ▸ ha

theorem on_detached_spec (after : Net) :
    Triple (Under Moving (In (· = after.state_) (Kept c))) on_detached
      (fun _ => Under Moving (Kept (c ∨ after.state_ ≠ .network_detached))) X := by
  refine Triple.bind Preserves.out fun _ => Triple.bind triple_net fun n => Triple.ite (fun _ => ?_) fun hn => ?_
  · exact triple_pre (fun _ _ h => h.2) (detach_spec after)
  · refine triple_pure fun m l h => (h.2.2.of_live (live_of_state ?_)).imp fun _ => trivial
    rw [h.1]
    revert hn
    cases n.state_ <;> simp [waiting]

theorem take_fix_spec (after : Net) :
    Triple (Under Moving (Kept c)) take_fix
      (fun h => Under Moving (Kept (c ∨ eventDrives .gps_available after h = true))) X := by
  refine Triple.bind Preserves.out fun pos => Triple.ite (fun _ => ?_) fun _ => ?_
  · refine Triple.bind Preserves.out fun _ => of_inv ?_
    exact Triple.bind (call_action_spec (by decide)) fun _ => Preserves.out
  · refine triple_pure fun n l h => h.imp ?_
    simp [eventDrives]

theorem on_timeout_spec : Triple (Under Moving (Kept c)) on_timeout (fun _ => Under Moving Inv) X := by
  refine Triple.bind triple_net fun n => Triple.ite (fun hn => ?_) fun _ => ?_
  · refine triple_pure fun m l h => h.2.of_live (live_of_state ?_)
    rw [h.1, hn.1]
    rfl
  · refine triple_pre (fun _ _ h => h.2) (Triple.bind (call_action_spec ?_) fun _ => ?_)
    · cases n.state_ <;> decide
    · exact change_state_on rfl

theorem handle_event_spec {e : NetworkLteEvent} (he : raised e = true) (after : Net) :
    Triple (Under Moving fun n l => n = after ∧ Kept c n l) (handle_event e)
      (fun h => Under Moving (Kept (c ∨ eventDrives e after h = true))) X := by
  cases e <;> first | exact absurd he (by decide) | unfold handle_event
  case none => exact anyhow (idle fun _ => rfl)
  case psm_enter => exact anyhow (of_inv (Triple.bind (change_state_on rfl) fun _ => Preserves.out))
  case network_detached =>
    refine by_state (Triple.bind (on_detached_spec after) fun _ => ?_)
    exact triple_pure fun n l h => h.imp (.imp_right of_decide_eq_true)
  case context_closed =>
    refine by_state (Triple.bind Preserves.out fun _ => ?_)
    refine Triple.bind (detach_spec after) fun _ => triple_pure fun n l h => h.imp ?_
    exact .imp_right of_decide_eq_true
  case context_rejected => exact anyhow (idle fun _ => rfl)
  case data_available => exact anyhow (idle fun _ => rfl)
  case gps_available => exact anyhow (take_fix_spec after)
  case timeout => exact anyhow (of_inv (Triple.bind on_timeout_spec fun _ => Preserves.out))
  case attach_error => exact anyhow (of_inv (Triple.bind (call_action_spec (by decide)) fun _ => Preserves.out))
  case at_command_no_response =>
    exact anyhow (of_inv (Triple.bind (call_action_spec (by decide)) fun _ => Preserves.out))

theorem get_event_spec :
    Triple (Under Moving Inv) get_event
      (fun t => Under Moving fun n l => raised t.event = true ∧ n = t.after ∧ Kept (t.dropped = .none) n l) X := by
  refine Triple.bind (Preserves.out (m := tick)) fun _ => Triple.bind triple_net fun n => ?_
  by_cases hr : raised n.event_ = true
  · refine triple_pre (fun _ _ h => h.2) ?_
    refine Triple.bind (Preserves.out (m := tick)) fun _ => Triple.bind triple_net fun m => ?_
    refine Triple.bind (Q := fun _ => Under Moving (Kept (m.event_ = .none))) (triple_updateNet ?_) fun _ => ?_
    · rintro m l ⟨rfl, h⟩
      refine ⟨h.loud, rfl, h.ends, fun hm => ?_⟩
      simpa [live, armed, hm] using h.forward trivial
    · exact Triple.bind triple_net fun after => triple_pure fun _ _ h => ⟨hr, h⟩
  · have : Preserves (Under Moving Never) clear_event X := inferInstance
    exact triple_absurd fun m l h => hr (h.1 ▸ h.2.event)

instance : Preserves (Under Moving Inv) process_event X := by
  refine ⟨Triple.bind get_event_spec fun t => ?_⟩
  by_cases he : raised t.event = true
  · refine triple_pre (fun n l h => h.2)
      (Triple.bind (Q := fun h => Under Moving (Kept ((t.dropped = .none ∨ live t.after = true) ∨
        eventDrives t.event t.after h = true))) (triple_pre ?_ (handle_event_spec he t.after))
        fun h => triple_record fun n l hg hk => ?_)
    · rintro n l ⟨rfl, h⟩
      exact ⟨rfl, h.loud, h.event, h.ends, fun hc => hc.elim h.forward id⟩
    · have hg : t.dropped = .none ∨ live t.after = true ∨ eventDrives t.event t.after h = true :=
        of_decide_eq_true hg
      exact (hk.imp fun _ => or_assoc.mpr hg).note rfl
  · exact triple_absurd fun n l h => he h.1

/-! ## loop -/

theorem on_event_inv {e : NetworkLteEvent} (he : e ≠ .none) (hr : raised e = true) :
    Preserves (Under Moving Inv) (on_event e) X :=
  ⟨triple_pre (P := In (fun _ => True) Inv) (fun _ _ h => ⟨trivial, h⟩)
    (triple_post (fun _ _ _ h => h.2) (on_event_spec he hr))⟩

instance : Preserves (Under Moving Inv) check_last_status X := by
  have : Preserves (Under Moving Inv) (on_event .at_command_no_response) X := on_event_inv (by decide) rfl
  unfold check_last_status
  infer_instance

instance (urc : Str) : Preserves (Under Moving Inv) (handle_urc urc) X := by
  have : Preserves (Under Moving Inv) (call_action .query_pdp_context) X := ⟨call_action_spec (by decide)⟩
  exact handle_urc_preserves urc fun e he => on_event_inv (by rintro rfl; cases he)
    (by cases e <;> first | rfl | cases he)

instance : Preserves (Under Moving Inv) poll_urc X := by
  have : ∀ urcs, Preserves (Under Moving Inv) (record (.polled urcs)) X := fun _ =>
    ⟨triple_record fun _ _ _ h => h.note rfl⟩
  unfold poll_urc
  infer_instance

theorem wayForward_of_live {n : Net} (h : live n = true) (hc : waiting n.state_ = true → n.callbacks = []) :
    wayForward n = true := by
  rw [live_iff] at h
  refine decide_eq_true fun hw => ?_
  rcases h hw with h | h | h | h
  · exact .inl h
  · exact .inr (.inl h)
  · exact .inr (.inr h)
  · exact absurd (hc hw) h

instance : Preserves (Under Moving Inv) end_loop X := by
  refine ⟨Triple.bind (Preserves.out (m := tick)) fun _ => Triple.bind triple_net fun n => ?_⟩
  refine Triple.bind (Q := fun _ => Under Moving Inv) (triple_record ?_) fun _ => Preserves.out
  rintro m l hg ⟨rfl, h⟩
  exact h.note (wayForward_of_live (h.forward trivial) (of_decide_eq_true hg))

end Steps

/-- What is left of the invariant where an action does not come to its end. -/
abbrev Cut : World → Prop := Under Moving fun _ l => EndsOk l

instance : CutTo (Under Moving (Kept c)) Cut := ⟨fun _ => Under.mono fun _ _ h => h.ends⟩

instance (fuel : Nat) : Preserves (Under Moving Inv) (execute_actions fuel) Cut := by
  refine ⟨Triple.bind (triple_get_action (R := fun a => Kept (a = .none)) fun n l h => ?_) fun a => ?_⟩
  · refine ⟨h.loud, h.event, h.ends, fun ha => ?_⟩
    simpa [live, armed, ha] using h.forward trivial
  · refine Triple.bind triple_net fun before => ?_
    refine Triple.bind (triple_pre (P := fun n l => n = before ∧
      Kept (a = .none ∨ live before = true) n l) ?_ (perform_spec fuel a before)) fun h => triple_record ?_
    · rintro n l ⟨rfl, h⟩
      exact ⟨rfl, h.loud, h.event, h.ends, fun hc => hc.elim h.forward id⟩
    · intro n l hg hk
      have hg : a = .none ∨ live before = true ∨ drives a before h = true := of_decide_eq_true hg
      exact (hk.imp fun _ => or_assoc.mpr hg).note rfl

theorem towards_ne_none {target state : NetworkLteState} {a : ModemAction} (h : towards target state = some a) :
    a ≠ .none := by
  unfold towards at h
  split at h <;> split_ifs at h <;> cases h <;> decide

instance (target state : NetworkLteState) : Preserves (Under Moving Inv) (call_towards target state) Cut := by
  unfold call_towards
  rcases ht : towards target state with _ | a
  · exact ⟨Triple.pure fun _ h => h⟩
  · exact ⟨call_action_spec (towards_ne_none ht)⟩

/-! ## The calls -/

section Calls

variable {X : World → Prop}

/-- While `force_psm` has stopped the timer. -/
structure Stopped (s : NetworkLteState) (cfg : NetworkLteConfig) (n : Net) (l : List Entry) : Prop where
  state : n.state_ = s
  config : n.lteConfig = cfg
  timer : n.st_timer.running = false
  event : raised n.event_ = true
  ends : EndsOk l

instance (s : NetworkLteState) (cfg : NetworkLteConfig) : Blind (Stopped s cfg) :=
  ⟨fun _ _ _ h => ⟨h.state, h.config, h.timer, h.event, h.ends⟩⟩

instance (s : NetworkLteState) (cfg : NetworkLteConfig) : Stable Moving (Stopped s cfg) where
  move n l m h := by
    refine ⟨by simpa using h.state, by simpa using h.config, ?_, move_raised m h.event, h.ends⟩
    refine Bool.eq_false_iff.mpr fun hr => ?_
    rw [n.move_st_timer m hr, h.timer] at hr
    cases hr
  data _ _ _ _ h := ⟨h.state, h.config, h.timer, h.event, h.ends⟩
  other _ _ _ _ _ _ h := ⟨h.state, h.config, h.timer, h.event, h.ends.cons rfl⟩
  prompt _ _ _ _ _ _ h := ⟨h.state, h.config, h.timer, h.event, h.ends.cons rfl⟩

instance (s : NetworkLteState) (cfg : NetworkLteConfig) (cmd : AtCmd) :
    Preserves (Under Moving (Stopped s cfg)) (exchange cmd) X :=
  exchange_preserves fun _ _ _ _ h => ⟨h.state, h.config, h.timer, h.event, h.ends.cons rfl⟩

instance (s : NetworkLteState) (cfg : NetworkLteConfig) (prev : NetworkLteState) :
    Preserves (Under Moving (Stopped s cfg)) (leave_state prev) X := by
  have : Preserves (Under Moving (Stopped s cfg)) stop_state_timer X :=
    ⟨triple_stop_state_timer (Still.move Moving) fun n l h => ⟨h.state, h.config, by simp, h.event, h.ends⟩⟩
  unfold leave_state
  infer_instance

theorem change_to_idle (cfg : NetworkLteConfig) :
    Triple (Under Moving (Stopped .data_ready cfg)) (change_state .idle_mode)
      (fun _ => Under Moving (Stopped .idle_mode cfg)) X := by
  refine triple_change_state (A := fun _ => Stopped .idle_mode cfg) (B := Stopped .idle_mode cfg)
    (C := Stopped .idle_mode cfg) ?_ ?_ (fun _ _ => Preserves.out) ?_ ?_
  · exact fun n l h hs => absurd (h.state.symm.trans hs) (by decide)
  · exact fun n l h _ => ⟨rfl, h.config, h.timer, h.event, h.ends⟩
  · exact fun n l _ h => ⟨h.state, h.config, h.timer, h.event, h.ends.cons rfl⟩
  · refine Triple.bind (Preserves.out (m := Prog.when _ refresh_info)) fun _ => ?_
    refine Triple.bind (Q := fun _ => Under Moving (Stopped .idle_mode cfg)) ?_ fun _ => ?_
    · exact Triple.bind (Preserves.out (m := net)) fun _ => Triple.pure fun _ h => h
    · exact Triple.ite (fun h => nomatch h) fun _ => Triple.ite (fun h => nomatch h) fun _ => Preserves.out

theorem resume_spec {s : NetworkLteState} {cfg : NetworkLteConfig}
    (hs : s = .data_ready ∨ 0 < cfg.data_ready_timeout_sec) :
    Triple (Under Moving (Stopped s cfg)) (resume_state_timer cfg) (fun _ => Under Moving Inv) X := by
  refine Triple.ite (fun _ => ?_) fun ht => ?_
  · refine triple_start_state_timer (Still.move Moving) fun n l now h => ?_
    rw [Timer.start_of_stopped _ _ _ _ h.timer]
    exact ⟨fun _ => .inl rfl, h.event, h.ends, fun _ => live_of_armed rfl⟩
  · refine triple_start_state_timer (Still.move Moving) fun n l now h => ?_
    have hn : n.state_ = .data_ready := h.state.trans (hs.resolve_right ht)
    rw [Timer.start_of_stopped _ _ _ _ h.timer]
    exact ⟨fun _ => .inr (.inl hn), h.event, h.ends, fun _ => live_of_state (by rw [hn]; rfl)⟩

theorem resume_read_spec {s : NetworkLteState} {cfg : NetworkLteConfig} (n : Net)
    (hs : s = .data_ready ∨ 0 < cfg.data_ready_timeout_sec) :
    Triple (Under Moving fun m l => m = n ∧ Stopped s cfg m l) (resume_state_timer n.lteConfig)
      (fun _ => Under Moving Inv) X := by
  by_cases hn : n.lteConfig = cfg
  · rw [hn]
    exact triple_pre (fun _ _ h => h.2) (resume_spec hs)
  · have (t : Nat) (r : Bool) : Preserves (Under Moving Never) (start_state_timer t r) X := inferInstance
    exact triple_absurd fun m l h => hn (h.1 ▸ h.2.config)

theorem change_after_search {offers : List Offer} {cfg : NetworkLteConfig} :
    Triple (Under Moving (Stopped .data_ready cfg))
      (change_state (if offers.any Offer.grants then .data_ready else .idle_mode))
      (fun _ => Under Moving (Stopped (if offers.any Offer.grants then .data_ready else .idle_mode) cfg)) X := by
  cases offers.any Offer.grants
  · exact change_to_idle cfg
  · exact change_state_same fun n l h => h.state

instance : Preserves (Under Moving Inv) force_psm X := by
  refine ⟨Triple.bind triple_net fun b => Triple.ite (fun _ => ?_) fun hs => ?_⟩
  · exact triple_pure fun _ _ h => h.2
  · have hs : b.state_ = .data_ready := by simpa using hs
    let Called (n : Net) (l : List Entry) : Prop := n.state_ = .data_ready ∧ n.lteConfig = b.lteConfig ∧ Inv n l
    refine Triple.bind (Q := fun _ => Under Moving (Stopped .data_ready b.lteConfig))
      (triple_pre (P := Called) ?_ (triple_stop_state_timer ?_ ?_)) fun _ => ?_
    · exact fun n l h => ⟨h.1 ▸ hs, h.1 ▸ rfl, h.2⟩
    · exact fun n l m h => ⟨by simpa using h.1, by simpa using h.2.1, h.2.2.move m⟩
    · exact fun n l h => ⟨h.1, h.2.1, by simp, h.2.2.event, h.2.2.ends⟩
    · refine Triple.bind (Preserves.out (m := set_urcs false)) fun _ => Triple.bind Preserves.out fun _ => ?_
      refine Triple.bind Preserves.out fun operators => Triple.bind Preserves.out fun offers => ?_
      refine Triple.bind triple_net fun m => ?_
      let Good : Prop := offers.any Offer.grants = true ∨ 0 < b.lteConfig.data_ready_timeout_sec
      refine Triple.bind (Q := fun _ => Under Moving fun n l => Good ∧ Stopped .data_ready b.lteConfig n l)
        (triple_record ?_) fun _ => ?_
      · rintro n l hg ⟨rfl, h⟩
        have hg : offers.any Offer.grants = true ∨ 0 < n.lteConfig.data_ready_timeout_sec := of_decide_eq_true hg
        rw [h.config] at hg
        exact ⟨hg, h.state, h.config, h.timer, h.event, h.ends.cons rfl⟩
      · by_cases hg : Good
        · refine triple_pre (fun _ _ h => h.2) ?_
          refine Triple.bind change_after_search fun _ => Triple.bind triple_net fun n => ?_
          refine Triple.bind (resume_read_spec n (hg.imp_left fun ho => ?_)) fun _ => Preserves.out
          rw [if_pos ho]
        · exact triple_absurd fun _ _ h => hg h.1

instance (k : Conn) (f : ServerInfo → ServerInfo) : Preserves (Under Moving Inv) (update_server k f) X :=
  ⟨triple_updateNet fun _ _ h => ⟨h.loud, h.event, h.ends, h.forward⟩⟩
instance (cfg : NetworkLteConfig) : Preserves (Under Moving Inv) (set_lteConfig cfg) X :=
  ⟨triple_updateNet fun _ _ h => ⟨h.loud, h.event, h.ends, h.forward⟩⟩
instance (opened : Option ModemStatus) : Preserves (Under Moving Inv) (record (.resumed opened)) X :=
  ⟨triple_record fun _ _ _ h => h.note rfl⟩
instance (call : Call) (n : Net) : Preserves (Under Moving Inv) (record (.called call n)) X :=
  ⟨triple_record fun _ _ _ h => h.note rfl⟩
instance (f : Net → Nat → Timer Callback → TimerError × Timer Callback) :
    Preserves (Under Moving Inv) (on_timer f) X :=
  on_timer_preserves fun _ _ _ _ _ h => ⟨h.loud, h.event, h.ends, h.forward⟩
instance (ms : Nat) : Preserves (Under Moving Inv) (start_timer ms) X := by unfold start_timer; infer_instance
instance : Preserves (Under Moving Inv) stop_timer X := by unfold stop_timer; infer_instance
instance (ms : Nat) : Preserves (Under Moving Inv) (reset_timer ms) X := by unfold reset_timer; infer_instance

instance : Preserves (Under Moving Inv) (change_state .network_detached) X :=
  ⟨triple_post (fun _ _ _ h => h.imp fun _ => .inr ⟨trivial, by decide, by decide⟩)
    (change_state_spec _)⟩
instance : Preserves (Under Moving Inv) (call_action .leave_transparent_mode) X := ⟨call_action_spec (by decide)⟩

/-! ## Runs -/

theorem call_action_called (fuel : Nat) (a : ModemAction) :
    Preserves (Under Moving Inv)
      (do let n ← net; record (.called (.call_action a) n); (Call.call_action a).exec fuel) X := by
  let Allowed (n : Net) (l : List Entry) : Prop := a ≠ .none ∧ Inv n l
  refine ⟨triple_called (Q := Allowed) (fun n l hg h => ⟨of_decide_eq_true hg, h.note rfl⟩) ?_⟩
  by_cases ha : a = .none
  · exact triple_absurd (m := call_action a) fun m l h => h.1 ha
  · exact triple_pre (fun _ _ h => h.2) (call_action_spec ha)

end Calls

theorem run_inv (fuel : Nat) (calls : List Call) : Preserves (Under Moving Inv) (run fuel calls) Cut := by
  refine run_preserves fuel (fun call => ?_) calls
  by_cases ha : ∃ a, call = .call_action a
  · obtain ⟨a, rfl⟩ := ha
    exact call_action_called fuel a
  · have := exec_preserves (G := Moving) (P := Inv) (X := Cut) fuel call (fun _ _ => inferInstance)
      (fun _ _ => inferInstance) (fun _ => inferInstance) (fun _ _ => inferInstance) fun a h => absurd ⟨a, h⟩ ha
    infer_instance

/-- A modem that finds no network and refuses the command of tick `no`, and a state timer that expires at
tick `k`. -/
def unregistered (no k : Option Nat) : Nat → Tick := fun i =>
  { body := .ofView _ "+CEREG: 0,0,1,1".toList
    status := if no = some i then .at_error else .ok
    moves := if k = some i then [.expire_state_timer, .callback 0] else [] }

end LteModem.NetworkLte.NoStall
