import LteModem.NetworkLte.Frame

/-!
# The line in transparent mode

In `transparent_mode` the line belongs to the client, and `loop` does not poll it. What `loop` does besides
polling is the same as ever: it looks at the status of the last command, which was the client's, takes the
event that is pending and runs the action that is.
-/

open Prog Strings

set_option synthInstance.maxSize 100000

namespace LteModem.NetworkLte.Transparent

/-- A read or a write of the line. -/
def uart : Entry → Bool
  | .exchange _ _ | .polled _ => true
  | _ => false

def Quiet (n : Net) (l : List Entry) : Prop := n.state_ = .transparent_mode ∧ l.any uart = false

def Disturbed (n : Net) (l : List Entry) : Prop := n.state_ ≠ .transparent_mode ∨ l.any uart = true

theorem Disturbed.not_quiet {n : Net} {l : List Entry} (h : Disturbed n l) : ¬ Quiet n l := by
  rintro ⟨hs, hu⟩
  rcases h with h | h
  · exact h hs
  · rw [hu] at h
    cases h

/-- The world as a call finds it, with an empty log. -/
def fresh (w : World) : World := { w with log := [] }

/-! ## When a loop is quiet -/

def after (w : World) (i : Nat) (n : Net) : Net := (w.env i).moves.foldl Net.move n

/-- The world after the look at the status of the last command. -/
def noted (w : World) : World :=
  if w.net.last_status_ = .timeout then
    { w with net := (after w w.clock w.net).on_event .at_command_no_response, clock := w.clock + 1 }
  else w

/-- The event that a loop takes: a timer callback may raise its own just before. -/
def taken (w : World) : NetworkLteEvent := (after (noted w) (noted w).clock (noted w).net).event_

/-- The events whose cases leave the line and the state alone. -/
def mute : NetworkLteEvent → Bool
  | .none | .context_rejected | .attach_started | .pdp_opening | .network_error | .context_error
  | .attach_error | .at_command_no_response => true
  | _ => false

/-- The action that is pending after the event. -/
def next (e : NetworkLteEvent) (a : ModemAction) : ModemAction :=
  match e with
  | .attach_error => .enter_sleep
  | .at_command_no_response => .check_responsiveness
  | _ => a

/-- What `setup_radio` would set as the technology. -/
def techOf (n : Net) : RadioTech :=
  if n.data.nAttachRetries = 0 then n.lteConfig.default_iot_tech else n.lteConfig.fallback_iot_tech

/-- The actions that leave the line and the state alone in `transparent_mode`. -/
def silent (n : Net) : ModemAction → Bool
  | .none | .factory_reset | .data_complete | .enter_sleep | .send_data => true
  | .switch_off_radio => !n.lteConfig.fCfunSleep
  | .setup_radio =>
    !n.data.fChangeBands && n.data.fChangeRAT && techOf n ≠ .cat_m1 && techOf n ≠ .nb_iot
  | _ => false

/-- A loop that is told to stop in `transparent_mode` does not come to the action. -/
def calm (target : NetworkLteState) (w : World) : Bool :=
  mute (taken w) && (target = .transparent_mode || silent w.net (next (taken w) w.net.modem_action_))

/-! ## What disturbs the line -/

section Disturbed

variable {G : Entry → Prop} {P : Net → List Entry → Prop} {X : World → Prop}

theorem Disturbed.note {n m : Net} {l : List Entry} (h : Disturbed n l) (hs : m.state_ = n.state_) (e : Entry) :
    Disturbed m (e :: l) := by
  rcases h with h | h
  · exact .inl (hs ▸ h)
  · exact .inr (by simp [h])

theorem Disturbed.same {n m : Net} {l : List Entry} (h : Disturbed n l) (hs : m.state_ = n.state_) :
    Disturbed m l := by
  unfold Disturbed
  rw [hs]
  exact h

instance : Blind Disturbed := ⟨fun _ _ _ h => h⟩
instance : Restarting Disturbed := ⟨fun _ _ h => h⟩

instance : Free G Disturbed where
  move n _ m h := h.same (n.move_state_ m)
  data _ _ _ _ h := h
  last_status _ _ _ h := h
  other _ _ _ _ _ _ h := h.note rfl _
  prompt _ _ _ _ _ _ h := h.note rfl _
  cold _ _ _ h := h
  warm _ _ _ h := h
  config _ _ _ h := h
  reset _ _ h := h
  action _ _ _ _ h := h
  event _ _ _ _ h := h
  urc _ _ _ _ _ _ h := h.note rfl _
  cfun _ _ _ _ _ _ h := h.note rfl _
  ran _ _ _ _ _ _ h := h.note rfl _
  polled _ _ _ _ h := h.note rfl _
  loopEnd _ _ _ _ h := h.note rfl _
  called _ _ _ _ _ h := h.note rfl _

instance : Timeless G Disturbed where
  st_timer _ _ _ h := h
  timer _ _ _ h := h
  started _ _ _ _ h := h.note rfl _

instance (cmd : AtCmd) : Preserves (Under G Disturbed) (exchange cmd) X :=
  exchange_preserves fun _ _ _ _ h => h.note rfl _
instance (e : Entry) : Preserves (Under G Disturbed) (record e) X := ⟨triple_record fun _ _ _ h => h.note rfl e⟩

theorem change_state_disturbs {s : NetworkLteState} (hs : s ≠ .transparent_mode) :
    Triple (Under G P) (change_state s) (fun _ => Under G Disturbed) X := by
  refine triple_pre (P := Whatever) (fun _ _ _ => trivial) (triple_post (fun _ n l h => .inl ?_)
    (triple_change_state_in (fun _ _ h => h) fun _ _ _ h => h))
  rw [h.1]
  exact hs

instance : Changes G Disturbed X := ⟨fun _ hs _ => ⟨change_state_disturbs hs⟩⟩
instance : Preserves (Under G Disturbed) (change_state .data_ready) X := ⟨change_state_disturbs (by decide)⟩

theorem exchange_disturbs (cmd : AtCmd) :
    Triple (Under G P) (exchange cmd) (fun _ => Under G Disturbed) X :=
  triple_pre (P := Whatever) (fun _ _ _ => trivial) (triple_exchange fun _ _ _ _ _ => .inr rfl)

theorem send_disturbs (cmd : AtCmd) : Triple (Under G P) (xE310.send cmd) (fun _ => Under G Disturbed) X :=
  Triple.bind (exchange_disturbs cmd) fun _ => Preserves.out

theorem ask_disturbs {α : Type} (c : Command) (parse : Answer → α) :
    Triple (Under G P) (xE310.ask c parse) (fun _ => Under G Disturbed) X :=
  Triple.bind (exchange_disturbs _) fun _ => Preserves.out

theorem set_urcs_disturbs (b : Bool) : Triple (Under G P) (set_urcs b) (fun _ => Under G Disturbed) X :=
  Triple.bind (send_disturbs _) fun _ => Preserves.out

theorem then_disturbs {α β : Type} {f : Prog World α} {g : α → Prog World β} [Preserves (Under G Whatever) f X]
    (h : ∀ r, Triple (Under G Whatever) (g r) (fun _ => Under G Disturbed) X) :
    Triple (Under G P) (f >>= g) (fun _ => Under G Disturbed) X :=
  Triple.bind (triple_whatever fun _ _ _ => trivial) h

theorem enter_transparent_mode_action_disturbs :
    Triple (Under G P) enter_transparent_mode_action (fun _ => Under G Disturbed) X :=
  then_disturbs fun _ => Triple.bind (set_urcs_disturbs false) fun _ => Preserves.out

instance : Preserves (Under G Disturbed) enter_transparent_mode_action X :=
  ⟨enter_transparent_mode_action_disturbs⟩

end Disturbed

/-! ## The event and the action -/

/-- Nothing happened to the line since the machine was `m`, and `a` is pending. -/
structure Waiting (m : Net) (a : ModemAction) (n : Net) (l : List Entry) : Prop where
  quiet : Quiet n l
  action : n.modem_action_ = a
  config : n.lteConfig = m.lteConfig
  data : Same m.data n.data

section Waiting

variable {G : Entry → Prop} {X : World → Prop} {m : Net} {a : ModemAction} {e : NetworkLteEvent}

theorem Quiet.note {n : Net} {l : List Entry} {e : Entry} (h : Quiet n l) (he : uart e = false) :
    Quiet n (e :: l) :=
  ⟨h.1, by simp [he, h.2]⟩

theorem call_action_waiting (b : ModemAction) :
    Triple (Under G (Waiting m a)) (call_action b) (fun _ => Under G (Waiting m b)) X :=
  triple_updateNet fun _ _ h => ⟨h.quiet, rfl, h.config, { h.data with }⟩

theorem handle_event_mute (he : mute e = true) :
    Triple (Under G (Waiting m a)) (handle_event e) (fun _ => Under G (Waiting m (next e a))) X := by
  cases e <;> cases he
  case attach_error => exact Triple.bind (call_action_waiting _) fun _ => Triple.pure fun _ h => h
  case at_command_no_response => exact Triple.bind (call_action_waiting _) fun _ => Triple.pure fun _ h => h
  all_goals exact triple_pure fun _ _ h => h

theorem handle_event_loud (he : mute e = false) :
    Triple (Under G (Waiting m a)) (handle_event e) (fun _ => Under G Disturbed) X := by
  have hp : Preserves (Under G Disturbed) (pure Heard.nothing) X := inferInstance
  have hc {s : NetworkLteState} (hs : s ≠ .transparent_mode) :
      Triple (Under G (Waiting m a)) (do change_state s; pure Heard.nothing) (fun _ => Under G Disturbed) X :=
    Triple.bind (change_state_disturbs hs) fun _ => hp.out
  cases e <;> cases he
  case psm_enter => exact hc (by decide)
  case psm_exit =>
    refine then_disturbs fun n => Triple.bind (change_state_disturbs ?_) fun _ => hp.out
    split <;> decide
  case network_detached =>
    refine Triple.bind (Q := fun _ => Under G Disturbed) ?_ fun _ => hp.out
    refine Triple.bind (Q := fun _ => Under G (Waiting m a)) (triple_updateNet ?_) fun _ => ?_
    · exact fun _ _ h => ⟨h.quiet, h.action, h.config, h.data⟩
    · refine triple_net_of (F := fun n => n.state_ = .transparent_mode) (fun _ _ h => h.quiet.1) fun n hn => ?_
      refine Triple.ite (fun _ => change_state_disturbs (by decide)) fun hs => absurd ?_ hs
      simp [hn]
  case network_attached => exact hc (by decide)
  case context_closed => exact then_disturbs fun _ => Triple.bind (change_state_disturbs (by decide)) fun _ => hp.out
  case context_opened => exact hc (by decide)
  case data_available => exact then_disturbs fun _ => Triple.bind (ask_disturbs _ _) fun _ => Preserves.out
  case gps_available => exact Triple.bind (ask_disturbs _ _) fun _ => Preserves.out
  case timeout =>
    refine Triple.bind (Q := fun _ => Under G Disturbed) ?_ fun _ => hp.out
    refine triple_net_of (F := fun n => n.state_ = .transparent_mode) (fun _ _ h => h.quiet.1) fun n hn => ?_
    refine Triple.ite (fun hs => ?_) fun _ => ?_
    · cases hn.symm.trans hs.1
    · exact then_disturbs fun _ => change_state_disturbs (by decide)

theorem Waiting.techOf {n : Net} {l : List Entry} (h : Waiting m a n l) : techOf n = techOf m := by
  unfold Transparent.techOf
  rw [h.data.nAttachRetries, h.config]

theorem set_iot_tech_silent {tech : RadioTech} (hc : tech ≠ .cat_m1) (hn : tech ≠ .nb_iot) :
    xE310.set_iot_tech tech = pure .invalid_param := by
  unfold xE310.set_iot_tech
  rw [if_neg hc, if_neg hn]

theorem set_iot_tech_loud {P : Net → List Entry → Prop} (tech : RadioTech) (h : tech = .cat_m1 ∨ tech = .nb_iot) :
    Triple (Under G P) (xE310.set_iot_tech tech) (fun _ => Under G Disturbed) X := by
  refine Triple.ite (fun _ => send_disturbs _) fun hc => Triple.ite (fun _ => send_disturbs _) fun hn => ?_
  exact absurd h (by simp [hc, hn])

theorem set_changed_rat_silent {n : Net} (hr : n.data.fChangeRAT = true) (hc : techOf n ≠ .cat_m1)
    (hn : techOf n ≠ .nb_iot) :
    Triple (Under G Quiet) (set_changed_rat n) (fun r => Under G fun m l => r = some .invalid_param ∧ Quiet m l) X := by
  refine Triple.ite (fun _ => ?_) fun hf => absurd hr hf
  refine Triple.bind (Q := fun _ => Under G Quiet) (triple_updateNet fun _ _ h => h) fun _ => ?_
  change Triple _ (do let status ← xE310.set_iot_tech (techOf n); pure (some status)) _ _
  rw [set_iot_tech_silent hc hn]
  exact triple_pure fun _ _ h => ⟨rfl, h⟩

theorem setup_radio_silent (hs : silent m .setup_radio = true) :
    Triple (Under G (Waiting m a)) setup_radio (fun _ => Under G Quiet) X := by
  obtain ⟨⟨⟨hb, hr⟩, hc⟩, hn⟩ : ((m.data.fChangeBands = false ∧ m.data.fChangeRAT = true) ∧ techOf m ≠ .cat_m1) ∧
      techOf m ≠ .nb_iot := by
    simpa [silent] using hs
  refine triple_net_of (F := fun n => n.data.fChangeBands = false ∧ n.data.fChangeRAT = true ∧ techOf n = techOf m)
    (fun n l h => ⟨h.data.fChangeBands.trans hb, h.data.fChangeRAT.trans hr, h.techOf⟩) fun n hf => ?_
  refine Triple.ite (fun _ => ?_) fun hn => absurd (.inr hf.2.1) hn
  refine triple_pre (P := Quiet) (fun _ _ h => h.quiet) ?_
  refine Triple.bind (Q := fun r => Under G fun m l => r = none ∧ Quiet m l) ?_ fun bands => ?_
  · exact Triple.ite (fun hb => absurd (hb.symm.trans hf.1) (by decide)) fun _ => triple_pure fun _ _ h => ⟨rfl, h⟩
  · refine triple_fact fun hb => ?_
    refine Triple.bind (set_changed_rat_silent hf.2.1 (hf.2.2 ▸ hc) (hf.2.2 ▸ hn)) fun tech => triple_fact fun ht => ?_
    refine Triple.bind (Q := fun _ => Under G Quiet) (Triple.when (fun hk => ?_) fun _ _ h => h) fun _ => ?_
    · simp [hb, ht] at hk
    · exact triple_pure fun _ _ h => h

theorem setup_radio_loud (hs : silent m .setup_radio = false) :
    Triple (Under G (Waiting m a)) setup_radio (fun _ => Under G Disturbed) X := by
  have hs : m.data.fChangeBands = false → m.data.fChangeRAT = true → techOf m ≠ .cat_m1 → techOf m = .nb_iot := by
    simpa [silent] using hs
  refine triple_net_of (F := fun n => n.data.fChangeBands = m.data.fChangeBands ∧
    n.data.fChangeRAT = m.data.fChangeRAT ∧ techOf n = techOf m)
    (fun n l h => ⟨h.data.fChangeBands, h.data.fChangeRAT, h.techOf⟩) fun n hn => ?_
  obtain ⟨hb, hr, ht⟩ := hn
  refine Triple.ite (fun hf => ?_) fun _ => then_disturbs fun _ => ?_
  · by_cases hm : m.data.fChangeBands = true
    · refine Triple.bind (Q := fun _ => Under G Disturbed) ?_ fun _ => Preserves.out
      refine Triple.ite (fun _ => then_disturbs fun _ => ?_) fun hn => absurd (hb.trans hm) hn
      exact Triple.bind (send_disturbs _) fun _ => Preserves.out
    · have hm : m.data.fChangeBands = false := by simpa using hm
      have hr' : m.data.fChangeRAT = true := by simpa [hb, hr, hm] using hf
      refine then_disturbs fun _ => Triple.bind (Q := fun _ => Under G Disturbed) ?_ fun _ => Preserves.out
      refine Triple.ite (fun _ => then_disturbs fun _ => ?_) fun hn => absurd (hr.trans hr') hn
      refine Triple.bind (set_iot_tech_loud (techOf n) ?_) fun _ => Preserves.out
      rw [ht]
      exact or_iff_not_imp_left.mpr (hs hm hr')
  · exact Triple.bind (change_state_disturbs (by decide)) fun _ => Preserves.out

theorem perform_silent (fuel : Nat) (hs : silent m a = true) :
    Triple (Under G (Waiting m .none)) (perform fuel a) (fun _ => Under G Quiet) X := by
  have hq : Triple (Under G (Waiting m .none)) (pure Heard.nothing) (fun _ => Under G Quiet) X :=
    triple_pure fun _ _ h => h.quiet
  cases a <;> simp only [silent, Bool.false_eq_true] at hs
  case switch_off_radio =>
    refine triple_net_of (F := fun n => n.lteConfig = m.lteConfig) (fun _ _ h => h.config) fun n hn => ?_
    refine Triple.ite (fun hf => ?_) fun _ => hq
    simp [← hn, hf] at hs
  case enter_sleep => exact Triple.bind (call_action_waiting _) fun _ => triple_pure fun _ _ h => h.quiet
  case setup_radio => exact setup_radio_silent (by simpa [silent] using hs)
  case send_data =>
    refine triple_net_of (F := fun n => n.state_ = .transparent_mode) (fun _ _ h => h.quiet.1) fun n hn => ?_
    refine Triple.ite (fun _ => hq) fun hd => absurd (fun hd => ?_) hd
    cases hn.symm.trans hd
  all_goals exact hq

theorem perform_loud (fuel : Nat) (hs : silent m a = false) :
    Triple (Under G (Waiting m .none)) (perform (fuel + 1) a) (fun _ => Under G Disturbed) (Under G Disturbed) := by
  cases a <;> simp only [silent, Bool.true_eq_false] at hs
  case switch_off_radio =>
    refine triple_net_of (F := fun n => n.lteConfig = m.lteConfig) (fun _ _ h => h.config) fun n hn => ?_
    refine Triple.ite (fun hf => Triple.bind (send_disturbs _) fun _ => Preserves.out) fun hf => ?_
    simp [← hn, hf] at hs
  case setup_radio => exact setup_radio_loud (by simpa [silent] using hs)
  case power_off => exact Triple.bind (change_state_disturbs (by decide)) fun _ => Preserves.out
  case turn_on_radio => exact Triple.bind (change_state_disturbs (by decide)) fun _ => Preserves.out
  case wake_up =>
    refine then_disturbs fun n => Triple.ite (fun _ => ?_) fun _ => then_disturbs fun _ => ?_
    · exact Triple.bind (change_state_disturbs (by decide)) fun _ => Preserves.out
    · exact Triple.bind (change_state_disturbs (by decide)) fun _ => Preserves.out
  case enter_transparent_mode => exact enter_transparent_mode_action_disturbs
  case leave_transparent_mode => exact Triple.bind (set_urcs_disturbs true) fun _ => Preserves.out
  case enter_gnss_fix => exact Triple.bind (set_urcs_disturbs false) fun _ => Preserves.out
  case leave_gnss_fix =>
    refine Triple.bind ?_ fun _ => Preserves.out
    exact Triple.bind (send_disturbs _) fun _ => Preserves.out
  case attach_network =>
    have : Preserves (Under G Disturbed) (on_event .attach_error) := on_event_preserves (by decide)
    exact Triple.bind (send_disturbs _) fun _ => Preserves.out
  case query_network_status =>
    have (info : RegistrationInfo) : Preserves (Under G Disturbed) (updateData fun d => { d with regInfo := info }) :=
      inferInstance
    exact then_disturbs fun _ => Triple.bind (ask_disturbs _ _) fun _ => Preserves.out
  case query_pdp_context => exact then_disturbs fun _ => Triple.bind (ask_disturbs _ _) fun _ => Preserves.out
  case open_pdp_context => exact then_disturbs fun _ => Triple.bind (send_disturbs _) fun _ => Preserves.out
  case read_data => exact then_disturbs fun _ => Triple.bind (ask_disturbs _ _) fun _ => Preserves.out
  all_goals exact Triple.bind (send_disturbs _) fun _ => Preserves.out

theorem triple_take_action {α : Type} {f : ModemAction → Prog World α} {R : α → Net → List Entry → Prop}
    [∀ b, Preserves (Under G Never) (f b) X]
    (h : Triple (Under G (Waiting m .none)) (f a) (fun r => Under G (R r)) X) :
    Triple (Under G (Waiting m a)) (get_action >>= f) (fun r => Under G (R r)) X := by
  refine Triple.bind (triple_get_action (R := fun b n l => b = a ∧ Waiting m .none n l) ?_) fun b => ?_
  · exact fun n l h => ⟨h.action, h.quiet, rfl, h.config, h.data⟩
  · exact triple_fact fun hb => hb ▸ h

theorem execute_actions_silent (fuel : Nat) (hs : silent m a = true) :
    Triple (Under G (Waiting m a)) (execute_actions fuel) (fun _ => Under G Quiet) (Under G Quiet) := by
  refine triple_take_action (Triple.bind (Q := fun _ => Under G (Waiting m .none)) ?_ fun n => ?_)
  · exact triple_post (fun _ _ _ h => h.2) triple_net
  · exact Triple.bind (perform_silent fuel hs) fun _ => triple_record fun _ _ _ h => h.note rfl

theorem execute_actions_loud (fuel : Nat) (hs : silent m a = false) :
    Triple (Under G (Waiting m a)) (execute_actions (fuel + 1)) (fun _ => Under G Disturbed) (Under G Disturbed) := by
  refine triple_take_action (Triple.bind (Q := fun _ => Under G (Waiting m .none)) ?_ fun n => ?_)
  · exact triple_post (fun _ _ _ h => h.2) triple_net
  · exact Triple.bind (perform_loud fuel hs) fun _ => Preserves.out

end Waiting

/-! ## loop -/

def finish (fuel : Nat) (target_state : NetworkLteState) : Prog World NetworkLteState := do
  let n ← net
  if n.state_ = target_state ∧ target_state ≠ .none then end_loop
  else do
    execute_actions fuel
    end_loop

/-- The part of `loop` after the event is taken. -/
def settle (fuel : Nat) (target_state : NetworkLteState) (t : Taken) : Prog World NetworkLteState := do
  let h ← handle_event t.event
  record (.handled t h)
  finish fuel target_state

section Loop

variable {m n : Net} {a : ModemAction} {l : List Entry}

theorem Waiting.same (h : Waiting m a n l) {k : Net} (hs : k.state_ = n.state_) (ha : k.modem_action_ = n.modem_action_)
    (hc : k.lteConfig = n.lteConfig) (hd : Same n.data k.data) : Waiting m a k l where
  quiet := ⟨hs.trans h.quiet.1, h.quiet.2⟩
  action := ha.trans h.action
  config := hc.trans h.config
  data := h.data.trans hd

theorem Waiting.after (h : Waiting m a n l) (w : World) (i : Nat) : Waiting m a (after w i n) l := by
  refine foldl_move (fun n _ v h => ?_) _ n l h
  exact h.same (n.move_state_ v) (n.move_modem_action_ v) (n.move_lteConfig v) (move_same n v)

theorem Waiting.noted {w : World} (h : Waiting m a w.net l) : Waiting m a (noted w).net l := by
  unfold Transparent.noted
  split
  · exact (h.after w w.clock).same rfl rfl rfl (on_event_same _ _)
  · exact h

theorem noted_log (w : World) : (noted w).log = w.log := by
  unfold noted
  split <;> rfl

theorem check_last_status_run (w : World) : check_last_status w = (some (), noted w) := by
  unfold noted
  split
  · next h =>
    simp only [check_last_status, net, bind_run, gets_run, h, if_true]
    rfl
  · next h => simp [check_last_status, net, bind_run, h]

theorem get_event_run (w : World) :
    let n := Transparent.after w w.clock w.net
    let m := Transparent.after w (w.clock + 1) n
    get_event w = (some ⟨n.event_, n.event_visit, m.event_, { m with event_ := .none }⟩,
      { w with net := { m with event_ := .none }, clock := w.clock + 2 }) := rfl

/-- The part before: the event is taken, and the line is as it was. -/
theorem loop_eq (fuel : Nat) (target : NetworkLteState) {w : World} (hs : w.net.state_ = .transparent_mode)
    (hl : w.log = []) :
    ∃ t v, t.event = taken w ∧ Waiting w.net w.net.modem_action_ v.net v.log ∧
      loop fuel target w = settle fuel target t v := by
  have hw : Waiting w.net w.net.modem_action_ w.net w.log := ⟨⟨hs, by simp [hl]⟩, rfl, rfl, {}⟩
  have hp : poll_urc w = (some (), w) := by simp [poll_urc, net, bind_run, hs]
  let u := noted w
  have hu : Waiting w.net w.net.modem_action_ u.net u.log := noted_log w ▸ hw.noted
  let n := Transparent.after u u.clock u.net
  let m := Transparent.after u (u.clock + 1) n
  have hm : Waiting w.net w.net.modem_action_ m u.log := (hu.after u _).after u _
  refine ⟨⟨n.event_, n.event_visit, m.event_, { m with event_ := .none }⟩,
    { u with net := { m with event_ := .none }, clock := u.clock + 2 }, rfl, hm.same rfl rfl rfl {}, ?_⟩
  have he : loop fuel target = (do poll_urc; check_last_status; process_event; finish fuel target) := rfl
  rw [he]
  simp only [bind_run, hp, check_last_status_run, process_event, settle, get_event_run, u, n, m]
  rcases handle_event _ _ with ⟨_ | h, v⟩ <;> rfl

end Loop

section Finish

variable {G : Entry → Prop} {m : Net} {a : ModemAction}

theorem Waiting.note {n : Net} {l : List Entry} {e : Entry} (h : Waiting m a n l) (he : uart e = false) :
    Waiting m a n (e :: l) :=
  { h with quiet := h.quiet.note he }

theorem end_loop_quiet {X : World → Prop} : Triple (Under G Quiet) end_loop (fun _ => Under G Quiet) X := by
  refine Triple.bind (triple_tick fun n l v h => ⟨by simpa using h.1, h.2⟩) fun _ => ?_
  refine Triple.bind (triple_post (fun _ _ _ h => h.2) triple_net) fun n => ?_
  refine Triple.bind (Q := fun _ => Under G Quiet) (triple_record fun _ _ _ h => h.note rfl) fun _ => ?_
  exact triple_pure fun _ _ h => h

theorem finish_calm (fuel : Nat) {target : NetworkLteState} (hc : target = .transparent_mode ∨ silent m a = true) :
    Triple (Under G (Waiting m a)) (finish fuel target) (fun _ => Under G Quiet) (Under G Quiet) := by
  refine triple_net_of (F := fun n => n.state_ = .transparent_mode) (fun _ _ h => h.quiet.1) fun n hn => ?_
  refine Triple.ite (fun _ => triple_pre (fun _ _ h => h.quiet) end_loop_quiet) fun ht => ?_
  refine Triple.bind (execute_actions_silent fuel (hc.resolve_left ?_)) fun _ => end_loop_quiet
  rintro rfl
  exact ht ⟨hn, by decide⟩

theorem finish_loud (fuel : Nat) {target : NetworkLteState} (ht : target ≠ .transparent_mode)
    (hs : silent m a = false) :
    Triple (Under G (Waiting m a)) (finish (fuel + 1) target) (fun _ => Under G Disturbed) (Under G Disturbed) := by
  refine triple_net_of (F := fun n => n.state_ = .transparent_mode) (fun _ _ h => h.quiet.1) fun n hn => ?_
  refine Triple.ite (fun h => absurd (h.1.symm.trans hn) ht) fun _ => ?_
  exact Triple.bind (execute_actions_loud fuel hs) fun _ => Preserves.out

instance (fuel : Nat) (target : NetworkLteState) : Preserves (Under G Disturbed) (finish fuel target) := by
  unfold finish
  infer_instance

theorem settle_calm (fuel : Nat) {target : NetworkLteState} {t : Taken} (he : mute t.event = true)
    (hc : target = .transparent_mode ∨ silent m (next t.event a) = true) :
    Triple (Under G (Waiting m a)) (settle fuel target t) (fun _ => Under G Quiet) (Under G Quiet) := by
  refine Triple.bind (handle_event_mute he) fun h => ?_
  refine Triple.bind (Q := fun _ => Under G (Waiting m (next t.event a))) ?_ fun _ => finish_calm fuel hc
  exact triple_record fun _ _ _ h => h.note rfl

theorem settle_loud (fuel : Nat) {target : NetworkLteState} {t : Taken}
    (hc : mute t.event = true → target ≠ .transparent_mode ∧ silent m (next t.event a) = false) :
    Triple (Under G (Waiting m a)) (settle (fuel + 1) target t) (fun _ => Under G Disturbed) (Under G Disturbed) := by
  cases he : mute t.event with
  | false => exact Triple.bind (handle_event_loud he) fun _ => Preserves.out
  | true =>
    refine Triple.bind (handle_event_mute he) fun h => ?_
    refine Triple.bind (Q := fun _ => Under G (Waiting m (next t.event a))) ?_ fun _ => ?_
    · exact triple_record fun _ _ _ h => h.note rfl
    · exact finish_loud fuel (hc he).1 (hc he).2

end Finish

/-- For every run: a loop that starts in `transparent_mode` leaves the line alone and stays exactly where the
event it takes is mute and the action it comes to, if any, is silent. The fuel lets the check of the modem start. -/
theorem transparent_mode_owns_uart (config : NetworkLteConfig) (with_timer : Bool) (env : Nat → Tick) (fuel : Nat)
    (before : List Call) (target : NetworkLteState) (steps : Nat) :
    let w := fresh (run fuel before (initial config with_timer env)).2
    let v := (loop (steps + 1) target w).2
    w.net.state_ = .transparent_mode → (Quiet v.net v.log ↔ calm target w = true) := by
  intro w v hs
  obtain ⟨t, u, he, hu, hl⟩ := loop_eq (steps + 1) target hs rfl
  constructor
  · intro hq
    by_contra hc
    have hc : mute t.event = true → target ≠ .transparent_mode ∧
        silent w.net (next t.event w.net.modem_action_) = false := by
      simpa [calm, he] using hc
    have hd := (settle_loud (G := Always) steps hc).final (s := u) fun _ => hu
    rw [← hl] at hd
    exact (hd fun _ _ => trivial).not_quiet hq
  · intro hc
    have hc : mute t.event = true ∧ (target = .transparent_mode ∨
        silent w.net (next t.event w.net.modem_action_) = true) := by
      simpa [calm, he] using hc
    have hq := (settle_calm (G := Always) (steps + 1) hc.1 hc.2).final (s := u) fun _ => hu
    rw [← hl] at hq
    exact hq fun _ _ => trivial

def session : List Call := [.enter_transparent_mode, .send_at_command "AT+CSQ".toList]

/-- The modem answers the command of the client with this status. -/
def answering (status : ModemStatus) : Nat → Tick := fun i => { status := if i = 22 then status else .ok }

theorem transparent_mode_owns_uart_answered :
    let w := fresh (run 9 session (initial {} false (answering .at_error))).2
    let v := (loop (8 + 1) .none w).2
    w.net.state_ = .transparent_mode ∧ Quiet v.net v.log :=
  ⟨by decide +kernel, (transparent_mode_owns_uart {} false (answering .at_error) 9 session .none 8
    (by decide +kernel)).mpr (by decide +kernel)⟩

/-- After a command of the client that timed out, the loop sends `AT` itself and leaves the mode. -/
theorem timed_out_command_ends_transparent_mode :
    let w := fresh (run 9 session (initial {} false (answering .timeout))).2
    let v := (loop 9 .none w).2
    (w.net.state_ = .transparent_mode ∧ w.net.event_ = .none ∧ w.net.modem_action_ = .none) ∧
      v.net.state_ = .idle_mode ∧ v.log.any uart = true := by
  decide +kernel

end LteModem.NetworkLte.Transparent
