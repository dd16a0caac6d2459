import LteModem.NetworkLte.Frame

/-!
# The boot configuration comes before data

`power_on` sets `fColdBoot` and only asks for `setup_radio`, which clears it. The pending action can be
replaced before it runs, and nothing else looks at the flag.
-/

open Prog Strings

set_option synthInstance.maxSize 100000

namespace LteModem.NetworkLte.ColdBoot

/-- The step went on to `data_ready`: the machine before it. -/
def arrives : Entry → Option Net
  | .ran .query_pdp_context b (.pdp .ok true .ok) => some b
  | .ran .open_pdp_context b (.status .ok) => some b
  | .ran .wake_up b _ => if b.prev_state_ = .data_ready then some b else none
  | .handled t _ =>
    if t.event = .context_opened ∨ t.event = .psm_exit ∧ t.after.prev_state_ = .data_ready then some t.after
    else none
  | _ => none

/-- No step goes on to `data_ready` before the boot configuration. -/
def timely (e : Entry) : Bool := (arrives e).all (!·.fColdBoot)

def Timely (e : Entry) : Prop := timely e = true

instance : DecidablePred Timely := fun e => inferInstanceAs (Decidable (timely e = true))

theorem Timely.cold {e : Entry} {b : Net} (h : Timely e) (hb : arrives e = some b) : b.fColdBoot = false := by
  simpa [Timely, timely, hb] using h

/-- The machine on entry to a state. -/
def entered : Entry → Option Net
  | .left n => some n
  | _ => none

/-- `data_ready` was never entered before the boot configuration. -/
def Settled (l : List Entry) : Prop :=
  ∀ e ∈ l, ∀ n ∈ entered e, n.state_ = .data_ready → n.fColdBoot = false

theorem Settled.note {l : List Entry} {e : Entry} (h : Settled l) (he : entered e = none) : Settled (e :: l) := by
  intro f hf
  rcases List.mem_cons.mp hf with rfl | hf
  · simp [he]
  · exact h f hf

theorem Settled.left {l : List Entry} {m : Net} (h : Settled l)
    (hm : m.state_ = .data_ready → m.fColdBoot = false) : Settled (.left m :: l) := by
  intro f hf
  rcases List.mem_cons.mp hf with rfl | hf
  · simpa [entered] using hm
  · exact h f hf

def Inv (n : Net) (l : List Entry) : Prop := (n.state_ = .data_ready → n.fColdBoot = false) ∧ Settled l

/-- Within a step that began in `b` and may go on to `data_ready`. -/
def Arriving (b : Net) (n : Net) (l : List Entry) : Prop :=
  n.fColdBoot = b.fColdBoot ∧ (b.fColdBoot = false → Settled l)

/-- Within such a step, before it does. -/
def Waiting (b : Net) (n : Net) (l : List Entry) : Prop := n.fColdBoot = b.fColdBoot ∧ Inv n l

theorem Inv.note {n : Net} {l : List Entry} {e : Entry} (h : Inv n l) (he : entered e = none) : Inv n (e :: l) :=
  ⟨h.1, h.2.note he⟩

theorem Waiting.arriving {b n : Net} {l : List Entry} (h : Waiting b n l) : Arriving b n l :=
  ⟨h.1, fun _ => h.2.2⟩

theorem Arriving.inv {b n : Net} {l : List Entry} (h : Arriving b n l) (hb : b.fColdBoot = false) : Inv n l :=
  ⟨fun _ => h.1.trans hb, h.2 hb⟩

section Steps

variable {G : Entry → Prop} {X : World → Prop} {b : Net}

instance : Blind Inv := ⟨fun _ _ _ h => h⟩
instance : Restarting Inv := ⟨fun _ _ h => h⟩
instance : Blind (Arriving b) := ⟨fun _ _ _ h => h⟩
instance : Blind (Waiting b) := ⟨fun _ _ _ h => h⟩

theorem Inv.move {n : Net} {l : List Entry} (m : Net.Move) (h : Inv n l) : Inv (n.move m) l := by
  refine ⟨fun hs => ?_, h.2⟩
  rw [Net.move_state_] at hs
  rw [Net.move_fColdBoot]
  exact h.1 hs

instance : Ordinary G Inv where
  move _ _ m h := h.move m
  data _ _ _ _ h := h
  other _ _ _ _ _ _ h := h.note rfl
  prompt _ _ _ _ _ _ h := h.note rfl
  config _ _ _ h := h
  reset _ _ h := h
  action _ _ _ _ h := h
  event _ _ _ _ h := h
  cfun _ _ _ _ _ _ h := h.note rfl
  ran _ _ _ _ _ _ h := h.note rfl
  polled _ _ _ _ h := h.note rfl
  called _ _ _ _ _ h := h.note rfl

instance : Timeless G Inv where
  st_timer _ _ _ h := h
  timer _ _ _ h := h
  started _ _ _ _ h := h.note rfl

theorem Arriving.note {n : Net} {l : List Entry} {e : Entry} (h : Arriving b n l) (he : entered e = none) :
    Arriving b n (e :: l) :=
  ⟨h.1, fun hb => (h.2 hb).note he⟩

instance : Acting G (Arriving b) where
  move _ _ m h := ⟨by simpa using h.1, h.2⟩
  data _ _ _ _ h := h
  other _ _ _ _ _ _ h := h.note rfl
  prompt _ _ _ _ _ _ h := h.note rfl
  reset _ _ h := h
  action _ _ _ _ h := h

instance : Timeless G (Arriving b) where
  st_timer _ _ _ h := h
  timer _ _ _ h := h
  started _ _ _ _ h := h.note rfl

instance : Acting G (Waiting b) where
  move _ _ m h := ⟨by simpa using h.1, h.2.move m⟩
  data _ _ _ _ h := h
  other _ _ _ _ _ _ h := ⟨h.1, h.2.note rfl⟩
  prompt _ _ _ _ _ _ h := ⟨h.1, h.2.note rfl⟩
  reset _ _ h := h
  action _ _ _ _ h := h

instance (cmd : AtCmd) : Preserves (Under G Inv) (exchange cmd) X :=
  exchange_preserves fun _ _ _ _ h => h.note rfl
instance (cmd : AtCmd) : Preserves (Under G (Arriving b)) (exchange cmd) X :=
  exchange_preserves fun _ _ _ _ h => h.note rfl
instance (s : ModemStatus) : Preserves (Under G Inv) (set_last_status s) X := ⟨triple_updateNet fun _ _ h => h⟩
instance (w : Bool) : Preserves (Under G Inv) (set_fWarmBoot w) X := ⟨triple_updateNet fun _ _ h => h⟩
instance (k : Conn) (f : ServerInfo → ServerInfo) : Preserves (Under G Inv) (update_server k f) X :=
  ⟨triple_updateNet fun _ _ h => h⟩
instance (n : Net) : Preserves (Under G Inv) (record (.loopEnd n)) X := ⟨triple_record fun _ _ _ h => h.note rfl⟩
instance (opened : Option ModemStatus) : Preserves (Under G Inv) (record (.resumed opened)) X :=
  ⟨triple_record fun _ _ _ h => h.note rfl⟩
instance (offers : List Offer) (n : Net) : Preserves (Under G (Arriving b)) (record (.searched offers n)) X :=
  ⟨triple_record fun _ _ _ h => h.note rfl⟩

instance : Preserves (Under G Inv) end_loop X := by unfold end_loop; infer_instance

instance (c : NetworkLteConfig) : Preserves (Under G Inv) (apply_boot_configuration c) X := by
  have : Preserves (Under G Inv) (set_fColdBoot false) X := ⟨triple_updateNet fun _ _ h => ⟨fun _ => rfl, h.2⟩⟩
  unfold apply_boot_configuration
  infer_instance

/-! ## Changes of state -/

theorem change_state_elsewhere {s : NetworkLteState} (hs : s ≠ .data_ready) :
    Triple (Under G Inv) (change_state s) (fun _ => Under G (In (· = s) Inv)) X :=
  triple_change_state_in (fun _ _ h => ⟨fun h => absurd h hs, h.2⟩) fun _ _ _ h => ⟨h.1, h.2.left h.1⟩

instance : Changes G Inv X := ⟨fun _ _ hs => ⟨triple_post (fun _ _ _ h => h.2) (change_state_elsewhere hs)⟩⟩
instance : Preserves (Under G Inv) (change_state .transparent_mode) X :=
  ⟨triple_post (fun _ _ _ h => h.2) (change_state_elsewhere (by decide))⟩

instance (s : NetworkLteState) : Preserves (Under G (Arriving b)) (change_state s) X := by
  refine ⟨triple_post (R := fun _ => In (· = s) (Arriving b)) (fun _ _ _ h => h.2) ?_⟩
  exact triple_change_state_in (fun _ _ h => h) fun n l _ h => ⟨h.1, fun hb => (h.2 hb).left fun _ => h.1.trans hb⟩

theorem change_state_ready :
    Triple (Under G (Waiting b)) (change_state .data_ready) (fun _ => Under G (Arriving b)) X :=
  triple_pre (fun _ _ h => h.arriving) Preserves.out

/-! ## The flag -/

instance : Preserves (Under G Inv) power_on X := by
  refine ⟨Triple.bind Preserves.out fun _ => Triple.bind Preserves.out fun _ => Triple.bind Preserves.out fun s => ?_⟩
  refine Triple.ite (fun _ => Preserves.out) fun _ => Triple.bind Preserves.out fun _ => ?_
  refine Triple.bind (change_state_elsewhere (by decide)) fun _ => Triple.bind Preserves.out fun _ => ?_
  refine Triple.bind (Q := fun _ => Under G Inv) (triple_updateNet fun n l h => ?_) fun _ => Preserves.out
  exact ⟨fun hs => absurd (h.1.symm.trans hs) (by decide), h.2.2⟩

theorem update_modem_spec (fuel : Nat) [CutTo (Under G Inv) X] [Rounds G Inv X] :
    Preserves (Under G Inv) (update_modem fuel) X := by
  refine ⟨Triple.bind (Preserves.out (m := net)) fun n => Triple.bind Preserves.out fun _ => ?_⟩
  refine Triple.bind triple_net fun m => Triple.ite (fun _ => triple_pure fun _ _ h => h.2) fun hm => ?_
  refine Triple.bind (Q := fun _ => Under G Inv) (triple_updateNet ?_) fun _ => Preserves.out
  rintro n l ⟨rfl, h⟩
  have hm : n.state_ = .modem_fota := by simpa using hm
  exact ⟨fun hs => absurd (hm.symm.trans hs) (by decide), h.2⟩

/-! ## The ways to data_ready -/

/-- At the end of a step about to be recorded as `e`. -/
def Arrived (b : Net) (e : Entry) (n : Net) (l : List Entry) : Prop :=
  arrives e = some b ∧ Arriving b n l ∨ Inv n l

theorem Arrived.inv {e : Entry} {n : Net} {l : List Entry} (h : Arrived b e n l) (he : Timely e)
    (hl : entered e = none) : Inv n (e :: l) := by
  rcases h with ⟨hb, h⟩ | h
  · exact (h.inv (he.cold hb)).note hl
  · exact h.note hl

theorem query_pdp_context_spec :
    Triple (Under G (Waiting b)) query_pdp_context
      (fun h => Under G (Arrived b (.ran .query_pdp_context b h))) X := by
  refine Triple.bind (Preserves.out (m := net)) fun n => ?_
  refine Triple.bind (Preserves.out (m := xE310.get_pdp_state _ _)) fun pdp => Triple.ite (fun _ => ?_) fun hok => ?_
  · exact triple_pure fun _ _ h => .inr h.2
  · refine Triple.ite (fun _ => ?_) fun hactive => ?_
    · exact triple_pre (fun _ _ h => h.2) (triple_post (R := fun _ => Inv) (fun _ _ _ h => .inr h) Preserves.out)
    · refine Triple.bind (Preserves.out (m := xE310.get_ip_address _ _)) fun ip => ?_
      refine Triple.bind (Preserves.out (m := updateData _)) fun _ => Triple.ite (fun _ => ?_) fun hip => ?_
      · exact triple_pure fun _ _ h => .inr h.2
      · refine Triple.bind change_state_ready fun _ => triple_pure fun m l h => .inl ⟨?_, h⟩
        simp only [not_not] at hok hip
        simp only [Bool.not_eq_true', Bool.not_eq_false] at hactive
        rw [hok, hip, hactive]
        rfl

theorem open_pdp_context_spec :
    Triple (Under G (Waiting b)) open_pdp_context
      (fun h => Under G (Arrived b (.ran .open_pdp_context b h))) X := by
  refine Triple.bind (Preserves.out (m := net)) fun n => ?_
  refine Triple.bind (Preserves.out (m := xE310.send _)) fun status => Triple.ite (fun hok => ?_) fun _ => ?_
  · refine Triple.bind change_state_ready fun _ => triple_pure fun m l h => .inl ⟨?_, h⟩
    rw [hok]
    rfl
  · exact triple_pure fun _ _ h => .inr h.2

theorem wake_up_spec :
    Triple (Under G fun n l => n = b ∧ Inv n l) wake_up (fun h => Under G (Arrived b (.ran .wake_up b h))) X := by
  refine triple_net_of (F := (· = b)) (fun n l h => h.1) fun n hn => Triple.ite (fun hp => ?_) fun _ => ?_
  · subst hn
    refine triple_pre (P := Waiting n) ?_ ?_
    · rintro m l ⟨rfl, h⟩
      exact ⟨rfl, h⟩
    · refine Triple.bind change_state_ready fun _ => Triple.bind (Preserves.out (m := call_action _)) fun _ => ?_
      exact triple_pure fun _ _ h => .inl ⟨if_pos hp, h⟩
  · exact triple_pre (fun _ _ h => h.2) (triple_post (R := fun _ => Inv) (fun _ _ _ h => .inr h) Preserves.out)

theorem readies_spec (fuel : Nat) {a : ModemAction} (ha : readies a = true) :
    Triple (Under G fun n l => n = b ∧ Inv n l) (perform fuel a) (fun h => Under G (Arrived b (.ran a b h))) X := by
  have hw (n : Net) (l : List Entry) (h : n = b ∧ Inv n l) : Waiting b n l := ⟨by rw [h.1], h.2⟩
  cases a <;> cases ha
  case wake_up => exact wake_up_spec
  case query_pdp_context => exact triple_pre hw query_pdp_context_spec
  case open_pdp_context => exact triple_pre hw open_pdp_context_spec

theorem connects_spec {t : Taken} (ht : connects t.event = true) :
    Triple (Under G fun n l => n = t.after ∧ Inv n l) (handle_event t.event)
      (fun h => Under G (Arrived t.after (.handled t h))) X := by
  have hw (n : Net) (l : List Entry) (h : n = t.after ∧ Inv n l) : Waiting t.after n l := ⟨by rw [h.1], h.2⟩
  rcases he : t.event <;> rw [he] at ht <;> cases ht
  case psm_exit =>
    refine triple_net_of (F := (· = t.after)) (fun n l h => h.1) fun n hn => ?_
    subst hn
    by_cases hp : t.after.prev_state_ = .data_ready
    · rw [if_pos hp]
      refine Triple.bind (triple_pre hw change_state_ready) fun _ => triple_pure fun _ _ h => .inl ⟨?_, h⟩
      exact if_pos (.inr ⟨he, hp⟩)
    · rw [if_neg hp]
      refine triple_pre (fun _ _ h => h.2) (Triple.bind (Q := fun _ => Under G Inv) Preserves.out fun _ => ?_)
      exact triple_pure fun _ _ h => .inr h
  case context_opened =>
    refine Triple.bind (triple_pre hw change_state_ready) fun _ => triple_pure fun _ _ h => .inl ⟨?_, h⟩
    exact if_pos (.inl he)

end Steps

/-! ## Runs -/

section Runs

variable {X : World → Prop}

instance : Preserves (Under Timely Inv) process_event X := by
  have hr (e : NetworkLteEvent) (he : connects e = false) : Preserves (Under Timely Inv) (handle_event e) X :=
    handle_event_but e (fun h => absurd (he.symm.trans h) (by decide)) fun _ => inferInstance
  refine ⟨Triple.bind (triple_take_event fun _ _ h => h) fun t => ?_⟩
  by_cases ht : connects t.event = true
  · exact Triple.bind (connects_spec ht) fun h => triple_record fun n l hg hn => hn.inv hg rfl
  · refine triple_pre (fun _ _ h => h.2) (Triple.bind (hr t.event (by simpa using ht)).out fun h => ?_)
    exact triple_record fun _ _ _ hn => hn.note rfl

instance (fuel : Nat) : Preserves (Under Timely Inv) (execute_actions fuel) := by
  refine ⟨Triple.bind (Preserves.out (m := get_action)) fun a => Triple.bind triple_net fun b => ?_⟩
  by_cases ha : readies a = true
  · exact Triple.bind (readies_spec fuel ha) fun h => triple_record fun n l hg hn => hn.inv hg rfl
  · have hp : Preserves (Under Timely Inv) (perform fuel a) :=
      perform_but fuel a (fun h => absurd h ha) (fun _ => inferInstance) (fun _ => inferInstance) (fun _ => inferInstance)
        (fun _ => inferInstance) (fun _ => inferInstance) (fun _ => inferInstance) (fun _ => inferInstance)
        fun _ => inferInstance
    refine triple_pre (fun _ _ h => h.2) (Triple.bind hp.out fun h => ?_)
    exact triple_record fun _ _ _ hn => hn.note rfl

/-- In `data_ready` the boot configuration is done, and a search does not undo it. -/
instance : Preserves (Under Timely Inv) force_psm X := by
  refine ⟨Triple.bind triple_net fun b => Triple.ite (fun _ => triple_pure fun _ _ h => h.2) fun hb => ?_⟩
  have hb : b.state_ = .data_ready := by simpa using hb
  refine triple_pre (P := fun n l => b.fColdBoot = false ∧ Arriving b n l) ?_ (triple_fact fun hc => ?_)
  · rintro n l ⟨rfl, h⟩
    exact ⟨h.1 hb, rfl, fun _ => h.2⟩
  · exact triple_post (R := fun _ => Arriving b) (fun _ _ _ h => h.inv hc) Preserves.out

end Runs

theorem run_inv (fuel : Nat) (calls : List Call) : Preserves (Under Timely Inv) (run fuel calls) := by
  refine run_preserves fuel (fun c => ?_) calls
  have := update_modem_spec (G := Timely) (X := Under Timely Inv) fuel
  have := exec_preserves (G := Timely) (P := Inv) (X := Under Timely Inv) fuel c (fun _ _ => inferInstance)
    (fun _ _ => inferInstance) (fun _ => inferInstance) (fun _ _ => inferInstance) fun _ _ => inferInstance
  infer_instance

/-- Where no step goes on to `data_ready` with the boot flag set, the flag is clear whenever the state is
`data_ready`: on every entry to it, and at the end of the run. -/
theorem boot_configuration_before_data (config : NetworkLteConfig) (with_timer : Bool) (env : Nat → Tick)
    (fuel : Nat) (calls : List Call) :
    let w := (run fuel calls (initial config with_timer env)).2
    (∀ e ∈ w.log, Timely e) →
      (w.net.state_ = .data_ready → w.net.fColdBoot = false) ∧
        ∀ n, .left n ∈ w.log → n.state_ = .data_ready → n.fColdBoot = false := by
  intro w hw
  have h : Inv w.net w.log := (run_inv fuel calls).final (s := initial config with_timer env)
    (fun _ => ⟨by simp [initial], by simp [Settled, initial]⟩) hw
  exact ⟨h.1, fun n hn => h.2 (.left n) hn n rfl⟩

/-- A network with an active context, and a batch at one tick. -/
def ready (i : Nat) (urcs : List Str) : Nat → Tick := fun j =>
  { body := .ofView _ "+CGACT: 1,1\n+CEREG: 0,1,1,1 \"10.0.0.2\"".toList, urcs := if i = j then urcs else [] }

theorem boot_configuration_before_data_connected :
    let w := (run 9 [.network_connect] (initial {} false (ready 0 []))).2
    w.net.state_ = .data_ready ∧ w.net.fColdBoot = false :=
  ⟨by decide +kernel, (boot_configuration_before_data {} false (ready 0 []) 9 [.network_connect]
    (by decide +kernel)).1 (by decide +kernel)⟩

def sets_up : Entry → Bool
  | .ran .setup_radio _ _ => true
  | _ => false

/-- The registration comes right after `power_on`, and `setup_radio` is never run. -/
theorem data_without_boot_configuration :
    let w := (run 9 [.network_connect] (initial {} false (ready 11 ["+CEREG: 1".toList]))).2
    w.net.state_ = .data_ready ∧ w.net.fColdBoot = true ∧ w.log.any sets_up = false := by
  decide +kernel

end LteModem.NetworkLte.ColdBoot
