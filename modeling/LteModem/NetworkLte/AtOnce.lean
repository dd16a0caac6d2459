import LteModem.NetworkLte.ColdBoot

/-!
# The answer of `network_connect` without a search

In five states the call answers at once, but a set boot flag `fWarmBoot` has it detach first. The flag is set from
the start, and `setup_radio` is what clears it, unless something else takes its place in the slot.
-/

open Prog Strings

set_option synthInstance.maxSize 100000

namespace LteModem.NetworkLte.AtOnce

/-! ## The log tells the flag -/

/-- The boot configuration was applied, and no `wake_up` has called for it again. -/
def configured : List Entry → Bool
  | [] => false
  | .ran .setup_radio _ h :: l => h = .nothing || configured l
  | .ran .wake_up b _ :: l => b.prev_state_ = .data_ready && configured l
  | _ :: l => configured l

/-- An entry that `configured` passes over. -/
def neutral : Entry → Bool
  | .ran .setup_radio .. | .ran .wake_up .. => false
  | _ => true

/-- A function of the log that neutral entries do not change. -/
class Ignores (c : List Entry → Bool) : Prop where
  out : ∀ e l, neutral e = true → c (e :: l) = c l

instance (b : Bool) : Ignores fun _ => b := ⟨fun _ _ _ => rfl⟩

instance : Ignores configured := by
  refine ⟨fun e l he => ?_⟩
  cases e with
  | ran a b h => cases a <;> first | rfl | cases he
  | _ => rfl

instance {c : List Entry → Bool} [h : Ignores c] : Ignores fun l => !c l :=
  ⟨fun e l he => congrArg _ (h.out e l he)⟩

/-- The flag is `c` of the log. -/
def Flag (c : List Entry → Bool) (n : Net) (l : List Entry) : Prop := n.fWarmBoot = c l

abbrev Inv : Net → List Entry → Prop := Flag fun l => !configured l

section Steps

variable {c : List Entry → Bool} [hc : Ignores c] {G : Entry → Prop} {X : World → Prop}

theorem Flag.note {n : Net} {l : List Entry} {e : Entry} (h : Flag c n l) (he : neutral e = true) : Flag c n (e :: l) :=
  h.trans (hc.out e l he).symm

instance : Blind (Flag c) := ⟨fun _ _ _ h => h⟩
instance : Restarting (Flag c) := ⟨fun _ _ h => h⟩

instance : Eventful G (Flag c) where
  move _ _ _ h := by simpa [Flag] using h
  data _ _ _ _ h := h
  other _ _ _ _ _ _ h := Flag.note h rfl
  prompt _ _ _ _ _ _ h := Flag.note h rfl
  reset _ _ h := h
  action _ _ _ _ h := h
  config _ _ _ h := h
  event _ _ _ _ h := h
  cfun _ _ _ _ _ _ h := Flag.note h rfl
  polled _ _ _ _ h := Flag.note h rfl
  called _ _ _ _ _ h := Flag.note h rfl

instance : Timeless G (Flag c) where
  st_timer _ _ _ h := h
  timer _ _ _ h := h
  started _ _ _ _ h := Flag.note h rfl

instance (cmd : AtCmd) : Preserves (Under G (Flag c)) (exchange cmd) X :=
  exchange_preserves fun _ _ _ _ h => Flag.note h rfl
instance (s : ModemStatus) : Preserves (Under G (Flag c)) (set_last_status s) X := ⟨triple_updateNet fun _ _ h => h⟩
instance (b : Bool) : Preserves (Under G (Flag c)) (set_fColdBoot b) X := ⟨triple_updateNet fun _ _ h => h⟩
instance (k : Conn) (f : ServerInfo → ServerInfo) : Preserves (Under G (Flag c)) (update_server k f) X :=
  ⟨triple_updateNet fun _ _ h => h⟩
instance (n : Net) : Preserves (Under G (Flag c)) (record (.loopEnd n)) X :=
  ⟨triple_record fun _ _ _ h => Flag.note h rfl⟩
instance (opened : Option ModemStatus) : Preserves (Under G (Flag c)) (record (.resumed opened)) X :=
  ⟨triple_record fun _ _ _ h => Flag.note h rfl⟩
instance (offers : List Offer) (n : Net) : Preserves (Under G (Flag c)) (record (.searched offers n)) X :=
  ⟨triple_record fun _ _ _ h => Flag.note h rfl⟩
instance (t : Taken) (h : Heard) : Preserves (Under G (Flag c)) (record (.handled t h)) X :=
  ⟨triple_record fun _ _ _ h => Flag.note h rfl⟩
instance : Preserves (Under G (Flag c)) end_loop X := by unfold end_loop; infer_instance

instance (s : NetworkLteState) : Preserves (Under G (Flag c)) (change_state s) X :=
  ⟨triple_post (fun _ _ _ h => h.2) (triple_change_state_in (fun _ _ h => h) fun _ _ _ h => Flag.note h rfl)⟩

end Steps

/-! ## The two actions that write the flag -/

section Actions

variable {G : Entry → Prop} {X : World → Prop} {b : Net}

theorem apply_boot_configuration_spec (c : NetworkLteConfig) :
    Triple (Under G Inv) (apply_boot_configuration c) (fun _ => Under G (Flag fun _ => false)) X := by
  unfold apply_boot_configuration
  refine Triple.bind (Q := fun _ => Under G (Flag fun _ => false)) (triple_updateNet fun _ _ _ => rfl) fun _ => ?_
  exact Preserves.out

/-- At the end of an action that is about to be recorded. -/
def Ran (a : ModemAction) (b : Net) (h : Heard) (n : Net) (l : List Entry) : Prop := Inv n (.ran a b h :: l)

theorem setup_radio_spec : Triple (Under G Inv) setup_radio (fun h => Under G (Ran .setup_radio b h)) X := by
  refine Triple.bind triple_net fun n => Triple.ite (fun _ => ?_) fun _ => ?_
  · refine triple_pre (fun _ _ h => h.2) ?_
    refine Triple.bind (Preserves.out (m := set_changed_bands n)) fun bands => ?_
    refine Triple.bind (Preserves.out (m := set_changed_rat n)) fun tech => ?_
    refine Triple.bind (Preserves.out (m := Prog.when _ _)) fun _ => triple_pure fun _ _ h => ?_
    simpa [Ran, Flag, configured] using h
  · refine Triple.bind (Q := fun _ => Under G (Flag fun _ => false)) (Triple.when (fun _ => ?_) fun hn => ?_) fun _ => ?_
    · exact triple_pre (fun _ _ h => h.2) (apply_boot_configuration_spec _)
    · rintro w hw hg
      obtain ⟨rfl, -⟩ := hw hg
      simp only [not_or, Bool.not_eq_true] at hn
      exact hn.1
    · refine Triple.bind (Preserves.out (m := change_state _)) fun _ => ?_
      refine Triple.bind (Preserves.out (m := call_action _)) fun _ => triple_pure fun _ _ h => ?_
      simpa [Ran, Flag, configured] using h

theorem wake_up_spec :
    Triple (Under G fun n l => n = b ∧ Inv n l) wake_up (fun h => Under G (Ran .wake_up b h)) X := by
  refine triple_net_of (F := (· = b)) (fun n l h => h.1) fun n hn => Triple.ite (fun hp => ?_) fun hp => ?_
  · refine triple_pre (fun _ _ h => h.2) ?_
    refine Triple.bind (Preserves.out (m := change_state _)) fun _ => ?_
    refine Triple.bind (Preserves.out (m := call_action _)) fun _ => triple_pure fun _ _ h => ?_
    simpa [Ran, Flag, configured, ← hn, hp] using h
  · refine Triple.bind (Q := fun _ => Under G (Flag fun _ => true)) (triple_updateNet fun _ _ _ => rfl) fun _ => ?_
    refine Triple.bind (Preserves.out (m := change_state _)) fun _ => ?_
    refine Triple.bind (Preserves.out (m := call_action _)) fun _ => triple_pure fun _ _ h => ?_
    simpa [Ran, Flag, configured, ← hn, hp] using h

end Actions

/-! ## Runs -/

section Runs

variable {G : Entry → Prop} {X : World → Prop}

theorem other_actions (fuel : Nat) {a : ModemAction} (hs : a ≠ .setup_radio) (hw : a ≠ .wake_up) [CutTo (Under G Inv) X] :
    Preserves (Under G Inv) (perform fuel a) X := by
  refine perform_but fuel a (fun hc => ?_) (fun h => absurd h hs) (fun _ => inferInstance) (fun _ => inferInstance)
    (fun _ => inferInstance) (fun _ => inferInstance) (fun _ => inferInstance) (fun _ => inferInstance)
    fun _ => inferInstance
  cases a <;> cases hc
  case wake_up => exact absurd rfl hw
  all_goals
    unfold perform
    infer_instance

instance (fuel : Nat) : Preserves (Under G Inv) (execute_actions fuel) := by
  refine ⟨Triple.bind (Preserves.out (m := get_action)) fun a => Triple.bind triple_net fun b => ?_⟩
  by_cases hs : a = .setup_radio
  · subst hs
    refine triple_pre (fun _ _ h => h.2) (Triple.bind (setup_radio_spec (b := b)) fun h => ?_)
    exact triple_record fun _ _ _ hn => hn
  by_cases hw : a = .wake_up
  · subst hw
    refine Triple.bind (wake_up_spec (b := b)) fun h => ?_
    exact triple_record fun _ _ _ hn => hn
  · refine triple_pre (fun _ _ h => h.2) (Triple.bind (other_actions fuel hs hw).out fun h => ?_)
    refine triple_record fun _ _ _ hn => hn.note ?_
    cases a <;> first | rfl | contradiction

instance : Preserves (Under G Inv) force_psm X := by
  unfold force_psm
  infer_instance

theorem run_inv (fuel : Nat) (calls : List Call) : Preserves (Under G Inv) (run fuel calls) := by
  refine run_preserves fuel (fun c => ?_) calls
  have := exec_preserves (G := G) (P := Inv) (X := Under G Inv) fuel c (fun _ _ => inferInstance)
    (fun _ _ => inferInstance) (fun _ => inferInstance) (fun _ _ => inferInstance) fun _ _ => inferInstance
  infer_instance

theorem run_flag (config : NetworkLteConfig) (with_timer : Bool) (env : Nat → Tick) (fuel : Nat) (calls : List Call) :
    let w := (run fuel calls (initial config with_timer env)).2
    w.net.fWarmBoot = !configured w.log := by
  intro w
  have h : Under Always Inv w := (run_inv fuel calls).final (s := initial config with_timer env) fun _ => rfl
  exact h fun _ _ => trivial

end Runs

/-! ## network_connect -/

/-- The states in which the call answers at once. -/
def answers : NetworkLteState → Bool
  | .transparent_mode | .gnss_fix_mode | .modem_fota | .done | .data_ready => true
  | _ => false

/-- No command is sent and nothing changes, and the result says whether there is a connection. -/
def Untouched (fuel : Nat) (w : World) : Prop :=
  network_connect fuel w = (some (decide (w.net.state_ = .data_ready)), w)

theorem connect_early (fuel : Nat) {w : World} (hs : answers w.net.state_ = true) (hf : w.net.fWarmBoot = false) :
    Untouched fuel w := by
  unfold Untouched network_connect
  cases h : w.net.state_ <;> rw [h] at hs <;> first | contradiction | simp [Prog.bind_run, net, Prog.when, hf, h]

theorem connect_detaches (fuel : Nat) {w : World} (hs : answers w.net.state_ = true) (hf : w.net.fWarmBoot = true) :
    ∃ a, (network_connect fuel w).2.log = .exchange (.other .network_detach) a :: w.log := by
  have hm : ((w.env w.clock).moves.foldl Net.move w.net).state_ = w.net.state_ :=
    Net.moves_keep Net.move_state_ _ _
  refine ⟨(w.env w.clock).answer, ?_⟩
  unfold network_connect
  cases h : w.net.state_ <;> rw [h] at hs hm <;>
    first
      | contradiction
      | simp [Prog.bind_run, net, Prog.when, hf, hm, xE310.send, exchange, tick, take_answer]

/-- In every run, `network_connect` leaves a machine that it answers at once alone exactly when the boot flag is clear,
that is, when the boot configuration was applied and no `wake_up` has called for it again. -/
theorem run_connect_untouched_iff (config : NetworkLteConfig) (with_timer : Bool) (env : Nat → Tick)
    (fuel fuel' : Nat) (calls : List Call) :
    let w := (run fuel calls (initial config with_timer env)).2
    answers w.net.state_ = true →
      (Untouched fuel' w ↔ w.net.fWarmBoot = false) ∧ (w.net.fWarmBoot = false ↔ configured w.log = true) := by
  intro w hs
  constructor
  · refine ⟨fun h => ?_, connect_early fuel' hs⟩
    by_contra hf
    obtain ⟨a, ha⟩ := connect_detaches fuel' hs (by simpa using hf)
    rw [show network_connect fuel' w = _ from h] at ha
    simpa using congrArg List.length ha
  · rw [run_flag config with_timer env fuel calls]
    simp [w]

theorem run_connect_untouched_again :
    let w := (run 9 [.network_connect] (initial {} false (ColdBoot.ready 0 []))).2
    w.net.state_ = .data_ready ∧ Untouched 9 w := by
  have h : let w := (run 9 [.network_connect] (initial {} false (ColdBoot.ready 0 []))).2
      w.net.state_ = .data_ready ∧ w.net.fWarmBoot = false := by
    decide +kernel
  exact ⟨h.1, (run_connect_untouched_iff {} false (ColdBoot.ready 0 []) 9 9 [.network_connect]
    (by rw [h.1]; rfl)).1.mpr h.2⟩

def detaches : Entry → Bool
  | .exchange (.other .network_detach) _ => true
  | _ => false

/-- The registration takes the place of `setup_radio`. The next call says that there is a connection and drops it. -/
theorem connected_and_detached :
    let w := (run 9 [.network_connect] (initial {} false (ColdBoot.ready 11 ["+CEREG: 1".toList]))).2
    let v := (network_connect 9 w).2
    w.net.state_ = .data_ready ∧ (network_connect 9 w).1 = some true ∧
      v.log.length = w.log.length + 1 ∧ v.log.head?.any detaches = true := by
  decide +kernel

end LteModem.NetworkLte.AtOnce
