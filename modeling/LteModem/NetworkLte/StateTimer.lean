import LteModem.NetworkLte.Frame

/-!
# The state timer belongs to the current state

`change_state` stops the timer of the state it leaves and starts the one of the state it enters.
`force_psm` stops and starts it on its own: when no operator grants power saving it has gone to
`idle_mode` in between, and the timer it starts belongs to no state.
-/

open Prog

set_option synthInstance.maxSize 100000

namespace LteModem.NetworkLte.StateTimer

/-- The running timer was started as `change_state` starts the one of the current state. -/
def Owned (n : Net) : Prop :=
  n.st_timer.running = true → n.state_.timed = true ∧
    ∃ cb, n.st_timer.cb = some cb ∧ entryTimer cb.config n.state_ = some (n.st_timer.timeout_ms, cb.raises)

def foundRunning : Entry → Bool
  | .started e => e = .already_running
  | _ => false

/-- `change_state` never found the timer running. -/
def StartsOk (l : List Entry) : Prop := ∀ e ∈ l, foundRunning e = false

instance (l : List Entry) : Decidable (StartsOk l) := inferInstanceAs (Decidable (∀ e ∈ l, foundRunning e = false))

/-- Every search of `force_psm` found an operator that grants power saving. -/
def granted : Entry → Bool
  | .searched offers _ => offers.any Offer.grants
  | _ => true

def Granted (e : Entry) : Prop := granted e = true

instance : DecidablePred Granted := fun e => inferInstanceAs (Decidable (granted e = true))

def Inv (n : Net) (l : List Entry) : Prop := Owned n ∧ StartsOk l

def Paused (s : NetworkLteState) (c : Prop) (n : Net) (l : List Entry) : Prop :=
  n.state_ = s ∧ (n.st_timer.running = true → c) ∧ StartsOk l

theorem StartsOk.cons {l : List Entry} {e : Entry} (h : StartsOk l) (he : foundRunning e = false) :
    StartsOk (e :: l) :=
  List.forall_mem_cons.mpr ⟨he, h⟩

theorem move_owned (n : Net) (m : Net.Move) (h : Owned n) : Owned (n.move m) := by
  intro hr
  have ht := n.move_st_timer m hr
  rw [ht] at hr
  simpa [ht] using h hr

instance : Blind Inv := ⟨fun _ _ _ h => h⟩
instance : Restarting Inv := ⟨fun _ _ h => h⟩

instance : Free Granted Inv where
  move n _ m h := ⟨move_owned n m h.1, h.2⟩
  data _ _ _ _ h := h
  last_status _ _ _ h := h
  other _ _ _ _ _ _ h := ⟨h.1, h.2.cons rfl⟩
  prompt _ _ _ _ _ _ h := ⟨h.1, h.2.cons rfl⟩
  cold _ _ _ h := h
  warm _ _ _ h := h
  config _ _ _ h := h
  reset _ _ h := h
  action _ _ _ _ h := h
  event _ _ _ _ h := h
  urc _ _ _ _ _ _ h := ⟨h.1, h.2.cons rfl⟩
  cfun _ _ _ _ _ _ h := ⟨h.1, h.2.cons rfl⟩
  ran _ _ _ _ _ _ h := ⟨h.1, h.2.cons rfl⟩
  polled _ _ _ _ h := ⟨h.1, h.2.cons rfl⟩
  loopEnd _ _ _ _ h := ⟨h.1, h.2.cons rfl⟩
  called _ _ _ _ _ h := ⟨h.1, h.2.cons rfl⟩

instance (s : NetworkLteState) (c : Prop) : Blind (Paused s c) := ⟨fun _ _ _ h => h⟩

instance (s : NetworkLteState) (c : Prop) : Free Granted (Paused s c) where
  move n _ m h := by
    refine ⟨by simpa using h.1, fun hr => h.2.1 ?_, h.2.2⟩
    rwa [n.move_st_timer m hr] at hr
  data _ _ _ _ h := h
  last_status _ _ _ h := h
  other _ _ _ _ _ _ h := ⟨h.1, h.2.1, h.2.2.cons rfl⟩
  prompt _ _ _ _ _ _ h := ⟨h.1, h.2.1, h.2.2.cons rfl⟩
  cold _ _ _ h := h
  warm _ _ _ h := h
  config _ _ _ h := h
  reset _ _ h := h
  action _ _ _ _ h := h
  event _ _ _ _ h := h
  urc _ _ _ _ _ _ h := ⟨h.1, h.2.1, h.2.2.cons rfl⟩
  cfun _ _ _ _ _ _ h := ⟨h.1, h.2.1, h.2.2.cons rfl⟩
  ran _ _ _ _ _ _ h := ⟨h.1, h.2.1, h.2.2.cons rfl⟩
  polled _ _ _ _ h := ⟨h.1, h.2.1, h.2.2.cons rfl⟩
  loopEnd _ _ _ _ h := ⟨h.1, h.2.1, h.2.2.cons rfl⟩
  called _ _ _ _ _ h := ⟨h.1, h.2.1, h.2.2.cons rfl⟩

/-! ## change_state -/

section Run

variable {X : World → Prop}

theorem leave_state_spec (prev s : NetworkLteState) :
    Triple (Under Granted (Paused s (prev.timed = true))) (leave_state prev)
      (fun _ => Under Granted (Paused s False)) X := by
  unfold leave_state
  refine Triple.ite (fun _ => ?_) fun h => Triple.pure fun w hw hg => ?_
  · refine Triple.bind (Preserves.out (m := state_timer_elapsed)) fun _ => ?_
    refine Triple.bind (Preserves.out (m := updateData _)) fun _ => ?_
    refine triple_stop_state_timer (Still.move Granted) fun n l hn => ?_
    exact ⟨hn.1, by simp, hn.2.2⟩
  · exact ⟨(hw hg).1, fun hr => h ((hw hg).2.1 hr), (hw hg).2.2⟩

theorem entryTimer_timed {c : NetworkLteConfig} {s : NetworkLteState} {t : Nat × Bool}
    (h : entryTimer c s = some t) : s.timed = true := by
  cases s <;> first | rfl | simp [entryTimer] at h

def PausedWith (s : NetworkLteState) (c : NetworkLteConfig) (n : Net) (l : List Entry) : Prop :=
  n.lteConfig = c ∧ Paused s False n l

theorem triple_net_paused (s : NetworkLteState) :
    Triple (Under Granted (Paused s False)) net (fun n => Under Granted (PausedWith s n.lteConfig)) X :=
  fun _ hw hg => ⟨rfl, hw hg⟩

theorem start_spec {s : NetworkLteState} {c : NetworkLteConfig} {timeout_ms : Nat} {raises : Bool}
    (ht : entryTimer c s = some (timeout_ms, raises)) :
    Triple (Under Granted (PausedWith s c)) (start_state_timer timeout_ms raises)
      (fun e => Under Granted fun n l => e = .ok ∧ Inv n l) X := by
  refine triple_start_state_timer (fun n l m hn => ?_) ?_
  · exact ⟨by simpa using hn.1, Still.move Granted n l m hn.2⟩
  · rintro n l now ⟨hc, rfl, hr, hl⟩
    rw [Timer.start_of_stopped _ _ _ _ (by simpa using hr)]
    exact ⟨rfl, fun _ => ⟨entryTimer_timed ht, _, rfl, by rw [hc]; exact ht⟩, hl⟩

theorem enter_timer_spec (s : NetworkLteState) :
    Triple (Under Granted (Paused s False)) (enter_timer s) (fun _ => Under Granted Inv) X := by
  unfold enter_timer
  refine Triple.bind (triple_net_paused s) fun c => ?_
  rcases ht : entryTimer c.lteConfig s with _ | ⟨timeout_ms, raises⟩
  · refine Triple.pure fun w hw hg => ?_
    obtain ⟨-, -, hr, hl⟩ := hw hg
    exact ⟨fun h => (hr h).elim, hl⟩
  · refine Triple.bind (start_spec ht) fun e => triple_record ?_
    rintro n l - ⟨rfl, ho, hl⟩
    exact ⟨ho, hl.cons rfl⟩

instance (s : NetworkLteState) : Preserves (Under Granted Inv) (change_state s) X := by
  refine ⟨triple_change_state (A := fun prev => Paused s (prev.timed = true)) (B := Paused s False)
    (C := Paused s False) ?_ ?_ (fun prev _ => leave_state_spec prev s) ?_ ?_⟩
  · exact fun _ _ h _ => h
  · exact fun n l h _ => ⟨rfl, fun hr => (h.1 hr).1, h.2⟩
  · exact fun n l _ h => ⟨h.1, h.2.1, h.2.2.cons rfl⟩
  · refine Triple.bind (Preserves.out (m := Prog.when _ refresh_info)) fun _ => ?_
    exact Triple.bind (enter_timer_spec s) fun _ => Preserves.out

/-! ## force_psm -/

theorem resume_state_timer_spec (c : NetworkLteConfig) :
    Triple (Under Granted (PausedWith .data_ready c)) (resume_state_timer c)
      (fun _ => Under Granted Inv) X := by
  refine Triple.ite (fun h => ?_) fun h => ?_
  all_goals
    refine triple_post (fun _ _ _ h => h.2) (start_spec ?_)
    simp [entryTimer, h]

instance : Preserves (Under Granted Inv) force_psm X := by
  refine ⟨Triple.bind triple_net fun c => Triple.ite (fun _ => triple_pure ?_) fun hs => ?_⟩
  · exact fun _ _ h => h.2
  · have hs : c.state_ = .data_ready := by simpa using hs
    refine Triple.bind (Q := fun _ => Under Granted (Paused .data_ready False)) ?_ fun _ => ?_
    · refine triple_pre (P := fun n l => n.state_ = .data_ready ∧ Inv n l) ?_
        (triple_stop_state_timer ?_ ?_)
      · exact fun n l hn => ⟨by rw [hn.1, hs], hn.2⟩
      · exact fun n l m hn => ⟨by simpa using hn.1, Still.move Granted n l m hn.2⟩
      · exact fun n l hn => ⟨hn.1, by simp, hn.2.2⟩
    · refine Triple.bind (Preserves.out (m := set_urcs false)) fun _ => ?_
      refine Triple.bind (Preserves.out (m := xE310.send _)) fun _ => ?_
      refine Triple.bind (Preserves.out (m := xE310.get_available_operators _)) fun operators => ?_
      refine Triple.bind (Preserves.out (m := try_operators _)) fun offers => ?_
      refine Triple.bind (Preserves.out (m := net)) fun m => ?_
      refine Triple.bind (Q := fun _ => Under Granted fun n l =>
        offers.any Offer.grants = true ∧ Paused .data_ready False n l) (triple_record ?_) fun _ => ?_
      · exact fun n l hg hn => ⟨hg, hn.1, hn.2.1, hn.2.2.cons rfl⟩
      · refine Triple.bind (Q := fun _ => Under Granted (Paused .data_ready False)) ?_ fun _ => ?_
        · cases h : offers.any Offer.grants
          · exact triple_absurd fun n l hn => by simp at hn
          · exact triple_pre (fun _ _ h => h.2) (change_state_same fun n l hn => hn.1)
        · refine Triple.bind (triple_net_paused _) fun n => ?_
          exact Triple.bind (resume_state_timer_spec n.lteConfig) fun _ => Preserves.out

/-! ## Runs -/

instance (cmd : AtCmd) : Preserves (Under Granted Inv) (exchange cmd) X :=
  exchange_preserves fun _ _ _ _ h => ⟨h.1, h.2.cons rfl⟩
instance (k : Conn) (f : ServerInfo → ServerInfo) : Preserves (Under Granted Inv) (update_server k f) X :=
  ⟨triple_updateNet fun _ _ h => h⟩
instance (opened : Option ModemStatus) : Preserves (Under Granted Inv) (record (.resumed opened)) X :=
  ⟨triple_record fun _ _ _ h => ⟨h.1, h.2.cons rfl⟩⟩
instance (t : Taken) (h : Heard) : Preserves (Under Granted Inv) (record (.handled t h)) X :=
  ⟨triple_record fun _ _ _ h => ⟨h.1, h.2.cons rfl⟩⟩

instance (f : Net → Nat → Timer Callback → TimerError × Timer Callback) :
    Preserves (Under Granted Inv) (on_timer f) X :=
  on_timer_preserves fun _ _ _ _ _ h => h

instance (ms : Nat) : Preserves (Under Granted Inv) (start_timer ms) X := by
  unfold start_timer; infer_instance
instance : Preserves (Under Granted Inv) stop_timer X := by unfold stop_timer; infer_instance
instance (ms : Nat) : Preserves (Under Granted Inv) (reset_timer ms) X := by
  unfold reset_timer; infer_instance

theorem run_inv (fuel : Nat) (calls : List Call) : Preserves (Under Granted Inv) (run fuel calls) := by
  refine run_preserves fuel (fun c => ?_) calls
  have := exec_preserves (G := Granted) (P := Inv) (X := Under Granted Inv) fuel c
    (fun _ _ => inferInstance) (fun _ _ => inferInstance) (fun _ => inferInstance) (fun _ _ => inferInstance)
    fun _ _ => inferInstance
  infer_instance

end Run

/-- Every call of a run ends a shorter run, so this is about the end of every call. -/
theorem run_owned (config : NetworkLteConfig) (with_timer : Bool) (env : Nat → Tick) (fuel : Nat)
    (calls : List Call) :
    let w := (run fuel calls (initial config with_timer env)).2
    (∀ e ∈ w.log, Granted e) → Owned w.net ∧ StartsOk w.log := by
  refine (run_inv fuel calls).final fun _ => ⟨fun h => ?_, fun e he => ?_⟩
  · simp [initial] at h
  · simp [initial] at he

/-- A modem that answers every command with the same text. -/
def always (body : String) : Nat → Tick := fun _ => { body := .ofView _ body.toList }

theorem run_owned_granted :
    let w := (run 9 [.network_connect, .force_psm]
      (initial {} false (always "+CEREG: 0,1,1,1,60,1(2,\"A\",\"A\",\"26801\",7)"))).2
    w.net.st_timer.running = true ∧ w.net.state_ = .data_ready ∧ Owned w.net ∧ StartsOk w.log :=
  ⟨by decide +kernel, by decide +kernel, run_owned _ _ _ _ _ (by decide +kernel)⟩

/-- No operator is found: the timer of `data_ready` runs in `idle_mode`, and the next attach cannot
start its own. -/
theorem timer_outlives_data_ready :
    let w := (run 9 [.network_connect, .force_psm] (initial {} false (always "+CEREG: 0,1,1,1"))).2
    let v := (run 9 [.network_connect, .force_psm, .network_disconnect, .loop]
      (initial {} false (always "+CEREG: 0,1,1,1"))).2
    (w.net.st_timer.running = true ∧ w.net.state_ = .idle_mode ∧ ¬ Owned w.net) ∧
      v.net.state_ = .network_attaching ∧ ¬ StartsOk v.log := by
  intro w v
  have hr : w.net.st_timer.running = true := by decide +kernel
  have hs : w.net.state_ = .idle_mode := by decide +kernel
  refine ⟨⟨hr, hs, fun h => ?_⟩, by decide +kernel, by decide +kernel⟩
  have ht := (h hr).1
  rw [hs] at ht
  exact absurd ht (by decide)

end LteModem.NetworkLte.StateTimer
