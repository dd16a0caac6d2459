import LteModem.NetworkLte.Frame

/-!
# A timeout acts on the state that armed it

The timer thread raises `timeout` at any time, and `change_state` takes back neither a pending event nor
a callback that is already out. A timeout is therefore handled in the state of its timer as long as
nothing of the kind is under way when a state is left.
-/

open Prog

set_option synthInstance.maxSize 100000

namespace LteModem.NetworkLte.StaleTimeout

/-- If it runs, it was started during this visit. -/
def StartedIn (visit : Nat) (t : Timer Callback) : Prop :=
  t.running = true → ∀ cb, t.cb = some cb → cb.visit = visit

structure Fresh (n : Net) : Prop where
  event : n.event_ = .timeout → n.event_visit = n.visit
  callbacks : ∀ cb ∈ n.callbacks, cb.visit = n.visit
  st_timer : StartedIn n.visit n.st_timer
  timer : ∀ t, n.timer_ = some t → StartedIn n.visit t

theorem Fresh.same {n m : Net} (h : Fresh n)
    (he : (m.event_, m.event_visit, m.visit, m.callbacks, m.st_timer, m.timer_) =
      (n.event_, n.event_visit, n.visit, n.callbacks, n.st_timer, n.timer_)) : Fresh m := by
  simp only [Prod.mk.injEq] at he
  obtain ⟨h1, h2, h3, h4, h5, h6⟩ := he
  refine ⟨?_, ?_, ?_, ?_⟩
  · rw [h1, h2, h3]; exact h.event
  · rw [h3, h4]; exact h.callbacks
  · rw [h3, h5]; exact h.st_timer
  · rw [h3, h6]; exact h.timer

/-- A timeout was handled that a timer of another visit had raised. -/
def stale : Entry → Bool
  | .handled t _ => t.event = .timeout ∧ t.stamp ≠ t.after.visit
  | _ => false

def NoneStale (l : List Entry) : Prop := ∀ e ∈ l, stale e = false

instance (l : List Entry) : Decidable (NoneStale l) := inferInstanceAs (Decidable (∀ e ∈ l, stale e = false))

/-- When a state is left, no timeout is pending, no callback is out and no timer runs. -/
def clean : Entry → Bool
  | .left n => n.event_ ≠ .timeout ∧ n.callbacks.isEmpty ∧ n.st_timer.running = false ∧
      n.timer_.all fun t => t.running = false
  | _ => true

def Clean (e : Entry) : Prop := clean e = true

instance : DecidablePred Clean := fun e => inferInstanceAs (Decidable (clean e = true))

def Inv (n : Net) (l : List Entry) : Prop := Fresh n ∧ NoneStale l

theorem NoneStale.cons {l : List Entry} {e : Entry} (h : NoneStale l) (he : stale e = false) :
    NoneStale (e :: l) :=
  List.forall_mem_cons.mpr ⟨he, h⟩

/-! ## The timer thread -/

theorem expire_startedIn {v : Nat} {t : Timer Callback} (h : StartedIn v t) :
    StartedIn v t.expire.2 ∧ ∀ cb ∈ (t.expire.1.filter (·.raises)).toList, cb.visit = v := by
  refine ⟨fun hr => by simp at hr, fun cb hcb => ?_⟩
  unfold Timer.expire at hcb
  split at hcb
  · rename_i hr
    refine h hr cb ?_
    simp only [Option.mem_toList] at hcb
    exact (Option.mem_filter_iff.mp hcb).1
  · simp at hcb

theorem move_fresh (n : Net) (m : Net.Move) (h : Fresh n) : Fresh (n.move m) := by
  unfold Net.move Net.put
  split
  · have ht := expire_startedIn h.st_timer
    refine ⟨h.event, fun cb hcb => ?_, ht.1, h.timer⟩
    rcases List.mem_append.mp hcb with hcb | hcb
    · exact h.callbacks cb hcb
    · exact ht.2 cb hcb
  · split
    · exact h
    · rename_i t hn
      have ht := expire_startedIn (h.timer t hn)
      refine ⟨h.event, fun cb hcb => ?_, h.st_timer, ?_⟩
      · rcases List.mem_append.mp hcb with hcb | hcb
        · exact h.callbacks cb hcb
        · exact ht.2 cb hcb
      · rintro _ ⟨⟩
        exact ht.1
  · split
    · exact h
    · rename_i i cb hi
      refine ⟨fun _ => h.callbacks cb (List.mem_of_getElem? hi), fun c hc => ?_, h.st_timer, h.timer⟩
      exact h.callbacks c (List.mem_of_mem_eraseIdx hc)

instance : Blind Inv := ⟨fun _ _ _ h => ⟨h.1.same rfl, h.2⟩⟩
instance : Restarting Inv := ⟨fun _ _ h => ⟨h.1.same rfl, h.2⟩⟩

instance : Free Clean Inv where
  move n _ m h := ⟨move_fresh n m h.1, h.2⟩
  data _ _ _ _ h := ⟨h.1.same rfl, h.2⟩
  last_status _ _ _ h := ⟨h.1.same rfl, h.2⟩
  other _ _ _ _ _ _ h := ⟨h.1.same rfl, h.2.cons rfl⟩
  prompt _ _ _ _ _ _ h := ⟨h.1, h.2.cons rfl⟩
  cold _ _ _ h := ⟨h.1.same rfl, h.2⟩
  warm _ _ _ h := ⟨h.1.same rfl, h.2⟩
  config _ _ _ h := ⟨h.1.same rfl, h.2⟩
  reset _ _ h := ⟨h.1.same rfl, h.2⟩
  action _ _ _ _ h := ⟨h.1.same rfl, h.2⟩
  event _ _ _ he h := ⟨⟨fun ht => absurd ht he, h.1.callbacks, h.1.st_timer, h.1.timer⟩, h.2⟩
  urc _ _ _ _ _ _ h := ⟨h.1.same rfl, h.2.cons rfl⟩
  cfun _ _ _ _ _ _ h := ⟨h.1.same rfl, h.2.cons rfl⟩
  ran _ _ _ _ _ _ h := ⟨h.1, h.2.cons rfl⟩
  polled _ _ _ _ h := ⟨h.1, h.2.cons rfl⟩
  loopEnd _ _ _ _ h := ⟨h.1, h.2.cons rfl⟩
  called _ _ _ _ _ h := ⟨h.1, h.2.cons rfl⟩

section Run

variable {X : World → Prop}

/-! ## Timers -/

instance (t : Nat) (r : Bool) : Preserves (Under Clean Inv) (start_state_timer t r) X := by
  refine ⟨triple_start_state_timer (Still.move Clean) fun n l now h => ⟨⟨?_, ?_, ?_, ?_⟩, h.2⟩⟩
  · exact h.1.event
  · exact h.1.callbacks
  · intro hr cb hcb
    unfold Timer.start at hr hcb
    split at hcb
    · exact h.1.st_timer ‹_› cb hcb
    · cases hcb
      rfl
  · exact h.1.timer

instance : Preserves (Under Clean Inv) stop_state_timer X := by
  refine ⟨triple_stop_state_timer (Still.move Clean) fun n l h => ⟨⟨?_, ?_, ?_, ?_⟩, h.2⟩⟩
  · exact h.1.event
  · exact h.1.callbacks
  · exact fun hr => by simp at hr
  · exact h.1.timer

theorem on_timer_fresh {f : Net → Nat → Timer Callback → TimerError × Timer Callback}
    (h : ∀ n now t, StartedIn n.visit t → StartedIn n.visit (f n now t).2) :
    Preserves (Under Clean Inv) (on_timer f) X := by
  refine on_timer_preserves fun n l now t ht hn => ⟨⟨hn.1.event, hn.1.callbacks, hn.1.st_timer, ?_⟩, hn.2⟩
  rintro _ ⟨⟩
  exact h n now t (hn.1.timer t ht)

instance (ms : Nat) : Preserves (Under Clean Inv) (start_timer ms) X := by
  refine on_timer_fresh fun n now t h hr cb hcb => ?_
  unfold Timer.start at hr hcb
  split at hcb
  · exact h ‹_› cb hcb
  · cases hcb
    rfl

instance : Preserves (Under Clean Inv) stop_timer X :=
  on_timer_fresh fun n now t h hr => by simp at hr

instance (ms : Nat) : Preserves (Under Clean Inv) (reset_timer ms) X := by
  refine on_timer_fresh fun n now t h hr cb hcb => ?_
  obtain ⟨c, -, rfl⟩ := Option.map_eq_some_iff.mp hcb
  rfl

/-! ## change_state -/

def Between (_ : Net) (l : List Entry) : Prop := NoneStale l

instance : Blind Between := ⟨fun _ _ _ h => h⟩

instance : Stable Clean Between where
  move _ _ _ h := h
  data _ _ _ _ h := h
  other _ _ _ _ _ _ h := h.cons rfl
  prompt _ _ _ _ _ _ h := h.cons rfl

instance (prev : NetworkLteState) : Preserves (Under Clean Between) (leave_state prev) X := by
  have : Preserves (Under Clean Between) stop_state_timer X :=
    ⟨triple_stop_state_timer (Still.move Clean) fun _ _ h => h⟩
  unfold leave_state
  infer_instance

theorem fresh_of_clean {n : Net} (h : Clean (.left n)) : Fresh n := by
  have h : n.event_ ≠ .timeout ∧ n.callbacks.isEmpty ∧ n.st_timer.running = false ∧
      n.timer_.all fun t => t.running = false := of_decide_eq_true h
  obtain ⟨he, hc, hs, ht⟩ := h
  refine ⟨fun hn => absurd hn he, fun cb hcb => ?_, fun hr => by simp [hs] at hr, fun t hn hr => ?_⟩
  · simp [List.isEmpty_iff.mp hc] at hcb
  · simp [hn, hr] at ht

instance (cmd : AtCmd) : Preserves (Under Clean Inv) (exchange cmd) X :=
  exchange_preserves fun _ _ _ _ h => ⟨h.1.same rfl, h.2.cons rfl⟩

instance (e : TimerError) : Preserves (Under Clean Inv) (record (.started e)) X :=
  ⟨triple_record fun _ _ _ h => ⟨h.1, h.2.cons rfl⟩⟩

instance (s : NetworkLteState) : Preserves (Under Clean Inv) (enter_timer s) X := by
  refine ⟨Triple.bind (Preserves.out (m := net)) fun c => ?_⟩
  rcases entryTimer c.lteConfig s with _ | ⟨timeout_ms, raises⟩ <;> exact Preserves.out

instance (s : NetworkLteState) : Preserves (Under Clean Inv) (change_state s) X := by
  refine ⟨triple_change_state (A := fun _ => Between) (B := Between) (C := Inv) ?_ ?_ ?_ ?_ Preserves.out⟩
  · exact fun _ _ h _ => h
  · exact fun _ _ h _ => h.2
  · exact fun _ _ => Preserves.out
  · exact fun _ _ hg hl => ⟨fresh_of_clean hg, hl.cons rfl⟩

/-! ## Events -/

theorem get_event_spec :
    Triple (Under Clean Inv) get_event
      (fun t => Under Clean fun n l => (t.event = .timeout → t.stamp = t.after.visit) ∧ Inv n l) X := by
  refine Triple.bind (Preserves.out (m := tick)) fun _ => Triple.bind triple_net fun n => ?_
  let Since (m : Net) (l : List Entry) : Prop :=
    m.visit = n.visit ∧ (n.event_ = .timeout → n.event_visit = n.visit) ∧ Inv m l
  have hm : ∀ m l v, Since m l → Since (m.move v) l := fun m l v h =>
    ⟨by simpa using h.1, h.2.1, Still.move Clean m l v h.2.2⟩
  refine Triple.bind (Q := fun _ => Under Clean Since)
    (triple_pre ?_ (triple_tick hm)) fun _ => ?_
  · rintro m l ⟨rfl, h⟩
    exact ⟨rfl, h.1.event, h⟩
  · refine Triple.bind (Preserves.out (m := net)) fun _ => ?_
    refine Triple.bind (Q := fun _ => Under Clean Since) (triple_updateNet ?_) fun _ => ?_
    · exact fun m l h => ⟨h.1, h.2.1, Eventful.event Clean m l .none (by decide) h.2.2⟩
    · refine Triple.bind triple_net fun m => triple_pure ?_
      rintro _ l ⟨rfl, hv, he, h⟩
      exact ⟨fun ht => (he ht).trans hv.symm, h⟩

end Run

instance : Preserves (Under Clean Inv) process_event := by
  refine ⟨Triple.bind get_event_spec fun t => ?_⟩
  by_cases ht : t.event = .timeout → t.stamp = t.after.visit
  · refine Triple.bind (Q := fun _ => Under Clean Inv) ?_ fun h => triple_record fun n l _ hn => ?_
    · exact triple_pre (fun _ _ h => h.2) Preserves.out
    · refine ⟨hn.1, hn.2.cons ?_⟩
      simpa [stale] using ht
  · exact triple_absurd fun n l h => ht h.1

/-! ## Runs -/

section Run

variable {X : World → Prop}

instance (k : Conn) (f : ServerInfo → ServerInfo) : Preserves (Under Clean Inv) (update_server k f) X :=
  ⟨triple_updateNet fun _ _ h => ⟨h.1.same rfl, h.2⟩⟩
instance (opened : Option ModemStatus) : Preserves (Under Clean Inv) (record (.resumed opened)) X :=
  ⟨triple_record fun _ _ _ h => ⟨h.1, h.2.cons rfl⟩⟩
instance (offers : List Offer) (n : Net) : Preserves (Under Clean Inv) (record (.searched offers n)) X :=
  ⟨triple_record fun _ _ _ h => ⟨h.1, h.2.cons rfl⟩⟩

instance : Preserves (Under Clean Inv) force_psm X := by
  unfold force_psm
  infer_instance

end Run

theorem run_inv (fuel : Nat) (calls : List Call) : Preserves (Under Clean Inv) (run fuel calls) := by
  refine run_preserves fuel (fun c => ?_) calls
  have := exec_preserves (G := Clean) (P := Inv) (X := Under Clean Inv) fuel c
    (fun _ _ => inferInstance) (fun _ _ => inferInstance) (fun _ => inferInstance) (fun _ _ => inferInstance)
    fun _ _ => inferInstance
  infer_instance

theorem run_fresh (config : NetworkLteConfig) (with_timer : Bool) (env : Nat → Tick) (fuel : Nat)
    (calls : List Call) :
    let w := (run fuel calls (initial config with_timer env)).2
    (∀ e ∈ w.log, Clean e) → NoneStale w.log := by
  intro w hw
  refine ((run_inv fuel calls).final (fun _ => ⟨⟨?_, ?_, ?_, ?_⟩, ?_⟩) hw).2
  · simp [initial]
  · simp [initial]
  · simp [initial, StartedIn]
  · intro t ht
    cases with_timer <;> simp [initial] at ht
    simp [← ht, StartedIn]
  · simp [initial, NoneStale]

/-- A modem that registers while the machine attaches, and a state timer that expires at tick `k`. -/
def expiringAt (k : Nat) : Nat → Tick := fun i =>
  { body := .ofView _ "+CEREG: 0,0,1,1".toList
    urcs := if i = 42 then ["+CEREG: 1".toList] else []
    moves := if i = k then [.expire_state_timer, .callback 0] else [] }

theorem run_fresh_data_ready :
    let w := (run 9 [.network_connect, .loop] (initial {} false (expiringAt 58))).2
    (w.log.any fun e => match e with | .handled t _ => t.event = .timeout | _ => false) = true ∧
      NoneStale w.log :=
  ⟨by decide +kernel, run_fresh _ _ _ _ _ (by decide +kernel)⟩

/-- The attach timer fires while the machine asks for the context. The context is open, so the state
becomes `data_ready`, and there the timeout starts to shut the modem down. -/
theorem attach_timeout_in_data_ready :
    let w := (run 9 [.network_connect, .loop] (initial {} false (expiringAt 45))).2
    ¬ NoneStale w.log ∧ w.net.prev_state_ = .data_ready ∧ w.net.modem_action_ = .switch_off_radio := by
  decide +kernel

end LteModem.NetworkLte.StaleTimeout
