import LteModem.NetworkLte.NoStall
import LteModem.NetworkLte.Sockets

/-!
# The rounds of go_to_state

`go_to_state` runs `loop` until the machine is in the target state, and has no bound of its own. A round that ends
in another state has to leave something that brings the machine on. From some states no action leads to some
targets, and there only an event or the state timer is left to wait for.
-/

open Prog Strings

set_option synthInstance.maxSize 100000

namespace LteModem.NetworkLte.Progress

open NoStall (armed)
open Sockets (online)

/-! ## Progress -/

/-- `go_to_state` returns in this state, or it has an action for it. -/
def routed (target s : NetworkLteState) : Bool :=
  s = target || s = .done || s = .modem_fota || (towards target s).isSome

/-- An action, an event, or a callback that is about to raise one. A change of state leaves them alone. -/
def pending (n : Net) : Bool := n.modem_action_ ≠ .none || n.event_ ≠ .none || n.callbacks ≠ []

def progress (target : NetworkLteState) (n : Net) : Bool := routed target n.state_ || pending n || armed n

/-- A round ends with progress. -/
def roundOk (target : NetworkLteState) : Entry → Bool
  | .loopEnd n => progress target n
  | _ => true

/-! ## The condition -/

/-- What an action or an event leads to: nothing, another action or an event, or a state. -/
inductive Outcome where
  | stays | asks | goes (s : NetworkLteState)

/-- The states that call for an action on entry, or start a timer that raises the timeout event. -/
def stirs (c : NetworkLteConfig) (s : NetworkLteState) : Bool :=
  s = .network_detached || s = .pdp_context_closed || (entryTimer c s).any (·.2)

/-- There is progress after the outcome, seen from the machine before it. -/
def Outcome.leaves (target : NetworkLteState) (n : Net) : Outcome → Bool
  | .stays => progress target n
  | .asks => true
  | .goes s => if n.state_ = s then progress target n else routed target s || stirs n.lteConfig s || pending n

/-- A command that has failed. -/
def refused : ModemStatus → Outcome
  | .timeout => .asks
  | _ => .stays

/-- The outcome of an action, by what the modem answered. -/
@[simp] def outcome (n : Net) : ModemAction → Heard → Outcome
  | .reboot, .status s => if s = .ok then .asks else refused s
  | .power_on, .status s => if s = .ok then .asks else .goes .switched_off
  | .power_off, _ => .goes .switched_off
  | .switch_off_radio, _ => if n.lteConfig.fCfunSleep then .goes .off_mode else .stays
  | .setup_radio, .setup bands tech => if bands = some .ok ∨ tech = some .ok then .asks else .stays
  | .query_network_status, .registration s stat =>
    if s ≠ .ok then refused s
    else if stat = .denied ∨ stat = .not_registered ∨ stat = .searching ∨ stat = .unknown then .goes .network_detached
    else if stat = .registered_home ∨ stat = .registered_roaming then .asks
    else .stays
  | .query_pdp_context, .pdp s active ip =>
    if s ≠ .ok then .stays else if !active then .asks else if ip ≠ .ok then .stays else .goes .data_ready
  | .attach_network, .attach changed => if changed then .asks else .goes .network_attaching
  | .open_pdp_context, .status s => if s = .ok then .goes .data_ready else .stays
  | .enter_transparent_mode, _ => .goes .transparent_mode
  | .enter_gnss_fix, .status s => if s = .ok then .goes .gnss_fix_mode else .asks
  | .none, _ | .factory_reset, _ | .send_data, _ | .read_data, _ | .data_complete, _ => .stays
  | _, _ => .asks

/-- The outcome of an event. -/
@[simp] def eventOutcome (n : Net) : NetworkLteEvent → Heard → Outcome
  | .psm_enter, _ => .goes .sleep_mode
  | .psm_exit, _ => .goes (if n.prev_state_ = .data_ready then .data_ready else .idle_mode)
  | .network_detached, _ =>
    if n.state_ ≠ .switched_off ∧ n.state_ ≠ .off_mode ∧ n.state_ ≠ .sleep_mode then .goes .network_detached
    else .stays
  | .network_attached, _ => .goes .pdp_context_closed
  | .context_closed, _ => .goes .network_detached
  | .context_opened, _ => .goes .data_ready
  | .gps_available, h => if h = .fix true then .asks else .stays
  | .timeout, _ => if n.state_ = .data_ready ∧ n.lteConfig.data_ready_timeout_sec = 0 then .stays else .asks
  | .attach_error, _ | .at_command_no_response, _ => .asks
  | _, _ => .stays

/-- The step leaves something. One that takes no action or clears no event has nothing to lose, and a state with a
timer of its own gets it unless another timer runs. -/
def moves (target : NetworkLteState) : Entry → Bool
  | .handled t h => t.dropped = .none || (eventOutcome t.after t.event h).leaves target t.after
  | .ran a before h => a = .none || (outcome before a h).leaves target before
  | .left n => !n.st_timer.running || !(entryTimer n.lteConfig n.state_).any (·.2) || progress target n
  | _ => true

def Moves (target : NetworkLteState) (e : Entry) : Prop := moves target e = true

instance (target : NetworkLteState) : DecidablePred (Moves target) :=
  fun e => inferInstanceAs (Decidable (moves target e = true))

/-! ## What the rounds keep -/

variable {target : NetworkLteState} {before n : Net} {l : List Entry}

theorem progress_of_routed (h : routed target n.state_ = true) : progress target n = true := by simp [progress, h]
theorem progress_of_pending (h : pending n = true) : progress target n = true := by simp [progress, h]
theorem progress_of_armed (h : armed n = true) : progress target n = true := by simp [progress, h]
theorem pending_of_action (h : n.modem_action_ ≠ .none) : pending n = true := by simp [pending, h]
theorem pending_of_event (h : n.event_ ≠ .none) : pending n = true := by simp [pending, h]
theorem pending_of_callbacks (h : n.callbacks ≠ []) : pending n = true := by simp [pending, h]

theorem move_pending (m : Net.Move) (h : pending n = true) : pending (n.move m) = true := by
  have h : n.modem_action_ ≠ .none ∨ n.event_ ≠ .none ∨ n.callbacks ≠ [] := by simpa [pending, or_assoc] using h
  rcases h with h | h | h
  · exact pending_of_action (by simpa using h)
  · rcases n.move_event_ m with he | he
    · exact pending_of_event (by rwa [he])
    · exact pending_of_event (by simp [he])
  · rcases NoStall.move_callbacks m h with h | h
    · exact pending_of_callbacks h
    · exact pending_of_event (by simp [h])

theorem move_progress (m : Net.Move) (h : progress target n = true) : progress target (n.move m) = true := by
  have h : (routed target n.state_ = true ∨ pending n = true) ∨ armed n = true := by simpa [progress] using h
  rcases h with (h | h) | h
  · exact progress_of_routed (by simpa using h)
  · exact progress_of_pending (move_pending m h)
  · rcases NoStall.move_armed m h with h | h
    · exact progress_of_armed h
    · exact progress_of_pending (pending_of_callbacks h)

/-- Every round so far left something. -/
def Rounds (target : NetworkLteState) (l : List Entry) : Prop := ∀ e ∈ l, roundOk target e = true

instance (target : NetworkLteState) (l : List Entry) : Decidable (Rounds target l) :=
  inferInstanceAs (Decidable (∀ e ∈ l, roundOk target e = true))

theorem Rounds.cons {e : Entry} (h : Rounds target l) (he : roundOk target e = true) : Rounds target (e :: l) :=
  List.forall_mem_cons.mpr ⟨he, h⟩

theorem Rounds.note {e : Entry} (h : Rounds target l) (he : ∀ m, e ≠ .loopEnd m) : Rounds target (e :: l) :=
  h.cons (by cases e <;> first | rfl | exact absurd rfl (he _))

/-- A property of the state, of what is pending and of the ends of rounds. -/
class Coarse (P : Net → List Entry → Prop) : Prop where
  move : ∀ n l m, P n l → P (n.move m) l
  rest : ∀ n l d c w s i, P n l →
    P { n with data := d, fColdBoot := c, fWarmBoot := w, last_status_ := s, serverInfo := i } l
  note : ∀ n l e, (∀ m, e ≠ .loopEnd m) → P n l → P n (e :: l)

/-- Nothing is lost since `before`, and the machine is still in its state. -/
structure Since (target : NetworkLteState) (before n : Net) (l : List Entry) : Prop where
  rounds : Rounds target l
  state : n.state_ = before.state_
  prev : n.prev_state_ = before.prev_state_
  config : n.lteConfig = before.lteConfig
  pending : pending before = true → pending n = true
  progress : progress target before = true → progress target n = true

/-- There is progress where `c`. -/
structure Kept (target : NetworkLteState) (c : Prop) (n : Net) (l : List Entry) : Prop where
  rounds : Rounds target l
  forward : c → progress target n = true

abbrev Inv (target : NetworkLteState) : Net → List Entry → Prop := Kept target True

/-- In the new state `s`, which was entered from `before`. -/
structure Entering (target : NetworkLteState) (before : Net) (s : NetworkLteState) (n : Net) (l : List Entry) :
    Prop where
  rounds : Rounds target l
  state : n.state_ = s
  config : n.lteConfig = before.lteConfig
  pending : Progress.pending before = true → Progress.pending n = true

variable {c : Prop} {s : NetworkLteState}

instance : Coarse (Since target before) where
  move _ _ m h := ⟨h.rounds, by simpa using h.state, by simpa using h.prev, by simpa using h.config,
    fun hb => move_pending m (h.pending hb), fun hb => move_progress m (h.progress hb)⟩
  rest _ _ _ _ _ _ _ h := ⟨h.rounds, h.state, h.prev, h.config, h.pending, h.progress⟩
  note _ _ _ he h := ⟨h.rounds.note he, h.state, h.prev, h.config, h.pending, h.progress⟩

instance : Coarse (Kept target c) where
  move _ _ m h := ⟨h.rounds, fun hc => move_progress m (h.forward hc)⟩
  rest _ _ _ _ _ _ _ h := ⟨h.rounds, h.forward⟩
  note _ _ _ he h := ⟨h.rounds.note he, h.forward⟩

instance : Coarse (Entering target before s) where
  move _ _ m h := ⟨h.rounds, by simpa using h.state, by simpa using h.config, fun hb => move_pending m (h.pending hb)⟩
  rest _ _ _ _ _ _ _ h := ⟨h.rounds, h.state, h.config, h.pending⟩
  note _ _ _ he h := ⟨h.rounds.note he, h.state, h.config, h.pending⟩

theorem Kept.imp {d : Prop} (h : Kept target c n l) (hd : d → c) : Kept target d n l :=
  ⟨h.rounds, fun hc => h.forward (hd hc)⟩

theorem Since.kept (h : Since target before n l) : Kept target (Progress.progress target before = true) n l :=
  ⟨h.rounds, h.progress⟩

theorem Kept.since (h : Kept target c n l) : Since target n n l := ⟨h.rounds, rfl, rfl, rfl, id, id⟩

section Coarse

variable {P : Net → List Entry → Prop} {X : World → Prop} [hp : Coarse P]

instance : Blind P := ⟨fun n l d h => hp.rest n l d n.fColdBoot n.fWarmBoot n.last_status_ n.serverInfo h⟩

theorem Coarse.answer {cmd : AtCmd} {a : Answer} (h : P n l) :
    P { n with last_status_ := a.status } (.exchange cmd a :: l) :=
  hp.note _ _ _ (fun _ => nofun) (hp.rest n l n.data n.fColdBoot n.fWarmBoot a.status n.serverInfo h)

instance : Stable (Moves target) P where
  move := hp.move
  data _ _ _ _ := Blind.data _ _ _
  other _ _ _ _ _ _ := Coarse.answer
  prompt _ _ _ _ _ _ := hp.note _ _ _ fun _ => nofun

instance (cmd : AtCmd) : Preserves (Under (Moves target) P) (exchange cmd) X :=
  exchange_preserves fun _ _ _ _ => Coarse.answer
instance (b : Bool) : Preserves (Under (Moves target) P) (set_fColdBoot b) X :=
  ⟨triple_updateNet fun n l => hp.rest n l n.data b n.fWarmBoot n.last_status_ n.serverInfo⟩
instance (b : Bool) : Preserves (Under (Moves target) P) (set_fWarmBoot b) X :=
  ⟨triple_updateNet fun n l => hp.rest n l n.data n.fColdBoot b n.last_status_ n.serverInfo⟩
instance (status : ModemStatus) : Preserves (Under (Moves target) P) (set_last_status status) X :=
  ⟨triple_updateNet fun n l => hp.rest n l n.data n.fColdBoot n.fWarmBoot status n.serverInfo⟩
instance : Preserves (Under (Moves target) P) reset_servers X :=
  ⟨triple_updateNet fun n l => hp.rest n l n.data n.fColdBoot n.fWarmBoot n.last_status_ _⟩
instance (cfg : NetworkLteConfig) : Preserves (Under (Moves target) P) (apply_boot_configuration cfg) X := by
  unfold apply_boot_configuration; infer_instance
instance (b : Bool) : Preserves (Under (Moves target) P) (xE310.set_gnss_power b) X := by
  unfold xE310.set_gnss_power; infer_instance
instance (b : Bool) : Preserves (Under (Moves target) P) (switch_on_gnss b) X := by
  unfold switch_on_gnss; infer_instance
instance : Preserves (Under (Moves target) P) xE310.shutdown X := by unfold xE310.shutdown; infer_instance

end Coarse

/-! ## change_state -/

section Steps

variable {X : World → Prop}

theorem call_action_spec {a : ModemAction} (ha : a ≠ .none) :
    Triple (Under (Moves target) (Kept target c)) (call_action a) (fun _ => Under (Moves target) (Inv target)) X :=
  triple_updateNet fun _ _ h => ⟨h.rounds, fun _ => progress_of_pending (pending_of_action ha)⟩

theorem on_event_spec {e : NetworkLteEvent} (he : e ≠ .none) :
    Triple (Under (Moves target) (Kept target c)) (on_event e) (fun _ => Under (Moves target) (Inv target)) X :=
  Triple.bind (Preserves.out (m := tick)) fun _ =>
    triple_updateNet fun _ _ h => ⟨h.rounds, fun _ => progress_of_pending (pending_of_event he)⟩

/-- The new state has a timer of its own that raises the event. -/
def Alarmed (before : Net) (s : NetworkLteState) : Prop := (entryTimer before.lteConfig s).any (·.2) = true

/-- No other timer runs that would keep it from starting, or there is progress without it. -/
def Ready (target : NetworkLteState) (before : Net) (s : NetworkLteState) (n : Net) (l : List Entry) : Prop :=
  Entering target before s n l ∧ (n.st_timer.running = true → Alarmed before s → progress target n = true)

instance : Coarse (Ready target before s) where
  move n l m h := by
    refine ⟨Coarse.move n l m h.1, fun hr ha => move_progress m (h.2 ?_ ha)⟩
    rwa [n.move_st_timer m hr] at hr
  rest _ _ _ _ _ _ _ h := ⟨Coarse.rest _ _ _ _ _ _ _ h.1, h.2⟩
  note _ _ _ he h := ⟨Coarse.note _ _ _ he h.1, h.2⟩

/-- The timer is started. -/
def Started (target : NetworkLteState) (before : Net) (s : NetworkLteState) (n : Net) (l : List Entry) : Prop :=
  Entering target before s n l ∧ (Alarmed before s → progress target n = true)

instance : Coarse (Started target before s) where
  move n l m h := ⟨Coarse.move n l m h.1, fun ha => move_progress m (h.2 ha)⟩
  rest _ _ _ _ _ _ _ h := ⟨Coarse.rest _ _ _ _ _ _ _ h.1, h.2⟩
  note _ _ _ he h := ⟨Coarse.note _ _ _ he h.1, h.2⟩

theorem Started.kept (h : Started target before s n l) :
    Kept target (routed target s = true ∨ Alarmed before s ∨ Progress.pending before = true) n l := by
  refine ⟨h.1.rounds, fun hc => ?_⟩
  rcases hc with hc | hc | hc
  · exact progress_of_routed (by rwa [h.1.state])
  · exact h.2 hc
  · exact progress_of_pending (h.1.pending hc)

theorem start_spec {timeout_ms : Nat} {raises : Bool} (ht : entryTimer before.lteConfig s = some (timeout_ms, raises)) :
    Triple (Under (Moves target) (Ready target before s)) (start_state_timer timeout_ms raises)
      (fun _ => Under (Moves target) (Started target before s)) X := by
  refine triple_start_state_timer Coarse.move fun n l now h => ?_
  refine ⟨⟨h.1.rounds, h.1.state, h.1.config, h.1.pending⟩, fun ha => ?_⟩
  cases hr : n.st_timer.running with
  | true =>
    simp only [Timer.start, hr, if_true]
    exact h.2 hr ha
  | false =>
    have hraises : raises = true := by simpa [Alarmed, ht] using ha
    exact progress_of_armed (by simp [Timer.start, hr, armed, hraises])

theorem enter_timer_spec :
    Triple (Under (Moves target) (Ready target before s)) (enter_timer s)
      (fun _ => Under (Moves target) (Started target before s)) X := by
  refine Triple.bind triple_net fun m => ?_
  rcases ht : entryTimer m.lteConfig s with _ | ⟨timeout_ms, raises⟩
  · refine triple_pure fun n l h => ⟨h.2.1, fun ha => ?_⟩
    rw [Alarmed, ← h.2.1.config, h.1, ht] at ha
    cases ha
  · refine triple_pre (P := fun n l => m.lteConfig = before.lteConfig ∧ Ready target before s n l) ?_ (triple_fact ?_)
    · rintro _ l ⟨rfl, h⟩
      exact ⟨h.1.config, h⟩
    · intro hm
      refine Triple.bind (start_spec (hm ▸ ht)) fun e => ?_
      exact triple_record fun n l _ h => Coarse.note n l _ (fun _ => nofun) h

theorem enter_state_spec :
    Triple (Under (Moves target) (Ready target before s)) (enter_state s)
      (fun _ => Under (Moves target) (Kept target
        (routed target s = true ∨ stirs before.lteConfig s = true ∨ Progress.pending before = true))) X := by
  refine Triple.bind (Preserves.out (m := Prog.when _ refresh_info)) fun _ => ?_
  refine Triple.bind enter_timer_spec fun _ => ?_
  have ha (a : ModemAction) (ha : a ≠ .none) :
      Triple (Under (Moves target) (Started target before s)) (call_action a) (fun _ => Under (Moves target)
        (Kept target (routed target s = true ∨ stirs before.lteConfig s = true ∨ Progress.pending before = true))) X :=
    triple_pre (fun _ _ h => h.kept) (triple_post (fun _ _ _ h => h.imp fun _ => trivial) (call_action_spec ha))
  refine Triple.ite (fun _ => ?_) fun hd => Triple.ite (fun _ => ?_) fun hp => ?_
  · exact Triple.bind Preserves.out fun _ => Triple.bind Preserves.out fun _ => ha _ (by decide)
  · exact Triple.bind Preserves.out fun _ => Triple.bind Preserves.out fun _ => ha _ (by decide)
  · refine triple_pure fun _ _ h => h.kept.imp fun hc => ?_
    simpa [stirs, hd, hp, Alarmed] using hc

theorem change_state_spec (before : Net) (s : NetworkLteState) :
    Triple (Under (Moves target) (Since target before)) (change_state s)
      (fun _ => Under (Moves target) (Kept target ((Outcome.goes s).leaves target before = true))) X := by
  by_cases hs : before.state_ = s
  · refine triple_post (fun _ _ _ h => h.kept.imp ?_) (change_state_same fun n l h => h.state.trans hs)
    simp [Outcome.leaves, hs]
  · refine triple_change_state (A := fun _ => Entering target before s) (B := Entering target before s)
      (C := Ready target before s) ?_ ?_ (fun prev _ => ?_) ?_ ?_
    · exact fun n l h hn => absurd (h.state.symm.trans hn) hs
    · exact fun n l h _ => ⟨h.rounds, rfl, h.config, h.pending⟩
    · have : Preserves (Under (Moves target) (Entering target before s)) stop_state_timer X :=
        ⟨triple_stop_state_timer Coarse.move fun _ _ h => ⟨h.rounds, h.state, h.config, h.pending⟩⟩
      unfold leave_state
      exact Preserves.out
    · intro n l hg h
      refine ⟨Coarse.note n l _ (fun _ => nofun) h, fun hr ha => ?_⟩
      have ha : (entryTimer n.lteConfig n.state_).any (·.2) = true := by rwa [h.state, h.config]
      simpa [Moves, moves, hr, ha] using hg
    · refine triple_post (fun _ _ _ h => h.imp fun hc => ?_) enter_state_spec
      simpa [Outcome.leaves, hs, or_assoc] using hc

theorem change_state_anyhow (s : NetworkLteState) :
    Triple (Under (Moves target) (Kept target c)) (change_state s)
      (fun _ => Under (Moves target) (Kept target (routed target s = true))) X := by
  intro w hw
  refine Triple.post (fun _ _ => Under.mono fun n l h => h.imp fun hr => ?_) (change_state_spec w.net s) w
    fun hg => (hw hg).since
  simp only [Outcome.leaves, hr, Bool.true_or, ite_eq_right_iff]
  exact fun hs => progress_of_routed (by rwa [hs])

/-! ## The actions -/

theorem of_inv {α : Type} {m : Prog World α} {P : World → Prop} {d : α → Prop}
    (h : Triple P m (fun _ => Under (Moves target) (Inv target)) X) :
    Triple P m (fun a => Under (Moves target) (Kept target (d a))) X :=
  triple_post (fun _ _ _ h => h.imp fun _ => trivial) h

theorem asking {α : Type} {m : Prog World α} {d : α → Prop}
    (h : Triple (Under (Moves target) (Kept target False)) m (fun _ => Under (Moves target) (Inv target)) X) :
    Triple (Under (Moves target) (Since target before)) m (fun a => Under (Moves target) (Kept target (d a))) X :=
  triple_pre (fun _ _ h => h.kept.imp False.elim) (of_inv h)

theorem change_then_call {α : Type} {a : ModemAction} {m : Prog World α}
    [Preserves (Under (Moves target) (Inv target)) m X] (ha : a ≠ .none) :
    Triple (Under (Moves target) (Kept target c)) (do change_state s; call_action a; m)
      (fun _ => Under (Moves target) (Inv target)) X :=
  Triple.bind (change_state_anyhow s) fun _ => Triple.bind (call_action_spec ha) fun _ => Preserves.out

/-- The command failed, or nothing has happened yet. -/
def Checked (target : NetworkLteState) (before : Net) (status : ModemStatus) (ok : Bool) (n : Net) (l : List Entry) :
    Prop :=
  (ok = true ∧ status = .ok ∧ Since target before n l) ∨
    (ok = false ∧ status ≠ .ok ∧ Kept target ((refused status).leaves target before = true) n l)

theorem check_status_response_spec (status : ModemStatus) :
    Triple (Under (Moves target) (Since target before)) (check_status_response status)
      (fun ok => Under (Moves target) (Checked target before status ok)) X := by
  refine Triple.ite (fun hs => ?_) fun hs => Triple.ite (fun ht => ?_) fun ht => ?_
  · exact triple_pure fun _ _ h => .inl ⟨rfl, hs, h⟩
  · refine triple_pre (fun _ _ h => h.kept) (Triple.bind (on_event_spec (by decide)) fun _ => ?_)
    exact triple_pure fun _ _ h => .inr ⟨rfl, hs, h.imp fun _ => trivial⟩
  · refine triple_pure fun _ _ h => .inr ⟨rfl, hs, h.kept.imp fun hr => ?_⟩
    cases status <;> first | exact absurd rfl ht | exact hr

theorem Checked.done {status : ModemStatus} (h : Checked target before status true n l) :
    status = .ok ∧ Since target before n l := by
  rcases h with ⟨-, hs, h⟩ | ⟨h, -⟩
  · exact ⟨hs, h⟩
  · cases h

theorem Checked.failed {status : ModemStatus} {ok : Bool} (hok : ¬ ok = true)
    (h : Checked target before status ok n l) :
    status ≠ .ok ∧ Kept target ((refused status).leaves target before = true) n l := by
  rcases h with ⟨h, -⟩ | ⟨-, hs, h⟩
  · exact absurd h hok
  · exact ⟨hs, h⟩

/-- The program, from `before`, comes to what `o` says of it. -/
abbrev Leads (target : NetworkLteState) (before : Net) (m : Prog World Heard) (o : Heard → Outcome) (X : World → Prop) :
    Prop :=
  Triple (Under (Moves target) (Since target before)) m
    (fun h => Under (Moves target) (Kept target ((o h).leaves target before = true))) X

theorem reboot_spec (before : Net) : Leads target before reboot (outcome before .reboot) X := by
  refine Triple.bind Preserves.out fun status => Triple.bind (check_status_response_spec status) fun ok => ?_
  refine Triple.ite (fun hok => ?_) fun hok => ?_
  · subst hok
    exact triple_pre (fun _ _ h => h.done.2.kept) (of_inv (change_then_call (by decide)))
  · refine triple_pure fun n l h => (h.failed hok).2.imp ?_
    simp [(h.failed hok).1]

theorem check_responsiveness_spec [CutTo (Under (Moves target) (Kept target c)) X] (fuel : Nat) :
    Triple (Under (Moves target) (Kept target c)) (check_responsiveness fuel)
      (fun _ => Under (Moves target) (Inv target)) X := by
  induction fuel with
  | zero => exact Triple.cutOff CutTo.out
  | succ fuel ih =>
    refine Triple.bind Preserves.out fun status => Triple.ite (fun _ => ih) fun _ => ?_
    exact change_then_call (by decide)

theorem power_on_spec (before : Net) : Leads target before power_on (outcome before .power_on) X := by
  refine Triple.bind Preserves.out fun _ => Triple.bind Preserves.out fun _ => ?_
  refine Triple.bind Preserves.out fun status => Triple.ite (fun hs => ?_) fun _ => ?_
  · refine Triple.bind (change_state_spec before .switched_off) fun _ => triple_pure fun n l h => h.imp ?_
    simp [hs]
  · exact Triple.bind Preserves.out fun _ => asking (change_then_call (by decide))

theorem switch_off_radio_spec (before : Net) :
    Leads target before switch_off_radio (outcome before .switch_off_radio) X := by
  refine triple_net_of (fun n l h => h.config) fun n hn => Triple.ite (fun hc => ?_) fun hc => ?_
  · refine Triple.bind Preserves.out fun _ => Triple.bind Preserves.out fun _ => ?_
    refine Triple.bind (change_state_spec before .off_mode) fun _ => triple_pure fun n l h => h.imp ?_
    simp [← hn, hc]
  · refine triple_pure fun n l h => h.kept.imp ?_
    simp [← hn, hc, Outcome.leaves]

theorem wake_up_spec :
    Triple (Under (Moves target) (Kept target c)) wake_up (fun _ => Under (Moves target) (Inv target)) X := by
  refine Triple.bind (Preserves.out (m := net)) fun _ => Triple.ite (fun _ => ?_) fun _ => ?_
  · exact change_then_call (by decide)
  · refine Triple.bind Preserves.out fun _ => ?_
    exact change_then_call (by decide)

theorem setup_radio_spec (before : Net) : Leads target before setup_radio (outcome before .setup_radio) X := by
  refine Triple.bind (Preserves.out (m := net)) fun n => Triple.ite (fun _ => ?_) fun _ => ?_
  · refine Triple.bind Preserves.out fun bands => Triple.bind Preserves.out fun tech => ?_
    refine Triple.bind (Q := fun _ => Under (Moves target) (Kept target
      ((outcome before .setup_radio (.setup bands tech)).leaves target before = true))) ?_ fun _ =>
      triple_pure fun _ _ h => h
    refine Triple.when (fun _ => asking (call_action_spec (by decide))) fun hn w => ?_
    refine Under.mono fun _ _ h => h.kept.imp ?_
    simp [hn, Outcome.leaves]
  · refine Triple.bind Preserves.out fun _ => asking ?_
    exact change_then_call (by decide)

theorem query_network_status_spec (before : Net) :
    Leads target before query_network_status (outcome before .query_network_status) X := by
  refine Triple.bind (Preserves.out (m := net)) fun n => Triple.bind Preserves.out fun r => ?_
  refine Triple.bind Preserves.out fun _ => Triple.bind (check_status_response_spec r.1) fun ok => ?_
  refine Triple.ite (fun hok => ?_) fun hok => ?_
  · refine triple_pure fun n l h => (h.failed (by simpa using hok)).2.imp ?_
    simp [(h.failed (by simpa using hok)).1]
  · obtain rfl : ok = true := by simpa using hok
    refine triple_pre (P := fun n l => r.1 = .ok ∧ Since target before n l) (fun _ _ h => h.done) ?_
    refine triple_fact fun hr => ?_
    refine Triple.ite (fun hs => ?_) fun hs => Triple.ite (fun hreg => ?_) fun hreg => ?_
    · refine Triple.bind (change_state_spec before .network_detached) fun _ => triple_pure fun n l h => h.imp ?_
      simp [hr, hs]
    · exact asking (Triple.bind (call_action_spec (by decide)) fun _ => Preserves.out)
    · refine triple_pure fun n l h => h.kept.imp ?_
      simp [hr, hs, hreg, Outcome.leaves]

theorem start_attach_spec (before : Net) : Leads target before start_attach (outcome before .attach_network) X := by
  refine Triple.bind (Preserves.out (m := net)) fun n => Triple.ite (fun _ => ?_) fun _ => ?_
  · exact asking (Triple.bind (call_action_spec (by decide)) fun _ => Preserves.out)
  · refine Triple.bind (change_state_spec before .network_attaching) fun _ => ?_
    refine Triple.bind Preserves.out fun _ => Triple.bind Preserves.out fun _ => ?_
    exact triple_pure fun n l h => h.imp id

theorem attach_network_spec (before : Net) : Leads target before attach_network (outcome before .attach_network) X := by
  refine Triple.bind Preserves.out fun _ => Triple.bind (Preserves.out (m := net)) fun n => ?_
  refine Triple.ite (fun _ => ?_) fun _ => Triple.ite (fun _ => ?_) fun _ => ?_
  · exact Triple.bind Preserves.out fun _ => start_attach_spec before
  · exact Triple.bind Preserves.out fun _ => start_attach_spec before
  · exact asking (Triple.bind (on_event_spec (by decide)) fun _ => Preserves.out)

theorem query_pdp_context_spec (before : Net) :
    Leads target before query_pdp_context (outcome before .query_pdp_context) X := by
  refine Triple.bind (Preserves.out (m := net)) fun n => Triple.bind Preserves.out fun pdp => ?_
  refine Triple.ite (fun hs => ?_) fun hs => Triple.ite (fun _ => asking (change_then_call (by decide))) fun ha => ?_
  · refine triple_pure fun n l h => h.kept.imp ?_
    simp [hs, Outcome.leaves]
  · have hs : pdp.1 = .ok := not_not.mp hs
    refine Triple.bind Preserves.out fun ip => Triple.bind Preserves.out fun _ => Triple.ite (fun hi => ?_) fun hi => ?_
    · refine triple_pure fun n l h => h.kept.imp ?_
      simp [hs, ha, hi, Outcome.leaves]
    · refine Triple.bind (change_state_spec before .data_ready) fun _ => triple_pure fun n l h => h.imp ?_
      simp [hs, ha, hi]

theorem open_pdp_context_spec (before : Net) :
    Leads target before open_pdp_context (outcome before .open_pdp_context) X := by
  refine Triple.bind (Preserves.out (m := net)) fun n => Triple.bind Preserves.out fun status => ?_
  refine Triple.ite (fun hs => ?_) fun hs => ?_
  · refine Triple.bind (change_state_spec before .data_ready) fun _ => triple_pure fun n l h => h.imp ?_
    simp [hs]
  · refine triple_pure fun n l h => h.kept.imp ?_
    simp [hs, Outcome.leaves]

theorem enter_gnss_fix_spec (before : Net) : Leads target before enter_gnss_fix (outcome before .enter_gnss_fix) X := by
  refine Triple.bind Preserves.out fun _ => Triple.bind Preserves.out fun _ => Triple.bind Preserves.out fun _ => ?_
  refine Triple.bind Preserves.out fun status => Triple.ite (fun _ => ?_) fun hs => ?_
  · exact asking (Triple.bind (call_action_spec (by decide)) fun _ => Preserves.out)
  · refine Triple.bind (change_state_spec before .gnss_fix_mode) fun _ => Triple.bind Preserves.out fun _ => ?_
    refine triple_pure fun n l h => h.imp ?_
    simp [not_not.mp hs]

theorem leave_gnss_fix_spec :
    Triple (Under (Moves target) (Kept target c)) leave_gnss_fix (fun _ => Under (Moves target) (Inv target)) X :=
  Triple.bind Preserves.out fun _ => Triple.bind Preserves.out fun _ => change_then_call (by decide)

theorem staying {m : Prog World Heard} {o : Heard → Outcome}
    [Preserves (Under (Moves target) (Since target before)) m X]
    (ho : ∀ h, o h = .stays) :
    Leads target before m o X :=
  triple_post (fun h _ _ hs => hs.kept.imp fun hl => by simpa [ho h, Outcome.leaves] using hl) Preserves.out

theorem going {m : Prog World Heard} {o : Heard → Outcome}
    [Preserves (Under (Moves target) (Kept target ((Outcome.goes s).leaves target before = true))) m X]
    (ho : ∀ h, o h = .goes s) :
    Leads target before (do change_state s; m) o X := by
  refine Triple.bind (change_state_spec before s) fun _ => ?_
  refine triple_post (fun h n l hk => hk.imp fun hl => ?_) Preserves.out
  rwa [ho h] at hl

theorem perform_spec [∀ c, CutTo (Under (Moves target) (Kept target c)) X] (fuel : Nat) (a : ModemAction)
    (before : Net) : Leads target before (perform fuel a) (outcome before a) X := by
  cases a <;> unfold perform
  case none => exact staying fun _ => rfl
  case reboot => exact reboot_spec before
  case factory_reset => exact staying fun _ => rfl
  case check_responsiveness => exact asking (check_responsiveness_spec fuel)
  case power_on => exact power_on_spec before
  case power_off => exact going fun _ => rfl
  case turn_on_radio => exact asking (change_then_call (by decide))
  case switch_off_radio => exact switch_off_radio_spec before
  case enter_sleep => exact asking (Triple.bind (call_action_spec (by decide)) fun _ => Preserves.out)
  case wake_up => exact asking wake_up_spec
  case setup_radio => exact setup_radio_spec before
  case query_network_status => exact query_network_status_spec before
  case query_pdp_context => exact query_pdp_context_spec before
  case attach_network => exact attach_network_spec before
  case open_pdp_context => exact open_pdp_context_spec before
  case send_data => exact staying fun _ => rfl
  case read_data => exact staying fun _ => rfl
  case data_complete => exact staying fun _ => rfl
  case enter_transparent_mode => exact going fun _ => rfl
  case leave_transparent_mode =>
    exact asking (Triple.bind Preserves.out fun _ => Triple.bind Preserves.out fun _ => change_then_call (by decide))
  case enter_gnss_fix => exact enter_gnss_fix_spec before
  case leave_gnss_fix => exact asking leave_gnss_fix_spec

/-! ## The events -/

theorem on_detached_spec (after : Net) :
    Triple (Under (Moves target) (Since target after)) on_detached
      (fun _ => Under (Moves target)
        (Kept target ((eventOutcome after .network_detached .nothing).leaves target after = true))) X := by
  refine Triple.bind Preserves.out fun _ => triple_net_of (fun n l h => h.state) fun n hn => ?_
  refine Triple.ite (fun hs => ?_) fun hs => ?_
  · refine triple_post (fun _ n l h => h.imp ?_) (change_state_spec after .network_detached)
    rw [hn] at hs
    simp [hs]
  · refine triple_pure fun m l h => h.kept.imp ?_
    rw [hn] at hs
    simp [hs, Outcome.leaves]

theorem take_fix_spec (after : Net) : Leads target after take_fix (eventOutcome after .gps_available) X := by
  refine Triple.bind Preserves.out fun pos => Triple.ite (fun _ => ?_) fun _ => ?_
  · refine Triple.bind Preserves.out fun _ => asking ?_
    exact Triple.bind (call_action_spec (by decide)) fun _ => Preserves.out
  · refine triple_pure fun n l h => h.kept.imp ?_
    simp [Outcome.leaves]

theorem on_timeout_spec (after : Net) :
    Triple (Under (Moves target) (Since target after)) on_timeout
      (fun _ => Under (Moves target)
        (Kept target ((eventOutcome after .timeout .nothing).leaves target after = true))) X := by
  refine triple_net_of (F := fun n => n.state_ = after.state_ ∧ n.lteConfig = after.lteConfig)
    (fun n l h => ⟨h.state, h.config⟩) fun n hn => Triple.ite (fun hs => ?_) fun _ => ?_
  · refine triple_pure fun m l h => h.kept.imp ?_
    rw [hn.1, hn.2] at hs
    simp [hs, Outcome.leaves]
  · refine asking (Triple.bind (call_action_spec ?_) fun _ => ?_)
    · cases n.state_ <;> decide
    · exact triple_post (fun _ _ _ h => h.imp fun _ => by simp [routed]) (change_state_anyhow .done)

theorem handle_event_spec (e : NetworkLteEvent) (after : Net) :
    Leads target after (handle_event e) (eventOutcome after e) X := by
  cases e <;> unfold handle_event
  case none => exact staying fun _ => rfl
  case psm_enter => exact going fun _ => rfl
  case psm_exit =>
    refine triple_net_of (F := fun n => n.prev_state_ = after.prev_state_) (fun n l h => h.prev) fun n hn => ?_
    exact going fun _ => by rw [eventOutcome, hn]
  case network_detached => exact Triple.bind (on_detached_spec after) fun _ => triple_pure fun _ _ h => h
  case network_attached => exact going fun _ => rfl
  case context_opened => exact going fun _ => rfl
  case context_closed => exact Triple.bind Preserves.out fun _ => going fun _ => rfl
  case context_rejected => exact staying fun _ => rfl
  case data_available => exact staying fun _ => rfl
  case gps_available => exact take_fix_spec after
  case attach_started => exact staying fun _ => rfl
  case pdp_opening => exact staying fun _ => rfl
  case timeout => exact Triple.bind (on_timeout_spec after) fun _ => triple_pure fun _ _ h => h
  case network_error => exact staying fun _ => rfl
  case attach_error => exact asking (Triple.bind (call_action_spec (by decide)) fun _ => Preserves.out)
  case context_error => exact staying fun _ => rfl
  case at_command_no_response => exact asking (Triple.bind (call_action_spec (by decide)) fun _ => Preserves.out)

theorem get_event_spec :
    Triple (Under (Moves target) (Inv target)) get_event
      (fun t => Under (Moves target) fun n l =>
        (t.dropped = .none → t.event = .none ∧ progress target t.after = true) ∧ Since target t.after n l) X := by
  refine Triple.bind (Preserves.out (m := tick)) fun _ => Triple.bind triple_net fun n => ?_
  let Read (m : Net) (l : List Entry) : Prop := (m.event_ = .none → n.event_ = .none) ∧ Inv target m l
  have hmove (m : Net) (l : List Entry) (v : Net.Move) (h : Read m l) : Read (m.move v) l := by
    refine ⟨fun he => ?_, Coarse.move m l v h.2⟩
    rcases m.move_event_ v with hv | hv <;> rw [hv] at he
    · exact h.1 he
    · cases he
  refine triple_pre (P := Read) ?_ (Triple.bind (triple_tick hmove) fun _ => Triple.bind triple_net fun m => ?_)
  · rintro m l ⟨rfl, h⟩
    exact ⟨id, h⟩
  · refine Triple.bind (Q := fun _ => Under (Moves target) fun after l =>
      (m.event_ = .none → n.event_ = .none ∧ progress target after = true) ∧ Rounds target l)
      (triple_updateNet ?_) fun _ => ?_
    · rintro m l ⟨rfl, h⟩
      refine ⟨fun hm => ⟨h.1 hm, ?_⟩, h.2.rounds⟩
      simpa [progress, pending, armed, hm] using h.2.forward trivial
    · refine Triple.bind triple_net fun after => triple_pure ?_
      rintro _ l ⟨rfl, h⟩
      exact ⟨h.1, h.2, rfl, rfl, rfl, id, id⟩

instance : Preserves (Under (Moves target) (Inv target)) process_event X := by
  refine ⟨Triple.bind get_event_spec fun t => triple_fact fun hd => ?_⟩
  refine Triple.bind (handle_event_spec t.event t.after) fun h => triple_record fun n l hg hk => ?_
  have hg : t.dropped = .none ∨ (eventOutcome t.after t.event h).leaves target t.after = true := by
    simpa [Moves, moves] using hg
  refine ⟨hk.rounds.note fun _ => nofun, fun _ => hk.forward (hg.elim (fun hn => ?_) id)⟩
  rw [(hd hn).1]
  exact (hd hn).2

/-! ## loop -/

theorem on_event_inv {e : NetworkLteEvent} (he : e ≠ .none) :
    Preserves (Under (Moves target) (Inv target)) (on_event e) X := ⟨on_event_spec he⟩

instance : Preserves (Under (Moves target) (Inv target)) check_last_status X := by
  have : Preserves (Under (Moves target) (Inv target)) (on_event .at_command_no_response) X := on_event_inv (by decide)
  unfold check_last_status
  infer_instance

instance (urc : Str) : Preserves (Under (Moves target) (Inv target)) (handle_urc urc) X := by
  have : Preserves (Under (Moves target) (Inv target)) (call_action .query_pdp_context) X :=
    ⟨call_action_spec (by decide)⟩
  exact handle_urc_preserves urc fun e he => on_event_inv (by rintro rfl; cases he)

instance : Preserves (Under (Moves target) (Inv target)) poll_urc X := by
  have (urcs : List Str) : Preserves (Under (Moves target) (Inv target)) (record (.polled urcs)) X :=
    ⟨triple_record fun n l _ h => Coarse.note n l _ (fun _ => nofun) h⟩
  unfold poll_urc
  infer_instance

instance : Preserves (Under (Moves target) (Inv target)) end_loop X := by
  refine ⟨Triple.bind (Preserves.out (m := tick)) fun _ => Triple.bind triple_net fun n => ?_⟩
  refine Triple.bind (Q := fun _ => Under (Moves target) (Inv target)) (triple_record ?_) fun _ => Preserves.out
  rintro _ l - ⟨rfl, h⟩
  exact ⟨h.rounds.cons (h.forward trivial), h.forward⟩

end Steps

/-- What is left of the invariant where an action does not come to its end. -/
abbrev Cut (target : NetworkLteState) : World → Prop := Under (Moves target) fun _ l => Rounds target l

instance : CutTo (Under (Moves target) (Kept target c)) (Cut target) := ⟨fun _ => Under.mono fun _ _ h => h.rounds⟩

instance (fuel : Nat) : Preserves (Under (Moves target) (Inv target)) (execute_actions fuel) (Cut target) := by
  refine ⟨Triple.bind (triple_get_action (R := fun a n l =>
    (a = .none → progress target n = true) ∧ Rounds target l) fun n l h => ?_) fun a => ?_⟩
  · refine ⟨fun ha => ?_, h.rounds⟩
    simpa [progress, pending, armed, ha] using h.forward trivial
  · refine Triple.bind triple_net fun before => ?_
    refine triple_pre (P := fun n l => (a = .none → progress target before = true) ∧ Since target before n l) ?_
      (triple_fact fun ha => Triple.bind (perform_spec fuel a before) fun h => triple_record fun n l hg hk => ?_)
    · rintro _ l ⟨rfl, h⟩
      exact ⟨h.1, h.2, rfl, rfl, rfl, id, id⟩
    · have hg : a = .none ∨ (outcome before a h).leaves target before = true := by simpa [Moves, moves] using hg
      refine ⟨hk.rounds.note fun _ => nofun, fun _ => hk.forward (hg.elim (fun hn => ?_) id)⟩
      subst hn
      exact ha rfl

instance (goal state : NetworkLteState) :
    Preserves (Under (Moves target) (Inv target)) (call_towards goal state) (Cut target) := by
  unfold call_towards
  rcases ht : towards goal state with _ | a
  · exact ⟨Triple.pure fun _ h => h⟩
  · exact ⟨call_action_spec (NoStall.towards_ne_none ht)⟩

/-! ## The end of a round -/

/-- The last `count` entries are of `AT`s that the modem refused. -/
def Refuses (count : Nat) (w : World) : Prop :=
  count ≤ w.log.length ∧ ∀ e ∈ w.log.take count, ∃ a, e = .exchange (.other .at_ok) a ∧ a.status ≠ .ok

section Ends

abbrev Anything : World → Prop := Under Always Whatever

theorem send_refused {X : World → Prop} (count : Nat) :
    Triple (Refuses count) (xE310.send (.other .at_ok))
      (fun status w => if status = .ok then Anything w else Refuses (count + 1) w) X := by
  intro w hw
  change if (w.env w.clock).status = .ok then _ else _
  split_ifs with hs
  · exact fun _ => trivial
  · refine ⟨by simpa using hw.1, fun e he => ?_⟩
    rw [List.take_succ_cons, List.mem_cons] at he
    rcases he with rfl | he
    · exact ⟨_, rfl, hs⟩
    · exact hw.2 e he

theorem check_responsiveness_refused (fuel count : Nat) :
    Triple (Refuses count) (check_responsiveness fuel) (fun _ => Anything) (Refuses (count + fuel)) := by
  induction fuel generalizing count with
  | zero => exact Triple.cutOff fun _ h => h
  | succ fuel ih =>
    have ih : Triple (Refuses (count + 1)) (check_responsiveness fuel) (fun _ => Anything)
        (Refuses (count + (fuel + 1))) := by
      rw [Nat.add_comm fuel, ← Nat.add_assoc]
      exact ih (count + 1)
    refine Triple.bind (send_refused count) fun status => Triple.ite (fun hs => ?_) fun hs => ?_
    · exact Triple.pre (fun w hw => by rwa [if_neg hs] at hw) ih
    · exact Triple.pre (fun w _ => fun _ => trivial) (Preserves.out (I := Anything))

theorem perform_refused (fuel : Nat) (a : ModemAction) : Preserves Anything (perform fuel a) (Refuses fuel) := by
  cases a <;> unfold perform
  case check_responsiveness =>
    refine ⟨Triple.pre (P := Refuses 0) (fun w _ => ⟨Nat.zero_le _, by simp⟩) ?_⟩
    simpa using check_responsiveness_refused fuel 0
  all_goals infer_instance

theorem loop_refused (fuel : Nat) (w : World) (h : (loop fuel target w).1 = none) :
    Refuses fuel (loop fuel target w).2 := by
  have := perform_refused fuel
  have hx : Preserves Anything (execute_actions fuel) (Refuses fuel) := by
    unfold execute_actions
    infer_instance
  have (t : Taken) (h : Heard) : Preserves Anything (record (.handled t h)) (Refuses fuel) :=
    ⟨triple_record fun _ _ _ _ => trivial⟩
  have hl : Preserves Anything (loop fuel target) (Refuses fuel) := by
    unfold loop
    infer_instance
  have hw := hl.out w fun _ => trivial
  rcases hr : loop fuel target w with ⟨_ | _, v⟩ <;> rw [hr] at h hw
  · exact hw
  · cases h

end Ends

/-! ## Nothing left -/

/-- From here on the timer thread does nothing, and the modem sends no line of its own. -/
def Quiet (w : World) : Prop := ∀ i, w.clock ≤ i → (w.env i).moves = [] ∧ (w.env i).urcs = []

/-- The machine of `w`, later. -/
structure Later (w v : World) : Prop where
  net : v.net = w.net
  env : v.env = w.env
  clock : w.clock ≤ v.clock

section Quiet

variable {w : World} {X : World → Prop}

theorem tick_quiet (hq : Quiet w) : Triple (Later w) tick (fun t v => t.urcs = [] ∧ Later w v) X := by
  intro v hv
  have ht := hq v.clock hv.clock
  rw [← hv.env] at ht
  refine ⟨ht.2, ?_, hv.env, Nat.le_succ_of_le hv.clock⟩
  change ((v.env v.clock).moves.foldl Net.move v.net) = w.net
  rw [ht.1]
  exact hv.net

theorem net_quiet : Triple (Later w) net (fun n v => n = w.net ∧ Later w v) X := fun _ hv => ⟨hv.net, hv⟩

instance (e : Entry) : Preserves (Later w) (record e) X := ⟨fun _ hv => ⟨hv.net, hv.env, hv.clock⟩⟩

theorem poll_quiet (hq : Quiet w) : Triple (Later w) poll_urc (fun _ => Later w) X := by
  refine Triple.bind net_quiet fun n => Triple.fact fun _ => Triple.ite (fun _ => ?_) fun _ => Preserves.out
  refine Triple.bind (tick_quiet hq) fun t => Triple.fact fun ht => Triple.bind Preserves.out fun _ => ?_
  rw [ht]
  exact Preserves.out (m := pure ())

theorem check_last_status_quiet (hl : w.net.last_status_ ≠ .timeout) :
    Triple (Later w) check_last_status (fun _ => Later w) X := by
  refine Triple.bind net_quiet fun n => Triple.fact fun hn => Triple.ite (fun ht => ?_) fun _ => Preserves.out
  exact absurd (hn ▸ ht) hl

theorem process_event_quiet (hq : Quiet w) (he : w.net.event_ = .none) :
    Triple (Later w) process_event (fun _ => Later w) X := by
  have htick : Triple (Later w) tick (fun _ => Later w) X := Triple.post (fun _ _ h => h.2) (tick_quiet hq)
  have hclear : Triple (Later w) clear_event (fun _ => Later w) X := by
    refine fun v hv => ⟨?_, hv.env, hv.clock⟩
    change { v.net with event_ := .none } = w.net
    rw [hv.net, ← he]
  have hget : Triple (Later w) get_event (fun t v => t.event = .none ∧ Later w v) X := by
    refine Triple.bind htick fun _ => Triple.bind net_quiet fun n => Triple.fact fun hn => ?_
    refine Triple.bind htick fun _ => Triple.bind net_quiet fun m => Triple.fact fun _ => ?_
    refine Triple.bind hclear fun _ => Triple.bind net_quiet fun after => ?_
    exact Triple.pure fun v hv => ⟨hn ▸ he, hv.2⟩
  refine Triple.bind hget fun t => Triple.fact fun ht => ?_
  rw [ht]
  exact Triple.bind (Preserves.out (m := pure Heard.nothing)) fun h => Preserves.out

theorem execute_actions_quiet (ha : w.net.modem_action_ = .none) (fuel : Nat) :
    Triple (Later w) (execute_actions fuel) (fun _ => Later w) X := by
  have hget : Triple (Later w) get_action (fun a v => a = .none ∧ Later w v) X := by
    refine fun v hv => ⟨hv.net ▸ ha, ?_, hv.env, hv.clock⟩
    change { v.net with modem_action_ := .none } = w.net
    rw [hv.net, ← ha]
  refine Triple.bind hget fun a => Triple.fact fun hn => Triple.bind net_quiet fun before => Triple.fact fun _ => ?_
  rw [hn]
  exact Triple.bind (Preserves.out (m := pure Heard.nothing)) fun h => Preserves.out

theorem end_loop_quiet (hq : Quiet w) : Triple (Later w) end_loop (fun _ => Later w) X := by
  refine Triple.bind (tick_quiet hq) fun _ => Triple.fact fun _ => Triple.bind net_quiet fun n => ?_
  exact Triple.fact fun _ => Triple.bind Preserves.out fun _ => Preserves.out

/-- Where a round begins with nothing and nothing comes in, `go_to_state` does not return. -/
theorem never_returns (hp : progress target w.net = false) (hl : w.net.last_status_ ≠ .timeout) (hq : Quiet w)
    (fuel : Nat) : (go_to_state target fuel w).1 = none := by
  have hp : ((((w.net.state_ ≠ target ∧ w.net.state_ ≠ .done) ∧ w.net.state_ ≠ .modem_fota) ∧
      towards target w.net.state_ = none) ∧ (w.net.modem_action_ = .none ∧ w.net.event_ = .none) ∧
      w.net.callbacks = []) ∧ armed w.net = false := by
    simpa [progress, routed, pending] using hp
  obtain ⟨⟨⟨⟨⟨hs, hd⟩, hf⟩, ht⟩, ⟨ha, he⟩, -⟩, -⟩ := hp
  have hloop (fuel : Nat) : Triple (Later w) (loop fuel target) (fun _ => Later w) fun _ => True := by
    refine Triple.bind (poll_quiet hq) fun _ => Triple.bind (check_last_status_quiet hl) fun _ => ?_
    refine Triple.bind (process_event_quiet hq he) fun _ => Triple.bind net_quiet fun n => Triple.fact fun _ => ?_
    refine Triple.ite (fun _ => end_loop_quiet hq) fun _ => ?_
    exact Triple.bind (execute_actions_quiet ha fuel) fun _ => end_loop_quiet hq
  have hgo : Triple (Later w) (go_to_state target fuel) (fun _ _ => False) fun _ => True := by
    induction fuel with
    | zero => exact Triple.cutOff fun _ _ => trivial
    | succ fuel ih =>
      refine Triple.bind net_quiet fun n => Triple.fact fun hn => ?_
      subst hn
      refine Triple.ite (fun h => absurd h hs) fun _ => Triple.ite (fun h => absurd h (not_or.mpr ⟨hd, hf⟩)) fun _ => ?_
      refine Triple.bind (Q := fun _ => Later w) ?_ fun _ => Triple.bind (hloop fuel) fun _ => ?_
      · unfold call_towards
        rw [ht]
        exact Preserves.out (m := pure ())
      · refine Triple.bind (tick_quiet hq) fun _ => Triple.fact fun _ => Triple.bind net_quiet fun m => ?_
        refine Triple.fact fun hm => Triple.ite (fun h => ?_) fun _ => ih
        rw [hm, he] at h
        simp at h
  have h := hgo w ⟨rfl, rfl, le_rfl⟩
  cases hr : go_to_state target fuel w with
  | mk result v =>
    rw [hr] at h
    cases result with
    | none => rfl
    | some _ => exact h.elim

end Quiet

/-! ## Runs of go_to_state -/

/-- What a call logs. -/
def trail (target : NetworkLteState) (fuel : Nat) (w : World) : List Entry :=
  (go_to_state target fuel { w with log := [] }).2.log

/-- Where the machine can go on when it is called and no step takes the last thing away, every round leaves
something. A round comes to its end unless the modem refuses all the `AT`s of `check_responsiveness`. -/
theorem rounds_leave_something (target : NetworkLteState) {w : World} (hw : progress target w.net = true) (fuel : Nat) :
    ((∀ e ∈ trail target fuel w, Moves target e) → Rounds target (trail target fuel w)) ∧
      ∀ u, (loop fuel target u).1 = none → Refuses fuel (loop fuel target u).2 := by
  have h : Preserves (Under (Moves target) (Inv target)) (go_to_state target fuel) (Cut target) := inferInstance
  exact ⟨h.final fun _ => ⟨fun _ => nofun, fun _ => hw⟩, loop_refused fuel⟩

/-- A modem that finds no network, and a state timer that expires in `network_attaching`. -/
def attaching : World := initial {} false (NoStall.unregistered none (some 44))

theorem rounds_leave_something_attaching :
    (go_to_state .data_ready 9 attaching).2.net.data.nAttachRetries = 2 ∧
      Rounds .data_ready (trail .data_ready 9 attaching) := by
  have hmoves : ∀ e ∈ trail .data_ready 9 attaching, Moves .data_ready e := by decide +kernel
  have hstart : progress .data_ready attaching.net = true := by decide +kernel
  exact ⟨by decide +kernel, (rounds_leave_something .data_ready hstart 9).1 hmoves⟩

/-- The machine among surroundings where every command succeeds and nothing else happens. -/
def undisturbed (n : Net) : World := { net := n, env := fun _ => {} }

/-- Power saving began after the connection. -/
def asleep : World :=
  undisturbed (run 9 [.network_connect, .loop] (initial {} false (online fun i =>
    if i = 42 then some { urcs := ["#PSMURC: 1".toList] } else none))).2.net

/-- Connected, and the configuration gives `data_ready` no timeout. -/
def connected : World :=
  undisturbed (run 9 [.network_connect] (initial { data_ready_timeout_sec := 0 } false (online fun _ => none))).2.net

/-- On the way from `sleep_mode` to a fix, and from `data_ready` without a timeout to sleep, a round leaves nothing,
and the loop does not end. -/
theorem rounds_without_end :
    (asleep.net.state_ = .sleep_mode ∧ ¬ Rounds .gnss_fix_mode (trail .gnss_fix_mode 2 asleep) ∧
      ∀ fuel, (go_to_state .gnss_fix_mode fuel asleep).1 = none) ∧
    connected.net.state_ = .data_ready ∧ ¬ Rounds .sleep_mode (trail .sleep_mode 2 connected) ∧
      ∀ fuel, (go_to_state .sleep_mode fuel connected).1 = none := by
  have hfix : progress .gnss_fix_mode asleep.net = false ∧ asleep.net.last_status_ ≠ .timeout := by decide +kernel
  have hsleep : progress .sleep_mode connected.net = false ∧ connected.net.last_status_ ≠ .timeout := by decide +kernel
  refine ⟨⟨by decide +kernel, by decide +kernel, fun fuel => ?_⟩, by decide +kernel, by decide +kernel, fun fuel => ?_⟩
  · exact never_returns hfix.1 hfix.2 (fun _ _ => ⟨rfl, rfl⟩) fuel
  · exact never_returns hsleep.1 hsleep.2 (fun _ _ => ⟨rfl, rfl⟩) fuel

end LteModem.NetworkLte.Progress
