import LteModem.NetworkLte.Urcs

/-!
# Off stays off

A machine in `off_mode` or `switched_off` has nothing to do until a call asks for something. A batch and
the events it raises must not wake it, but only the `network_detached` case looks at the state first.
-/

open Prog Strings

set_option synthInstance.maxSize 100000

namespace LteModem.NetworkLte.OffMode

def off (s : NetworkLteState) : Prop := s = .off_mode ∨ s = .switched_off

/-- The calls that ask for a state or an action. -/
def requests : Call → Bool
  | .network_connect | .network_disconnect | .force_psm | .enter_sleep | .enter_transparent_mode
  | .exit_transparent_mode | .leave_transparent_mode | .update_modem | .acquire_gnss_position
  | .call_action _ => true
  | _ => false

def powersUp : AtCmd → Bool
  | .cfun 1 | .other (.activate_pdp _) | .raw _ => true
  | _ => false

/-- The state changed, or a command went out that powers the radio or opens a context. -/
def wakes : Entry → Bool
  | .left _ => true
  | .exchange cmd _ => powersUp cmd
  | _ => false

/-- The cases of the event switch that do not ask for the state, whatever it is. -/
def unguarded : NetworkLteEvent → Bool
  | .context_closed | .psm_enter | .timeout | .at_command_no_response => true
  | _ => false

/-- No batch reports a registration, and the events taken are not of the unguarded cases. -/
def mild : Entry → Bool
  | .polled urcs => urcs.all fun urc => readUrc urc ≠ .registered
  | .handled t h => !unguarded t.event && h ≠ .fix true
  | _ => true

def Mild (e : Entry) : Prop := mild e = true

instance : DecidablePred Mild := fun e => inferInstanceAs (Decidable (mild e = true))

def seen (e : NetworkLteEvent) : Bool :=
  ofUrc e || e = .none || e = .data_available || e = .timeout || e = .at_command_no_response

structure Off (s : NetworkLteState) (n : Net) (l : List Entry) : Prop where
  state : n.state_ = s
  action : n.modem_action_ = .none
  event : seen n.event_ = true
  asleep : ∀ e ∈ l, wakes e = false

theorem Off.note {s : NetworkLteState} {n : Net} {l : List Entry} {e : Entry} (h : Off s n l)
    (he : wakes e = false) : Off s n (e :: l) where
  state := h.state
  action := h.action
  event := h.event
  asleep := by simpa [he] using h.asleep

section Steps

variable {s : NetworkLteState} {X : World → Prop}

theorem Off.move {n : Net} {l : List Entry} (m : Net.Move) (h : Off s n l) : Off s (n.move m) l where
  state := by simpa using h.state
  action := by simpa using h.action
  event := by
    rcases n.move_event_ m with he | he
    · rw [he]
      exact h.event
    · rw [he]
      rfl
  asleep := h.asleep

instance : Still Mild (Off s) where
  move _ _ m h := h.move m
  data _ _ _ _ h := ⟨h.state, h.action, h.event, h.asleep⟩

instance : Blind (Off s) := ⟨fun _ _ _ h => ⟨h.state, h.action, h.event, h.asleep⟩⟩

theorem exchange_off {cmd : AtCmd} (h : powersUp cmd = false) : Preserves (Under Mild (Off s)) (exchange cmd) X :=
  exchange_preserves fun _ _ a _ hn =>
    Off.note (e := .exchange cmd a) ⟨hn.state, hn.action, hn.event, hn.asleep⟩ h

theorem on_event_off {e : NetworkLteEvent} (he : seen e = true) :
    Preserves (Under Mild (Off s)) (on_event e) X := by
  have : Preserves (Under Mild (Off s)) (updateNet (Net.on_event e)) X :=
    ⟨triple_updateNet fun _ _ h => ⟨h.state, h.action, he, h.asleep⟩⟩
  unfold on_event
  infer_instance

instance : Preserves (Under Mild (Off s)) clear_event X :=
  ⟨triple_updateNet fun _ _ h => ⟨h.state, h.action, rfl, h.asleep⟩⟩
instance : Preserves (Under Mild (Off s)) reset_servers X :=
  ⟨triple_updateNet fun _ _ h => ⟨h.state, h.action, h.event, h.asleep⟩⟩
instance (k : Conn) (f : ServerInfo → ServerInfo) : Preserves (Under Mild (Off s)) (update_server k f) X :=
  ⟨triple_updateNet fun _ _ h => ⟨h.state, h.action, h.event, h.asleep⟩⟩
instance (c : NetworkLteConfig) : Preserves (Under Mild (Off s)) (set_lteConfig c) X :=
  ⟨triple_updateNet fun _ _ h => ⟨h.state, h.action, h.event, h.asleep⟩⟩
instance (f : Net → Nat → Timer Callback → TimerError × Timer Callback) :
    Preserves (Under Mild (Off s)) (on_timer f) X :=
  on_timer_preserves fun _ _ _ _ _ h => ⟨h.state, h.action, h.event, h.asleep⟩

/-! ## loop -/

instance : Preserves (Under Mild (Off s)) poll_urc X := by
  refine poll_urc_preserves (fun urcs hg => ?_) (fun _ _ _ h => h.note rfl) fun e he => on_event_off ?_
  · simpa [Mild, mild] using hg
  · rcases he with he | rfl
    · simp [seen, he]
    · rfl

instance : Preserves (Under Mild (Off s)) check_last_status X := by
  have : Preserves (Under Mild (Off s)) (on_event .at_command_no_response) X := on_event_off rfl
  unfold check_last_status
  infer_instance

theorem handle_event_off (hs : off s) {e : NetworkLteEvent} (hr : seen e = true) (hu : unguarded e = false) :
    Triple (Under Mild (Off s)) (handle_event e)
      (fun h => Under Mild fun n l => h ≠ .fix true → Off s n l) X := by
  have hx (conn_id size : Nat) :
      Preserves (Under Mild (Off s)) (exchange (.other (.udp_receive conn_id size))) X := exchange_off rfl
  have hp : Preserves (Under Mild (Off s)) (exchange (.other .get_gnss_position)) X := exchange_off rfl
  cases e <;> simp only [seen, ofUrc, unguarded, Bool.true_eq_false] at hr hu <;> try cases hr
  case none => exact triple_pure fun _ _ h _ => h
  case context_rejected => exact triple_pure fun _ _ h _ => h
  case network_detached =>
    refine Triple.bind (Q := fun _ => Under Mild (Off s)) ?_ fun _ => triple_pure fun _ _ h _ => h
    refine Triple.bind (Preserves.out (m := reset_servers)) fun _ => ?_
    refine triple_net_of (F := fun n => n.state_ = s) (fun n l h => h.state) fun n hn => ?_
    refine Triple.ite (fun hw => ?_) fun _ => triple_pure fun _ _ h => h
    rcases hs with hs | hs
    · exact absurd (hn.trans hs) hw.2.1
    · exact absurd (hn.trans hs) hw.1
  case data_available => exact triple_post (fun _ _ _ h _ => h) (Preserves.out (m := receive_data))
  case gps_available =>
    refine Triple.bind (Preserves.out (m := xE310.ask _ _)) fun pos => Triple.ite (fun _ => ?_) fun _ => ?_
    · refine Triple.bind (Q := fun _ => Under Mild Whatever) (triple_whatever fun _ _ _ => trivial) fun _ => ?_
      refine Triple.bind (Q := fun _ => Under Mild Whatever) (triple_whatever fun _ _ _ => trivial) fun _ => ?_
      exact triple_pure fun _ _ _ hf => absurd rfl hf
    · exact triple_pure fun _ _ h _ => h

theorem process_event_off (hs : off s) : Preserves (Under Mild (Off s)) process_event X := by
  refine ⟨Triple.bind (triple_get_event (E := fun e => seen e = true) ?_ ?_) fun t => ?_⟩
  · exact fun _ _ h => h.event
  · exact fun _ _ h => ⟨h.state, h.action, rfl, h.asleep⟩
  · by_cases ht : seen t.event = true ∧ unguarded t.event = false
    · refine triple_pre (fun _ _ h => h.2) (Triple.bind (handle_event_off hs ht.1 ht.2) fun h => triple_record ?_)
      intro n l hg hn
      have hg : unguarded t.event = false ∧ h ≠ .fix true := by simpa [Mild, mild] using hg
      exact (hn hg.2).note rfl
    · by_cases hr : seen t.event = true
      · refine Triple.bind (Q := fun _ => Under Mild Whatever) (triple_whatever fun _ _ _ => trivial) fun h => ?_
        refine triple_record fun n l hg _ => absurd ⟨hr, ?_⟩ ht
        have hg : unguarded t.event = false ∧ h ≠ .fix true := by simpa [Mild, mild] using hg
        exact hg.1
      · have (h : Heard) : Preserves (Under Mild Never) (record (.handled t h)) X := inferInstance
        exact triple_absurd fun _ _ h => hr h.1

theorem off_note {e : Entry} (he : wakes e = false) : Preserves (Under Mild (Off s)) (record e) X :=
  ⟨triple_record fun _ _ _ h => h.note he⟩

instance : Preserves (Under Mild (Off s)) end_loop X := by
  have (n : Net) : Preserves (Under Mild (Off s)) (record (.loopEnd n)) X := off_note rfl
  unfold end_loop
  infer_instance

end Steps

section Calls

variable {s : NetworkLteState}

instance (fuel : Nat) : Preserves (Under Mild (Off s)) (execute_actions fuel) := by
  refine ⟨Triple.bind (triple_get_action (R := fun a n l => a = .none ∧ Off s n l) ?_) fun a => ?_⟩
  · exact fun n l h => ⟨h.action, h.state, rfl, h.event, h.asleep⟩
  · by_cases ha : a = .none
    · subst ha
      have (n : Net) (h : Heard) : Preserves (Under Mild (Off s)) (record (.ran .none n h)) := off_note rfl
      refine triple_pre (fun _ _ h => h.2) ?_
      refine Triple.bind (Preserves.out (m := net)) fun n => Triple.bind (Q := fun _ => Under Mild (Off s)) ?_
        fun h => Preserves.out
      exact triple_pure fun _ _ h => h
    · exact triple_absurd fun _ _ h => ha h.1

theorem loop_off (hs : off s) (fuel : Nat) (target : NetworkLteState) :
    Preserves (Under Mild (Off s)) (loop fuel target) := by
  have : Preserves (Under Mild (Off s)) process_event := process_event_off hs
  unfold loop
  infer_instance

theorem send_at_command_off (hs : off s) (command : Str) :
    Preserves (Under Mild (Off s)) (send_at_command command) := by
  refine ⟨triple_net_of (F := fun n => n.state_ = s) (fun n l h => h.state) fun n hn => ?_⟩
  refine Triple.ite (fun _ => triple_pure fun _ _ h => h) fun ht => absurd (fun ht => ?_) ht
  rcases hs with rfl | rfl <;> cases hn.symm.trans ht

theorem exec_off (hs : off s) (fuel : Nat) {c : Call} (hc : requests c = false) :
    Preserves (Under Mild (Off s)) (c.exec fuel) := by
  have hl (target : NetworkLteState) := loop_off hs fuel target
  have hr (command : Str) := send_at_command_off hs command
  have h1 : Preserves (Under Mild (Off s)) (exchange (.other .get_clock)) := exchange_off rfl
  have h2 : Preserves (Under Mild (Off s)) (exchange (.other .csurv_format)) := exchange_off rfl
  have h3 (a b : Nat) : Preserves (Under Mild (Off s)) (exchange (.other (.csurv a b))) := exchange_off rfl
  have h4 (k : Nat) : Preserves (Under Mild (Off s)) (exchange (.udp_status k)) := exchange_off rfl
  have h5 (k : Nat) (host : Str) (r p : Nat) : Preserves (Under Mild (Off s)) (exchange (.udp_open k host r p)) :=
    exchange_off rfl
  have h6 (k : Nat) : Preserves (Under Mild (Off s)) (exchange (.udp_close k)) := exchange_off rfl
  have h7 (opened : Option ModemStatus) : Preserves (Under Mild (Off s)) (record (.resumed opened)) := off_note rfl
  have h8 (ms : Nat) : Preserves (Under Mild (Off s)) (start_timer ms) := by unfold start_timer; infer_instance
  have h9 : Preserves (Under Mild (Off s)) stop_timer := by unfold stop_timer; infer_instance
  have h10 (ms : Nat) : Preserves (Under Mild (Off s)) (reset_timer ms) := by unfold reset_timer; infer_instance
  cases c <;> simp only [requests, Bool.true_eq_false] at hc <;> unfold Call.exec
  all_goals first | infer_instance | (unfold void; infer_instance)

theorem run_off (hs : off s) (fuel : Nat) {calls : List Call} (hc : ∀ c ∈ calls, requests c = false) :
    Preserves (Under Mild (Off s)) (run fuel calls) := by
  induction calls with
  | nil => unfold run; infer_instance
  | cons c calls ih =>
    have he := exec_off hs fuel (hc c (by simp))
    have hr := ih fun c h => hc c (by simp [h])
    have (n : Net) : Preserves (Under Mild (Off s)) (record (.called c n)) := off_note rfl
    unfold run
    infer_instance

end Calls

/-- The log of the second run starts where the machine is off. -/
theorem off_stays_off (config : NetworkLteConfig) (with_timer : Bool) (env : Nat → Tick) (fuel : Nat)
    (before after : List Call) :
    let w := (run fuel before (initial config with_timer env)).2
    let v := (run fuel after { w with log := [] }).2
    w.net.state_ = .off_mode ∨ w.net.state_ = .switched_off → w.net.modem_action_ = .none →
      w.net.event_ = .none → (∀ c ∈ after, requests c = false) → (∀ e ∈ v.log, Mild e) →
      v.net.state_ = w.net.state_ ∧ ∀ e ∈ v.log, wakes e = false := by
  intro w v hs ha he hc hg
  have h := (run_off hs fuel hc).final (s := { w with log := [] })
    (fun _ => ⟨rfl, ha, by simp [he, seen], by simp⟩) hg
  exact ⟨h.state, h.asleep⟩

/-- The modem connects, is switched off, and gets a batch at tick 53. From then on it answers with errors. -/
def switchedOff (urcs : List Str) : Nat → Tick := fun i =>
  { body := .ofView _ "+CEREG: 0,1,1,1".toList
    status := if i < 53 then .ok else .at_error
    urcs := if i = 53 then urcs else [] }

def switchOff : List Call := [.network_connect, .call_action .switch_off_radio, .loop]

theorem off_stays_off_detached :
    let w := (run 9 switchOff
      (initial {} false (switchedOff ["+CGEV: NW_DETACH".toList, "SRING: 1".toList]))).2
    let v := (run 9 [.loop] { w with log := [] }).2
    w.net.state_ = .off_mode ∧ v.net.state_ = w.net.state_ ∧ ∀ e ∈ v.log, wakes e = false :=
  ⟨by decide +kernel, off_stays_off _ _ _ _ _ _ (by decide +kernel) (by decide +kernel) (by decide +kernel)
    (by decide) (by decide +kernel)⟩

def commands (l : List Entry) : List Str :=
  l.filterMap fun e => match e with
    | .exchange cmd _ => some cmd.text
    | _ => none

theorem deactivation_wakes :
    let w := (run 9 switchOff (initial {} false (switchedOff ["+CGEV: ME DEACT \"IP\",1".toList]))).2
    let v := (run 9 [.loop] { w with log := [] }).2
    (w.net.state_ = .off_mode ∧ w.net.modem_action_ = .none ∧ w.net.event_ = .none) ∧
      v.net.state_ = .network_attaching ∧ "AT+CFUN=1".toList ∈ commands v.log := by
  decide +kernel

end LteModem.NetworkLte.OffMode
