import LteModem.NetworkLte.Urcs

/-!
# The retry budget

`attach_network` counts its calls in `nAttachRetries`, the calls that give up included, and tries again
while the count is zero or below `max_attach_retries`. The count has eight bits.
-/

open Prog Strings

set_option synthInstance.maxSize 100000

namespace LteModem.NetworkLte.AttachBudget

/-! ## Attempts -/

/-- The retry count starts anew. A `power_on` leaves it as it is. -/
def resets : Entry → Bool
  | .polled urcs => urcs.any fun urc => readUrc urc = .registered
  | .called (.set_attach_retries _) _ => true
  | _ => false

/-- An `attach_network` that moved the machine to `network_attaching`: the machine before it. -/
def attempted : Entry → Option Net
  | .ran .attach_network before (.attach false) =>
    if before.state_ = .network_attaching then none else some before
  | _ => none

def attempts : List Entry → Nat
  | [] => 0
  | e :: l => if resets e then 0 else attempts l + (attempted e).toList.length

/-- Every attempt was within the budget of its time. -/
def Within : List Entry → Prop
  | [] => True
  | e :: l => (∀ n ∈ attempted e, attempts (e :: l) ≤ max 1 n.lteConfig.max_attach_retries) ∧ Within l

/-- No call of `attach_network` finds the count at its last value. -/
def counted : Entry → Bool
  | .ran .attach_network before _ => before.data.nAttachRetries < 255
  | _ => true

def Counted (e : Entry) : Prop := counted e = true

instance : DecidablePred Counted := fun e => inferInstanceAs (Decidable (counted e = true))

theorem attempts_cons_le {e : Entry} (l : List Entry) (h : attempted e = none) : attempts (e :: l) ≤ attempts l := by
  rw [attempts, h]
  split
  · exact Nat.zero_le _
  · exact Nat.le_refl _

theorem Within.append {l : List Entry} (newer : List Entry) (h : Within (newer ++ l)) : Within l := by
  induction newer with
  | nil => exact h
  | cons e newer ih => exact ih h.2

theorem Within.attempts_le {l : List Entry} (h : Within l) {budget : Nat}
    (hb : ∀ e ∈ l, ∀ n ∈ attempted e, n.lteConfig.max_attach_retries ≤ budget) : attempts l ≤ max 1 budget := by
  induction l with
  | nil => exact Nat.zero_le _
  | cons e l ih =>
    have hl := ih h.2 fun e he => hb e (by simp [he])
    rcases ha : attempted e with _ | n
    · exact (attempts_cons_le l ha).trans hl
    · have hn := h.1 n (by simp [ha])
      have hm := hb e (by simp) n (by simp [ha])
      omega

theorem attempts_reset {e : Entry} (l : List Entry) (h : resets e = true) : attempts (e :: l) = 0 := by
  simp [attempts, h]

def Made (k : Nat) (l : List Entry) : Prop := attempts l ≤ k ∧ Within l

theorem Made.note {k : Nat} {l : List Entry} {e : Entry} (h : Made k l) (he : attempted e = none) : Made k (e :: l) :=
  ⟨(attempts_cons_le l he).trans h.1, by simp [he], h.2⟩

/-- The count is at least the number of attempts. -/
def Inv (n : Net) (l : List Entry) : Prop := Made n.data.nAttachRetries l

/-- During a call of `attach_network`: the count and the budget are as they were before it, in `b`. -/
def Trying (b : Net) (n : Net) (l : List Entry) : Prop :=
  n.data.nAttachRetries = b.data.nAttachRetries ∧
    n.lteConfig.max_attach_retries = b.lteConfig.max_attach_retries ∧ Made b.data.nAttachRetries l

def Fresh (_ : Net) (l : List Entry) : Prop := Made 0 l

theorem Fresh.inv {n : Net} {l : List Entry} (h : Fresh n l) : Inv n l := ⟨h.1.trans (Nat.zero_le _), h.2⟩

section Steps

variable {X : World → Prop} {b : Net}

instance : Unqueued Inv := ⟨fun _ _ _ h => h⟩
instance : Addressless Inv := ⟨fun _ _ _ h => h, fun _ _ h => h⟩
instance : Unflagged Inv := ⟨fun _ _ _ _ h => h⟩
instance : Restarting Inv := ⟨fun _ _ h => h⟩
instance : Fixless Inv := ⟨fun _ _ _ h => h⟩
instance : Untimed Inv := ⟨fun _ _ _ _ h => h⟩
instance : Unflagged (Trying b) := ⟨fun _ _ _ _ h => h⟩
instance : Untimed (Trying b) := ⟨fun _ _ _ _ h => h⟩

theorem Inv.same {n m : Net} {l : List Entry} (hd : Same n.data m.data) (h : Inv n l) : Inv m l := by
  unfold Inv
  rw [hd.nAttachRetries]
  exact h

instance : Routine Counted Inv where
  move n _ m h := h.same (move_same n m)
  data _ _ _ hd h := h.same hd
  other _ _ _ _ _ _ h := h.note rfl
  prompt _ _ _ _ _ _ h := h.note rfl
  config _ _ _ h := h
  reset _ _ h := h
  action _ _ _ _ h := h
  event _ _ _ _ h := h
  cfun _ _ _ _ _ _ h := h.note rfl
  polled _ _ _ _ h := h.note rfl
  called _ _ _ _ _ h := h.note rfl
  loopEnd _ _ _ _ h := h.note rfl
  cold _ _ _ h := h
  warm _ _ _ h := h
  last_status _ _ _ h := h
  urc _ _ _ _ _ _ h := h.note rfl

instance : Timeless Counted Inv where
  st_timer _ _ _ h := h
  timer _ _ _ h := h
  started _ _ _ _ h := h.note rfl

instance : Acting Counted (Trying b) where
  move n _ m h := ⟨(move_same n m).nAttachRetries.trans h.1, by simpa using h.2.1, h.2.2⟩
  data _ _ _ hd h := ⟨hd.nAttachRetries.trans h.1, h.2⟩
  other _ _ _ _ _ _ h := ⟨h.1, h.2.1, h.2.2.note rfl⟩
  prompt _ _ _ _ _ _ h := ⟨h.1, h.2.1, h.2.2.note rfl⟩
  reset _ _ h := h
  action _ _ _ _ h := h

instance : Timeless Counted (Trying b) where
  st_timer _ _ _ h := h
  timer _ _ _ h := h
  started _ _ _ _ h := ⟨h.1, h.2.1, h.2.2.note rfl⟩

instance (cmd : AtCmd) : Preserves (Under Counted Inv) (exchange cmd) X :=
  exchange_preserves fun _ _ _ _ h => h.note rfl
instance (cmd : AtCmd) : Preserves (Under Counted (Trying b)) (exchange cmd) X :=
  exchange_preserves fun _ _ _ _ h => ⟨h.1, h.2.1, h.2.2.note rfl⟩

instance (e : NetworkLteEvent) : Preserves (Under Counted (Trying b)) (on_event e) X := by
  have : Preserves (Under Counted (Trying b)) (updateNet (Net.on_event e)) X :=
    ⟨triple_updateNet fun n _ h => ⟨(on_event_same e n).nAttachRetries.trans h.1, h.2⟩⟩
  unfold on_event
  infer_instance

instance (s : NetworkLteState) : Preserves (Under Counted Inv) (change_state s) X :=
  ⟨triple_post (fun _ _ _ h => h.2)
    (triple_change_state_in (fun _ _ h => h) fun _ _ _ h => h.note rfl)⟩

theorem attaching_spec :
    Triple (Under Counted (Trying b)) (change_state .network_attaching) (fun _ => Under Counted (Trying b)) X := by
  have : Preserves (Under Counted (In (· = .network_attaching) (Trying b))) (enter_state .network_attaching) X :=
    enter_state_preserves (by decide) (by decide)
  exact triple_post (fun _ _ _ h => h.2)
    (triple_change_state_in (fun _ _ h => h) fun _ _ _ h => ⟨h.1, h.2.1, h.2.2.note rfl⟩)

/-! ## attach_network -/

/-- After a call that heard `h`: only a change of technology or bands is not counted, and an attempt is
made while the count is zero or below the budget. -/
def Tried (b : Net) (h : Heard) (n : Net) (l : List Entry) : Prop :=
  Made b.data.nAttachRetries l ∧
    n.data.nAttachRetries =
      (if h = .attach true then b.data.nAttachRetries else (b.data.nAttachRetries + 1) % 2 ^ 8) ∧
    (h = .attach false →
      b.data.nAttachRetries = 0 ∨ b.data.nAttachRetries < b.lteConfig.max_attach_retries)

theorem count_attach_spec {h : Heard} (hh : h ≠ .attach true)
    (ha : h = .attach false → b.data.nAttachRetries = 0 ∨ b.data.nAttachRetries < b.lteConfig.max_attach_retries) :
    Triple (Under Counted (Trying b)) count_attach (fun _ => Under Counted (Tried b h)) X := by
  unfold count_attach updateData
  refine triple_updateNet fun n l hn => ⟨hn.2.2, ?_, ha⟩
  rw [if_neg hh, ← hn.1]

theorem start_attach_spec
    (hb : b.data.nAttachRetries = 0 ∨ b.data.nAttachRetries < b.lteConfig.max_attach_retries) :
    Triple (Under Counted (Trying b)) start_attach (fun h => Under Counted (Tried b h)) X := by
  refine Triple.bind (Preserves.out (m := net)) fun n => Triple.ite (fun _ => ?_) fun _ => ?_
  · refine Triple.bind (Preserves.out (m := call_action _)) fun _ => triple_pure fun n l hn => ?_
    exact ⟨hn.2.2, by rw [if_pos rfl, hn.1], by simp⟩
  · refine Triple.bind attaching_spec fun _ => Triple.bind (Preserves.out (m := xE310.send _)) fun _ => ?_
    exact Triple.bind (count_attach_spec (by simp) fun _ => hb) fun _ => triple_pure fun _ _ h => h

theorem attach_network_spec (b : Net) :
    Triple (Under Counted fun n l => n = b ∧ Inv n l) attach_network (fun h => Under Counted (Tried b h)) X := by
  refine triple_pre (P := Trying b) ?_ ?_
  · rintro n l ⟨rfl, h⟩
    exact ⟨rfl, rfl, h⟩
  · refine Triple.bind (Preserves.out (m := xE310.send _)) fun _ => ?_
    refine triple_net_of (F := fun n => n.data.nAttachRetries = b.data.nAttachRetries ∧
      n.lteConfig.max_attach_retries = b.lteConfig.max_attach_retries) ?_ fun n hn => ?_
    · exact fun n l h => ⟨h.1, h.2.1⟩
    · refine Triple.ite (fun h0 => ?_) fun _ => Triple.ite (fun hm => ?_) fun _ => ?_
      · refine Triple.bind (Preserves.out (m := check_attach _ _ _ _)) fun _ => start_attach_spec (.inl ?_)
        exact hn.1.symm.trans h0
      · refine Triple.bind (Preserves.out (m := check_attach _ _ _ _)) fun _ => start_attach_spec (.inr ?_)
        rwa [hn.1, hn.2] at hm
      · refine Triple.bind (Preserves.out (m := on_event _)) fun _ => ?_
        exact Triple.bind (count_attach_spec (by simp) (by simp)) fun _ => triple_pure fun _ _ h => h

theorem attempted_ran (b : Net) (h : Heard) :
    attempted (.ran .attach_network b h) = none ∨
      h = .attach false ∧ attempted (.ran .attach_network b h) = some b := by
  by_cases hf : h = .attach false
  · subst hf
    by_cases hs : b.state_ = .network_attaching
    · exact .inl (if_pos hs)
    · exact .inr ⟨rfl, if_neg hs⟩
  · left
    unfold attempted
    split
    · simp_all
    · rfl

theorem Tried.inv {h : Heard} {n : Net} {l : List Entry} (ht : Tried b h n l) (hb : b.data.nAttachRetries < 255) :
    Inv n (.ran .attach_network b h :: l) := by
  obtain ⟨hm, hn, ha⟩ := ht
  by_cases hc : h = .attach true
  · subst hc
    rw [if_pos rfl] at hn
    unfold Inv
    rw [hn]
    exact hm.note rfl
  · rw [if_neg hc, Nat.mod_eq_of_lt (by omega)] at hn
    unfold Inv
    rw [hn]
    rcases attempted_ran b h with hf | ⟨rfl, hf⟩
    · exact ⟨((attempts_cons_le l hf).trans hm.1).trans (Nat.le_succ _), by simp [hf], hm.2⟩
    · have hl : attempts (.ran .attach_network b (.attach false) :: l) = attempts l + 1 := by
        simp [attempts, resets, hf]
      have hk := hm.1
      refine ⟨by omega, fun m hmem => ?_, hm.2⟩
      obtain rfl : b = m := by simpa [hf] using hmem
      have hb := ha rfl
      omega

/-! ## Resets -/

instance : Eventful Counted Fresh where
  move _ _ _ h := h
  data _ _ _ _ h := h
  other _ _ _ _ _ _ h := h.note rfl
  prompt _ _ _ _ _ _ h := h.note rfl
  config _ _ _ h := h
  reset _ _ h := h
  action _ _ _ _ h := h
  event _ _ _ _ h := h
  cfun _ _ _ _ _ _ h := h.note rfl
  polled _ _ _ _ h := h.note rfl
  called _ _ _ _ _ h := h.note rfl

instance : Blind Fresh := ⟨fun _ _ _ h => h⟩

/-- A batch with a registration starts the count anew before any of its lines is handled. -/
instance : Preserves (Under Counted Inv) poll_urc X := by
  refine ⟨Triple.bind (Preserves.out (m := net)) fun n => Triple.ite (fun _ => ?_) fun _ => Preserves.out⟩
  refine Triple.bind (Preserves.out (m := tick)) fun t => ?_
  by_cases ht : t.urcs.any fun urc => readUrc urc = .registered
  · refine Triple.bind (Q := fun _ => Under Counted Fresh) (triple_record fun n l _ h => ?_) fun _ => ?_
    · exact ⟨(attempts_reset (e := .polled t.urcs) l ht).le, by simp [attempted], h.2⟩
    · exact triple_post (fun _ _ _ h => h.inv) Preserves.out
  · have hr : ∀ urc ∈ t.urcs, readUrc urc ≠ .registered := by simpa using ht
    have := handle_urcs_preserves (I := Under Counted Inv) (X := X) fun urc hu =>
      handle_preserves (fun e he => on_event_preserves (ne_timeout_of_urc he)) (hr urc hu)
    exact Preserves.out

theorem set_attach_retries_spec (fuel k : Nat) :
    Preserves (Under Counted Inv)
      (do let n ← net; record (.called (.set_attach_retries k) n); (Call.set_attach_retries k).exec fuel) X := by
  refine ⟨triple_called (Q := Fresh) (fun n l _ h => ?_) ?_⟩
  · exact ⟨(attempts_reset (e := .called (.set_attach_retries k) n) l rfl).le, by simp [attempted], h.2⟩
  · unfold Call.exec
    exact triple_post (fun _ _ _ h => h.inv) Preserves.out

end Steps

/-! ## Runs -/

instance (fuel : Nat) : Preserves (Under Counted Inv) (execute_actions fuel) := by
  refine ⟨Triple.bind (Preserves.out (m := get_action)) fun a => Triple.bind triple_net fun b => ?_⟩
  by_cases ha : a = .attach_network
  · subst ha
    refine Triple.bind (attach_network_spec b) fun h => triple_record fun n l hg ht => ?_
    exact ht.inv (of_decide_eq_true hg)
  · have hp : Preserves (Under Counted Inv) (perform fuel a) :=
      perform_preserves fuel a (fun _ => inferInstance) (fun h => absurd h ha) (fun _ => inferInstance)
        (fun _ => inferInstance) (fun _ => inferInstance) fun _ => inferInstance
    refine triple_pre (fun _ _ h => h.2) ?_
    refine Triple.bind hp.out fun h => triple_record fun n l _ hn => ?_
    refine hn.note ?_
    cases a <;> first | rfl | exact absurd rfl ha

instance (t : Taken) (h : Heard) : Preserves (Under Counted Inv) (record (.handled t h)) :=
  ⟨triple_record fun _ _ _ h => h.note rfl⟩
instance (offers : List Offer) (n : Net) : Preserves (Under Counted Inv) (record (.searched offers n)) :=
  ⟨triple_record fun _ _ _ h => h.note rfl⟩
instance (opened : Option ModemStatus) : Preserves (Under Counted Inv) (record (.resumed opened)) :=
  ⟨triple_record fun _ _ _ h => h.note rfl⟩
instance (k : Conn) (f : ServerInfo → ServerInfo) : Preserves (Under Counted Inv) (update_server k f) :=
  ⟨triple_updateNet fun _ _ h => h⟩
instance : Preserves (Under Counted Inv) force_psm := by
  unfold force_psm
  infer_instance

theorem run_inv (fuel : Nat) (calls : List Call) : Preserves (Under Counted Inv) (run fuel calls) := by
  refine run_preserves fuel (fun c => ?_) calls
  by_cases hc : ∃ k, c = .set_attach_retries k
  · obtain ⟨k, rfl⟩ := hc
    exact set_attach_retries_spec fuel k
  · have := exec_preserves (G := Counted) (P := Inv) (X := Under Counted Inv) fuel c (fun _ _ => inferInstance)
      (fun k h => absurd ⟨k, h⟩ hc) (fun _ => inferInstance) (fun _ _ => inferInstance) fun _ _ => inferInstance
    infer_instance

/-- As long as the count does not wrap, every attempt is within the budget of its time, counted since
the last reset. So no budget that is never raised is exceeded at any moment of the run. -/
theorem attempts_within_budget (config : NetworkLteConfig) (with_timer : Bool) (env : Nat → Tick) (fuel : Nat)
    (calls : List Call) :
    let w := (run fuel calls (initial config with_timer env)).2
    (∀ e ∈ w.log, Counted e) → Within w.log ∧ ∀ newer l budget, w.log = newer ++ l →
      (∀ e ∈ l, ∀ n ∈ attempted e, n.lteConfig.max_attach_retries ≤ budget) → attempts l ≤ max 1 budget := by
  intro w hw
  have h : Within w.log := ((run_inv fuel calls).final (s := initial config with_timer env)
    (fun _ => ⟨Nat.le_refl _, trivial⟩) hw).2
  refine ⟨h, fun newer l budget hl hb => ?_⟩
  rw [hl] at h
  exact (h.append newer).attempts_le hb

/-- A network that is never found: every command fails, and every batch says that the search is over. -/
def searching : Nat → Tick := fun _ =>
  { status := .at_error, urcs := ["%NOTIFYEV:\"PLMNSEARCHEXH\"".toList] }

def round : List Call := [.call_action .attach_network, .loop]

def rounds (n : Nat) : List Call := (List.replicate n round).flatten

theorem attempts_within_budget_spent :
    let w := (run 9 (rounds 3) (initial {} false searching)).2
    attempts w.log = 2 ∧ Within w.log ∧ ∀ newer l budget, w.log = newer ++ l →
      (∀ e ∈ l, ∀ n ∈ attempted e, n.lteConfig.max_attach_retries ≤ budget) → attempts l ≤ max 1 budget :=
  ⟨by decide +kernel, attempts_within_budget _ _ _ _ _ (by decide +kernel)⟩

/-! ## The wrap -/

structure Looking (retries count : Nat) (w : World) : Prop where
  env : w.env = searching
  state : w.net.state_ = .switched_off ∨ w.net.state_ = .network_detached ∨ w.net.state_ = .network_attaching
  status : w.net.last_status_ ≠ .timeout
  budget : w.net.lteConfig.max_attach_retries = 2
  same : w.net.data.fChangeRAT = false ∧ w.net.data.fChangeBands = false
  retries : w.net.data.nAttachRetries = retries
  count : attempts w.log = count

section Searching

variable {w : World}

theorem tick_searching (h : w.env = searching) :
    tick w = (some (searching 0), { w with clock := w.clock + 1 }) := by
  obtain ⟨n, env, c, l⟩ := w
  subst h
  rfl

theorem exchange_searching (h : w.env = searching) (cmd : AtCmd) :
    exchange cmd w = (some ⟨.at_error, []⟩,
      { w with
        net := { w.net with last_status_ := .at_error }
        clock := w.clock + 1
        log := .exchange cmd ⟨.at_error, []⟩ :: w.log }) := by
  obtain ⟨n, env, c, l⟩ := w
  subst h
  rfl

theorem handle_urcs_searching : handle_urcs (searching 0).urcs = (do on_event .network_detached; pure ()) := by
  have h : readUrc "%NOTIFYEV:\"PLMNSEARCHEXH\"".toList = .raises .network_detached := by decide +kernel
  unfold searching handle_urcs handle_urcs
  rw [handle_urc_eq, h]
  rfl

theorem attempts_polled (l : List Entry) : attempts (.polled (searching 0).urcs :: l) = attempts l := by
  have h : resets (.polled (searching 0).urcs) = false := by
    unfold searching
    decide +kernel
  simp [attempts, h, attempted]

variable {r k : Nat}

theorem poll_urc_searching (h : Looking r k w) :
    ∃ v, poll_urc w = (some (), v) ∧ Looking r k v ∧ v.net.event_ = .network_detached ∧
      v.net.modem_action_ = w.net.modem_action_ := by
  have hs : w.net.state_ ≠ .transparent_mode := by
    rcases h.state with hs | hs | hs <;> simp [hs]
  refine ⟨_, by simp [poll_urc, net, bind_run, hs, tick_searching, h.env, record, handle_urcs_searching, on_event,
    updateNet]; rfl, ?_⟩
  exact ⟨⟨rfl, h.state, h.status, h.budget, h.same, h.retries, (attempts_polled w.log).trans h.count⟩, rfl, rfl⟩

theorem process_event_searching (h : Looking r k w) (he : w.net.event_ = .network_detached)
    (ha : w.net.modem_action_ = .attach_network) :
    ∃ v, process_event w = (some (), v) ∧ Looking r k v ∧ v.net.modem_action_ = .attach_network ∧
      v.net.state_ ≠ .network_attaching := by
  rcases h.state with hs | hs | hs
  · refine ⟨_, by simp [process_event, get_event, bind_run, tick_searching, h.env, net, he, clear_event, updateNet,
      handle_event, on_detached, reset_servers, hs, record]; rfl, ?_⟩
    exact ⟨⟨rfl, .inl rfl, h.status, h.budget, h.same, h.retries, h.count⟩, ha, by simp⟩
  · refine ⟨_, by simp [process_event, get_event, bind_run, tick_searching, h.env, net, he, clear_event, updateNet,
      handle_event, on_detached, reset_servers, hs, change_state, record]; rfl, ?_⟩
    exact ⟨⟨rfl, .inr (.inl rfl), h.status, h.budget, h.same, h.retries, h.count⟩, ha, by simp⟩
  · refine ⟨_, by simp [process_event, get_event, bind_run, tick_searching, h.env, net, he, clear_event, updateNet,
      handle_event, on_detached, reset_servers, hs, change_state, record, set_state, Net.enter, leave_state,
      NetworkLteState.timed, state_timer_elapsed, updateData, stop_state_timer, enter_state, Prog.when, enter_timer,
      entryTimer, call_action, Net.call_action]; rfl, ?_⟩
    exact ⟨⟨rfl, .inr (.inl rfl), h.status, h.budget, h.same, h.retries, h.count⟩, rfl, by simp⟩

theorem attach_network_spent (h : Looking r k w) (hr : 2 ≤ r) :
    ∃ v, attach_network w = (some .nothing, v) ∧ Looking ((r + 1) % 2 ^ 8) k v := by
  have h0 : r ≠ 0 := by omega
  have h2 : ¬ r < 2 := by omega
  refine ⟨_, by simp [attach_network, bind_run, xE310.send, exchange_searching, h.env, net, h.retries, h0, h.budget,
    h2, on_event, tick_searching, updateNet, count_attach, updateData]; rfl, ?_⟩
  exact ⟨rfl, h.state, nofun, h.budget, h.same, by rw [← h.retries]; rfl, by rw [← h.count]; rfl⟩

theorem attach_network_tries (h : Looking r k w) (hr : r < 2) (hs : w.net.state_ ≠ .network_attaching) :
    ∃ v, attach_network w = (some (.attach false), v) ∧ Looking ((r + 1) % 2 ^ 8) k v := by
  have ht : ¬ w.net.state_.timed = true := by
    rcases h.state with hs | hs | hs <;> simp_all [NetworkLteState.timed]
  have hs : NetworkLteState.network_attaching ≠ w.net.state_ := Ne.symm hs
  have hc := h.same
  obtain rfl | rfl : r = 0 ∨ r = 1 := by omega
  all_goals
    refine ⟨_, by simp [attach_network, bind_run, xE310.send, exchange_searching, h.env, net, h.retries, h.budget,
      check_attach, xE310.ask, xE310.get_iot_tech, Replies.get_apn, Replies.get_bands, Replies.get_iot_tech,
      Prog.when, start_attach, hc, change_state, hs, set_state, tick_searching, Net.enter, leave_state, ht,
      enter_state, enter_timer, entryTimer, start_state_timer, record, updateNet, count_attach, updateData,
      NetData.push_trace]; rfl, ?_⟩
    exact ⟨rfl, .inr (.inr rfl), nofun, h.budget, ⟨rfl, rfl⟩, rfl, by rw [← h.count]; rfl⟩

theorem round_run (h : Looking r k w) :
    ∃ v, run 9 round w = (some (), v) ∧ Looking ((r + 1) % 2 ^ 8) (if r < 2 then k + 1 else k) v := by
  let asked : World :=
    { w with
      net := w.net.call_action .attach_network
      log := .called .loop (w.net.call_action .attach_network) ::
        .called (.call_action .attach_network) w.net :: w.log }
  have h0 : Looking r k asked := ⟨h.env, h.state, h.status, h.budget, h.same, h.retries, h.count⟩
  obtain ⟨w1, hp, h1, he, ha⟩ := poll_urc_searching h0
  obtain ⟨w2, hr, h2, ha, hs⟩ := process_event_searching h1 he ha
  have hw : Looking r k { w2 with net := { w2.net with modem_action_ := .none } } :=
    ⟨h2.env, h2.state, h2.status, h2.budget, h2.same, h2.retries, h2.count⟩
  have hrun : run 9 round w = (do void (loop 9 .none); pure ()) asked := rfl
  rw [hrun]
  by_cases h : r < 2
  · obtain ⟨v, hv, hl⟩ := attach_network_tries hw h hs
    rw [if_pos h]
    refine ⟨_, by simp [void, loop, bind_run, hp, check_last_status, net, h1.status, hr, execute_actions, get_action,
      ha, perform, hv, record, end_loop, tick_searching, hl.env]; rfl, ?_⟩
    refine ⟨rfl, hl.state, hl.status, hl.budget, hl.same, hl.retries, ?_⟩
    simp [attempts, resets, attempted, hs, hl.count]
  · obtain ⟨v, hv, hl⟩ := attach_network_spent hw (Nat.le_of_not_lt h)
    rw [if_neg h]
    refine ⟨_, by simp [void, loop, bind_run, hp, check_last_status, net, h1.status, hr, execute_actions, get_action,
      ha, perform, hv, record, end_loop, tick_searching, hl.env]; rfl, ?_⟩
    exact ⟨rfl, hl.state, hl.status, hl.budget, hl.same, hl.retries, hl.count⟩

end Searching

theorem rounds_succ (n : Nat) : rounds (n + 1) = rounds n ++ round := by
  simp [rounds, List.replicate_succ']

theorem rounds_run (n : Nat) (hn : n < 2 ^ 8) :
    ∃ v, run 9 (rounds n) (initial {} false searching) = (some (), v) ∧ Looking n (min n 2) v := by
  induction n with
  | zero => exact ⟨_, rfl, rfl, .inl rfl, nofun, rfl, ⟨rfl, rfl⟩, rfl, rfl⟩
  | succ n ih =>
    obtain ⟨v, hv, hl⟩ := ih (by omega)
    obtain ⟨u, hu, hl⟩ := round_run hl
    refine ⟨u, by rw [rounds_succ, run_append hv, hu], ?_⟩
    have hk : (if n < 2 then min n 2 + 1 else min n 2) = min (n + 1) 2 := by split <;> omega
    rwa [Nat.mod_eq_of_lt hn, hk] at hl

/-- Two attempts, 254 calls that give up, and a third attempt. -/
theorem third_attempt_after_wrap :
    let w := (run 9 (rounds 257) (initial {} false searching)).2
    max 1 ({} : NetworkLteConfig).max_attach_retries = 2 ∧ attempts w.log = 3 := by
  intro w
  obtain ⟨u, hu, hl⟩ := rounds_run 255 (by decide)
  obtain ⟨v, hv, hl⟩ := round_run hl
  obtain ⟨t, ht, hl⟩ := round_run hl
  have hr : run 9 (rounds 257) (initial {} false searching) = (some (), t) := by
    rw [rounds_succ 256, rounds_succ 255, List.append_assoc, run_append hu, run_append hv, ht]
  have hw : w = t := congrArg Prod.snd hr
  rw [hw]
  exact ⟨rfl, hl.count⟩

end LteModem.NetworkLte.AttachBudget
