import LteModem.NetworkLte.AttachBudget

/-!
# What a power-on restores

`power_on` resets `nNetworkAttempts`, which nothing reads. Whether the next `attach_network` tries to attach
is decided by `nAttachRetries` and the change flags, and these stay as they were.
-/

open Prog Strings

set_option synthInstance.maxSize 100000

namespace LteModem.NetworkLte.PowerOn

def handled : Entry → Bool
  | .handled _ _ => true
  | _ => false

/-- What the last action did: the entries since the event of its round. -/
def during (l : List Entry) : List Entry := l.takeWhile (!handled ·)

/-- The configuration that an attempt with this retry count uses. -/
def profile (n : Net) : RadioTech × Nat :=
  if n.data.nAttachRetries = 0 then (n.lteConfig.default_iot_tech, n.lteConfig.default_lte_bands)
  else (n.lteConfig.fallback_iot_tech, n.lteConfig.fallback_lte_bands)

/-- Where the modem reports a technology or a mask, it is this one. -/
def reports (p : RadioTech × Nat) : Entry → Bool
  | .exchange (.other .get_iot_tech) a =>
    (Replies.afterColon a.body).isSome ∧ Replies.get_iot_tech a .unknown = (.ok, p.1)
  | .exchange (.other .get_bands) a =>
    (Replies.get_bands a {}).1 = .ok ∧ (Replies.get_bands a {}).2.lte_mask = p.2
  | _ => true

def Matching (b : Net) (es : List Entry) : Prop := ∀ e ∈ es, reports (profile b) e = true

theorem reports_tech {p : RadioTech × Nat} {a : Answer} (h : reports p (.exchange (.other .get_iot_tech) a) = true)
    (tech : RadioTech) : Replies.get_iot_tech a tech = (.ok, p.1) := by
  obtain ⟨hs, ht⟩ := of_decide_eq_true h
  obtain ⟨params, hp⟩ := Option.isSome_iff_exists.mp hs
  rw [← ht]
  unfold Replies.get_iot_tech
  split_ifs with hok
  · simp [Replies.get_iot_tech, hok] at ht
  · simp [hp]

/-- The budget is not spent, and no change of technology or bands is left over. -/
def Able (b : Net) : Prop :=
  (b.data.nAttachRetries = 0 ∨ b.data.nAttachRetries < b.lteConfig.max_attach_retries) ∧
    b.data.fChangeRAT = false ∧ b.data.fChangeBands = false

def radioOn : Entry → Bool
  | .exchange (.cfun 1) _ => true
  | _ => false

/-- The action moved the machine to `network_attaching` and powered the radio. -/
def Attaching (s : NetworkLteState) (es : List Entry) : Prop := s = .network_attaching ∧ ∃ e ∈ es, radioOn e = true

def Outcome (b : Net) (s : NetworkLteState) (older : List Entry) : Prop :=
  Matching b (during older) → (Attaching s (during older) ↔ Able b)

/-- Every `attach_network` so far, with the machine at the end of its round. -/
def Good (l : List Entry) : Prop :=
  ∀ newer n b h older, l = newer ++ .loopEnd n :: .ran .attach_network b h :: older → Outcome b n.state_ older

/-- The action that has just run, if it was an `attach_network`. -/
def Done (n : Net) (l : List Entry) : Prop :=
  ∀ b h older, l = .ran .attach_network b h :: older → Outcome b n.state_ older

def ends : Entry → Bool
  | .loopEnd _ => true
  | _ => false

theorem Good.note {l : List Entry} {e : Entry} (hl : Good l) (he : ends e = false) : Good (e :: l) := by
  intro newer n b h older heq
  cases newer with
  | nil =>
    cases heq
    cases he
  | cons e' newer =>
    cases heq
    exact hl newer n b h older rfl

theorem Good.ended {l : List Entry} {n : Net} (hl : Good l) (hn : Done n l) : Good (.loopEnd n :: l) := by
  intro newer m b h older heq
  cases newer with
  | nil =>
    cases heq
    exact hn b h older rfl
  | cons e' newer =>
    cases heq
    exact hl newer m b h older rfl

def Inv (_ : Net) (l : List Entry) : Prop := Good l

def Ran (n : Net) (l : List Entry) : Prop := Good l ∧ Done n l

section Steps

variable {X : World → Prop}

instance : Blind Inv := ⟨fun _ _ _ h => h⟩
instance : Restarting Inv := ⟨fun _ _ h => h⟩

instance : Ordinary Always Inv where
  move _ _ _ h := h
  data _ _ _ _ h := h
  other _ _ _ _ _ _ h := h.note rfl
  prompt _ _ _ _ _ _ h := h.note rfl
  config _ _ _ h := h
  reset _ _ h := h
  action _ _ _ _ h := h
  event _ _ _ _ h := h
  cfun _ _ _ _ _ _ h := h.note rfl
  ran _ _ _ _ _ _ h := h.note rfl
  polled _ _ _ _ h := h.note rfl
  called _ _ _ _ _ h := h.note rfl

instance : Timeless Always Inv where
  st_timer _ _ _ h := h
  timer _ _ _ h := h
  started _ _ _ _ h := h.note rfl

instance (cmd : AtCmd) : Preserves (Under Always Inv) (exchange cmd) X :=
  exchange_preserves fun _ _ _ _ h => h.note rfl
instance (s : ModemStatus) : Preserves (Under Always Inv) (set_last_status s) X := ⟨triple_updateNet fun _ _ h => h⟩
instance (c : Bool) : Preserves (Under Always Inv) (set_fColdBoot c) X := ⟨triple_updateNet fun _ _ h => h⟩
instance (w : Bool) : Preserves (Under Always Inv) (set_fWarmBoot w) X := ⟨triple_updateNet fun _ _ h => h⟩
instance (k : Conn) (f : ServerInfo → ServerInfo) : Preserves (Under Always Inv) (update_server k f) X :=
  ⟨triple_updateNet fun _ _ h => h⟩
instance (c : NetworkLteConfig) : Preserves (Under Always Inv) (apply_boot_configuration c) X := by
  unfold apply_boot_configuration; infer_instance

theorem record_inv {e : Entry} (he : ends e = false) : Preserves (Under Always Inv) (record e) X :=
  ⟨triple_record fun _ _ _ h => h.note he⟩

instance (s : NetworkLteState) : Preserves (Under Always Inv) (change_state s) X :=
  ⟨triple_post (fun _ _ _ h => h.2) (triple_change_state_in (fun _ _ h => h) fun _ _ _ h => h.note rfl)⟩

end Steps

/-! ## attach_network -/

theorem during_cons {e : Entry} (he : handled e = false) (l : List Entry) : during (e :: l) = e :: during l := by
  simp [during, he]

/-- During a call that began with the machine `b`: as long as the modem matches, no flag has changed, and
`F` is known. -/
structure Trying (b : Net) (F : Prop) (n : Net) (l : List Entry) : Prop where
  good : Good l
  config : n.lteConfig = b.lteConfig
  retries : n.data.nAttachRetries = b.data.nAttachRetries
  flags : Matching b (during l) →
    n.data.fChangeRAT = b.data.fChangeRAT ∧ n.data.fChangeBands = b.data.fChangeBands
  off : ∀ e ∈ during l, radioOn e = false
  fact : Matching b (during l) → F

theorem Matching.head {b : Net} {e : Entry} {es : List Entry} (h : Matching b (e :: es)) :
    reports (profile b) e = true :=
  h e (by simp)

theorem Matching.tail {b : Net} {e : Entry} {es : List Entry} (h : Matching b (e :: es)) : Matching b es :=
  fun f hf => h f (by simp [hf])

section Trying

variable {X : World → Prop} {b : Net} {F : Prop}

theorem Trying.note {n : Net} {l : List Entry} {e : Entry} (h : Trying b F n l) (he : ends e = false)
    (hh : handled e = false) (hr : radioOn e = false) : Trying b F n (e :: l) where
  good := h.good.note he
  config := h.config
  retries := h.retries
  flags := by
    rw [during_cons hh]
    exact fun hm => h.flags hm.tail
  off := by
    rw [during_cons hh]
    simpa [hr] using h.off
  fact := by
    rw [during_cons hh]
    exact fun hm => h.fact hm.tail

theorem Trying.same {n m : Net} {l : List Entry} (h : Trying b F n l) (hc : m.lteConfig = n.lteConfig)
    (hd : Same n.data m.data) : Trying b F m l where
  good := h.good
  config := hc.trans h.config
  retries := hd.nAttachRetries.trans h.retries
  flags := by
    rw [hd.fChangeRAT, hd.fChangeBands]
    exact h.flags
  off := h.off
  fact := h.fact

instance : Acting Always (Trying b F) where
  move n _ m h := h.same (n.move_lteConfig m) (move_same n m)
  data _ _ _ hd h := h.same rfl hd
  other _ _ c a _ _ h := (h.note (e := .exchange (.other c) a) rfl rfl rfl).same rfl {}
  prompt _ _ _ _ _ _ h := h.note rfl rfl rfl
  reset _ _ h := h.same rfl {}
  action _ _ _ _ h := h.same rfl {}

instance : Untimed (Trying b F) := ⟨fun _ _ _ _ h => ⟨h.good, h.config, h.retries, h.flags, h.off, h.fact⟩⟩

instance : Timeless Always (Trying b F) where
  st_timer _ _ _ h := h.same rfl {}
  timer _ _ _ h := h.same rfl {}
  started _ _ _ _ h := h.note rfl rfl rfl

theorem change_state_trying (s : NetworkLteState) (hd : s ≠ .network_detached) (hp : s ≠ .pdp_context_closed) :
    Triple (Under Always (Trying b F)) (change_state s) (fun _ => Under Always (In (· = s) (Trying b F))) X := by
  have : Preserves (Under Always (In (· = s) (Trying b F))) (enter_state s) X := enter_state_preserves hd hp
  exact triple_change_state_in (fun _ _ h => h.same rfl {}) fun _ _ _ h => h.note rfl rfl rfl

theorem check_attach_spec (cid : Nat) (apn : FixedString MODEM_MEDIUM_STR) :
    Triple (Under Always (Trying b F)) (check_attach cid apn (profile b).1 (profile b).2)
      (fun _ => Under Always (Trying b F)) X := by
  have (apn : FixedString MODEM_MEDIUM_STR) :
      Preserves (Under Always (Trying b F)) (updateData fun d => { d with regInfo := { d.regInfo with apn } }) X :=
    updateData_preserves fun _ => {}
  refine Triple.bind (Preserves.out (m := net)) fun n => Triple.bind (Preserves.out (m := xE310.ask _ _)) fun current => ?_
  refine Triple.bind Preserves.out fun _ => Triple.bind Preserves.out fun _ => ?_
  refine Triple.bind (Q := fun current => Under Always fun n l => Trying b F n l ∧
    (Matching b (during l) → current = (.ok, (profile b).1))) ?_ fun current => ?_
  · refine Triple.bind (Preserves.out (m := tick)) fun t => triple_ask fun n l a _ h => ?_
    refine ⟨(h.note (e := .exchange (.other .get_iot_tech) a) rfl rfl rfl).same rfl {}, fun hm => ?_⟩
    rw [during_cons rfl] at hm
    exact reports_tech hm.head t.tech
  · refine Triple.bind (Q := fun _ => Under Always (Trying b F)) ?_ fun _ => ?_
    · refine Triple.when (fun hc => triple_updateNet fun n l h => ?_) fun _ w => Under.mono fun _ _ h => h.1
      refine ⟨h.1.good, h.1.config, h.1.retries, fun hm => ?_, h.1.off, h.1.fact⟩
      exact absurd (by rw [h.2 hm]) hc.2
    · refine Triple.bind (Q := fun current => Under Always fun n l => Trying b F n l ∧
        (Matching b (during l) → current.2.lte_mask = (profile b).2)) ?_ fun current => ?_
      · refine triple_ask fun n l a _ h => ?_
        refine ⟨(h.note (e := .exchange (.other .get_bands) a) rfl rfl rfl).same rfl {}, fun hm => ?_⟩
        rw [during_cons rfl] at hm
        exact (of_decide_eq_true hm.head).2
      · refine Triple.when (fun hc => triple_updateNet fun n l h => ?_) fun _ w => Under.mono fun _ _ h => h.1
        refine ⟨h.1.good, h.1.config, h.1.retries, fun hm => ?_, h.1.off, h.1.fact⟩
        exact absurd (h.2 hm) hc.2

/-- After the call. -/
def Tried (b : Net) (n : Net) (l : List Entry) : Prop := Good l ∧ Outcome b n.state_ l

theorem Trying.failed {n : Net} {l : List Entry} (h : Trying b (¬ Able b) n l) : Tried b n l := by
  refine ⟨h.good, fun hm => iff_of_false ?_ (h.fact hm)⟩
  rintro ⟨-, e, he, hr⟩
  exact absurd ((h.off e he).symm.trans hr) (by decide)

theorem Trying.imp {E : Prop} {n : Net} {l : List Entry} (h : Trying b F n l) (hf : Matching b (during l) → E) :
    Trying b E n l :=
  ⟨h.good, h.config, h.retries, h.flags, h.off, hf⟩

theorem start_attach_spec
    (hb : b.data.nAttachRetries = 0 ∨ b.data.nAttachRetries < b.lteConfig.max_attach_retries) :
    Triple (Under Always (Trying b F)) start_attach (fun _ => Under Always (Tried b)) X := by
  refine Triple.bind triple_net fun m => Triple.ite (fun hf => ?_) fun hf => ?_
  · refine triple_pre (P := Trying b (¬ Able b)) ?_ ?_
    · rintro n l ⟨rfl, h⟩
      refine h.imp fun hm ha => ?_
      obtain ⟨hr, hc⟩ := h.flags hm
      rw [hr, hc, ha.2.1, ha.2.2] at hf
      simp at hf
    · exact Triple.bind (Preserves.out (m := call_action _)) fun _ => triple_pure fun _ _ h => h.failed
  · refine triple_pre (P := Trying b (Able b)) ?_ ?_
    · rintro n l ⟨rfl, h⟩
      refine h.imp fun hm => ?_
      obtain ⟨hr, hc⟩ := h.flags hm
      simp only [not_or, Bool.not_eq_true] at hf
      exact ⟨hb, by rw [← hr, hf.1], by rw [← hc, hf.2]⟩
    · refine Triple.bind (change_state_trying _ (by decide) (by decide)) fun _ => ?_
      refine Triple.bind (triple_send (R := fun _ => Tried b) fun n l a _ h => ?_) fun _ => ?_
      · refine ⟨h.2.good.note rfl, fun hm => ?_⟩
        rw [during_cons rfl] at hm ⊢
        exact iff_of_true ⟨h.1, .exchange (.cfun 1) a, by simp, rfl⟩ (h.2.fact hm.tail)
      · unfold count_attach updateData
        refine Triple.bind (Q := fun _ => Under Always (Tried b)) (triple_updateNet fun _ _ h => h) fun _ => ?_
        exact triple_pure fun _ _ h => h

theorem not_able (h : ¬ b.data.nAttachRetries = 0) (hm : ¬ b.data.nAttachRetries < b.lteConfig.max_attach_retries) :
    ¬ Able b :=
  fun ha => ha.1.elim h hm

instance (e : NetworkLteEvent) : Preserves (Under Always (Trying b F)) (on_event e) X := by
  have : Preserves (Under Always (Trying b F)) (updateNet (Net.on_event e)) X :=
    ⟨triple_updateNet fun n _ h => h.same rfl (on_event_same e n)⟩
  unfold on_event
  infer_instance

theorem attach_network_spec :
    Triple (Under Always fun n l => n = b ∧ Good l ∧ during l = []) attach_network
      (fun _ => Under Always (Tried b)) X := by
  refine triple_pre (P := Trying b True) ?_ ?_
  · rintro n l ⟨rfl, h, hl⟩
    exact ⟨h, rfl, rfl, fun _ => ⟨rfl, rfl⟩, by simp [hl], fun _ => trivial⟩
  · refine Triple.bind (triple_send (R := fun _ => Trying b True) fun n l a _ h => ?_) fun _ => ?_
    · exact (h.note (e := .exchange (.cfun 4) a) rfl rfl rfl).same rfl {}
    · refine triple_net_of (F := fun n => n.lteConfig = b.lteConfig ∧ n.data.nAttachRetries = b.data.nAttachRetries)
        (fun n l h => ⟨h.config, h.retries⟩) fun n hn => ?_
      rw [hn.1, hn.2]
      refine Triple.ite (fun h0 => ?_) fun h0 => Triple.ite (fun hm => ?_) fun hm => ?_
      · have hp : profile b = (b.lteConfig.default_iot_tech, b.lteConfig.default_lte_bands) := if_pos h0
        have hc := check_attach_spec (X := X) (b := b) (F := True) b.lteConfig.cid b.lteConfig.default_apn
        rw [hp] at hc
        exact Triple.bind hc fun _ => start_attach_spec (.inl h0)
      · have hp : profile b = (b.lteConfig.fallback_iot_tech, b.lteConfig.fallback_lte_bands) := if_neg h0
        have hc := check_attach_spec (X := X) (b := b) (F := True) b.lteConfig.cid b.lteConfig.fallback_apn
        rw [hp] at hc
        exact Triple.bind hc fun _ => start_attach_spec (.inr hm)
      · refine Triple.bind (Preserves.out (m := on_event _)) fun _ => ?_
        unfold count_attach updateData
        refine Triple.bind (Q := fun _ => Under Always (Tried b)) (triple_updateNet fun n l h => ?_) fun _ =>
          triple_pure fun _ _ h => h
        exact (h.imp fun _ => not_able h0 hm).failed

end Trying

/-! ## Runs -/

section Rounds

variable {X : World → Prop}

instance : Still Always Ran where
  move n _ m h := ⟨h.1, fun b r older hl => by simpa using h.2 b r older hl⟩
  data _ _ _ _ h := h

theorem end_loop_spec : Triple (Under Always Ran) end_loop (fun _ => Under Always Inv) X := by
  refine Triple.bind (Preserves.out (m := tick)) fun _ => Triple.bind triple_net fun n => ?_
  refine Triple.bind (Q := fun _ => Under Always Inv) (triple_record ?_) fun _ => triple_pure fun _ _ h => h
  rintro m l - ⟨rfl, h⟩
  exact h.1.ended h.2

theorem process_event_spec :
    Triple (Under Always Inv) process_event (fun _ => Under Always fun _ l => Good l ∧ during l = []) X := by
  refine Triple.bind (Preserves.out (m := get_event)) fun t => ?_
  refine Triple.bind (Preserves.out (m := handle_event t.event)) fun h => triple_record fun n l _ hn => ?_
  exact ⟨Good.note hn rfl, by simp [during, handled]⟩

theorem execute_actions_spec (fuel : Nat) [CutTo (Under Always Inv) X] :
    Triple (Under Always fun _ l => Good l ∧ during l = []) (execute_actions fuel) (fun _ => Under Always Ran) X := by
  refine Triple.bind (triple_get_action (R := fun _ _ l => Good l ∧ during l = []) fun _ _ h => h) fun a => ?_
  refine Triple.bind triple_net fun b => ?_
  by_cases ha : a = .attach_network
  · subst ha
    refine Triple.bind attach_network_spec fun h => triple_record fun n l _ hn => ⟨hn.1.note rfl, ?_⟩
    intro b' h' older hl
    cases hl
    exact hn.2
  · have hp : Preserves (Under Always Inv) (perform fuel a) X :=
      perform_preserves fuel a (fun _ => inferInstance) (fun _ => inferInstance) (fun _ => inferInstance)
        (fun _ => inferInstance) (fun _ => inferInstance) fun _ => inferInstance
    refine Triple.bind (triple_pre (fun _ _ h => h.2.1) hp.out) fun h => triple_record fun n l _ hn => ⟨Good.note hn rfl, ?_⟩
    intro b' h' older hl
    cases hl
    exact absurd rfl ha

instance (fuel : Nat) (target : NetworkLteState) [CutTo (Under Always Inv) X] :
    Preserves (Under Always Inv) (loop fuel target) X := by
  refine ⟨Triple.bind Preserves.out fun _ => Triple.bind Preserves.out fun _ => ?_⟩
  refine Triple.bind process_event_spec fun _ => Triple.bind (Preserves.out (m := net)) fun n => ?_
  refine Triple.ite (fun _ => ?_) fun _ => Triple.bind (execute_actions_spec fuel) fun _ => end_loop_spec
  refine triple_pre (fun m l h => ⟨h.1, fun b r older hl => ?_⟩) end_loop_spec
  rw [hl, during_cons rfl] at h
  exact absurd h.2 (by simp)

instance (offers : List Offer) (n : Net) : Preserves (Under Always Inv) (record (.searched offers n)) X :=
  record_inv rfl
instance (opened : Option ModemStatus) : Preserves (Under Always Inv) (record (.resumed opened)) X := record_inv rfl
instance : Preserves (Under Always Inv) force_psm X := by unfold force_psm; infer_instance

instance (fuel : Nat) [CutTo (Under Always Inv) X] :
    Preserves (Under Always Inv) (leave_transparent_mode fuel) X := by
  have (a : ModemAction) (n : Net) (h : Heard) : Preserves (Under Always Inv) (record (.ran a n h)) X := record_inv rfl
  unfold leave_transparent_mode
  infer_instance

end Rounds

theorem run_inv (fuel : Nat) (calls : List Call) : Preserves (Under Always Inv) (run fuel calls) := by
  refine run_preserves fuel (fun c => ?_) calls
  have := exec_preserves (G := Always) (P := Inv) (X := Under Always Inv) fuel c (fun _ _ => inferInstance)
    (fun _ _ => inferInstance) (fun _ => inferInstance) (fun _ _ => inferInstance) fun _ _ => inferInstance
  infer_instance

/-- The modem answers the test of `power_on`. -/
def responds : Entry → Bool
  | .exchange (.other .at_ok) a => a.status = .ok
  | _ => false

def powersOrAttaches : Entry → Bool
  | .ran .power_on _ _ | .ran .attach_network _ _ => true
  | _ => false

/-- The last of the `power_on` and `attach_network` actions is a `power_on` that the modem answered. -/
def afterPowerOn (older : List Entry) : Bool :=
  match older.dropWhile (!powersOrAttaches ·) with
  | .ran .power_on _ _ :: rest => (during rest).any responds
  | _ => false

/-- The next `attach_network` after a successful `power_on`, with a modem that matches the configuration:
it starts to attach exactly where the budget is not spent and no change is left over. -/
theorem attach_after_power_on (config : NetworkLteConfig) (with_timer : Bool) (env : Nat → Tick) (fuel : Nat)
    (calls : List Call) :
    let w := (run fuel calls (initial config with_timer env)).2
    ∀ newer n b h older, w.log = newer ++ .loopEnd n :: .ran .attach_network b h :: older →
      afterPowerOn older = true → 1 ≤ b.lteConfig.max_attach_retries → Matching b (during older) →
      (Attaching n.state_ (during older) ↔ Able b) := by
  intro w newer n b h older hl _ _ hm
  have hg : Good w.log := (run_inv fuel calls).final (s := initial config with_timer env)
    (fun _ newer n b h older hl => by simp [initial] at hl) fun _ _ => trivial
  exact hg newer n b h older hl hm

/-- The last round of a log, if it ran `attach_network`. -/
def lastAttach : List Entry → Option (Net × Net × List Entry)
  | .loopEnd n :: .ran .attach_network b _ :: older => some (n, b, older)
  | _ => none

theorem lastAttach_eq {l older : List Entry} {n b : Net} (h : lastAttach l = some (n, b, older)) :
    ∃ r, l = [] ++ .loopEnd n :: .ran .attach_network b r :: older := by
  unfold lastAttach at h
  split at h
  · cases h
    exact ⟨_, rfl⟩
  · cases h

instance (b : Net) (es : List Entry) : Decidable (Matching b es) :=
  inferInstanceAs (Decidable (∀ e ∈ es, reports (profile b) e = true))
instance (s : NetworkLteState) (es : List Entry) : Decidable (Attaching s es) :=
  inferInstanceAs (Decidable (s = .network_attaching ∧ ∃ e ∈ es, radioOn e = true))
instance (b : Net) : Decidable (Able b) := inferInstanceAs (Decidable (_ ∧ _))

/-- No network is found, twice. The third call gives up, the machine switches the modem off, and the user
switches it on again. -/
def lost : Nat → Tick :=
  script
    [(22, "+CEREG: 0,0"), (29, "+CGDCONT: 1,\"IP\",\"connect.cxn\""), (31, "#WS46: 0,0"), (32, "#BND: 0,0,524420,0,0"),
      (45, "+CGDCONT: 1,\"IP\",\"connect.cxn\""), (47, "#WS46: 0,0"), (48, "#BND: 0,0,524420,0,0"),
      (100, "+CEREG: 0,0")]
    [(37, "%NOTIFYEV:\"PLMNSEARCHEXH\""), (53, "%NOTIFYEV:\"PLMNSEARCHEXH\"")]

def connect : List Call := [.call_action .power_on, .loop, .loop, .loop, .loop]

theorem attach_after_power_on_first :
    let w := (run 9 connect (initial {} false lost)).2
    ∃ n b older, lastAttach w.log = some (n, b, older) ∧ afterPowerOn older = true ∧
      Attaching n.state_ (during older) ∧ Able b := by
  intro w
  obtain ⟨hs, ha⟩ : (lastAttach w.log).isSome = true ∧
      (lastAttach w.log).all (fun r => afterPowerOn r.2.2 = true ∧
        1 ≤ r.2.1.lteConfig.max_attach_retries ∧ Matching r.2.1 (during r.2.2) ∧ Able r.2.1) = true := by
    decide +kernel
  obtain ⟨⟨n, b, older⟩, hl⟩ := Option.isSome_iff_exists.mp hs
  obtain ⟨h, hw⟩ := lastAttach_eq hl
  rw [hl] at ha
  obtain ⟨hp, h1, hm, hb⟩ := of_decide_eq_true ha
  exact ⟨n, b, older, hl, hp, (attach_after_power_on {} false lost 9 connect [] n b h older hw hp h1 hm).mpr hb, hb⟩

/-- After the power-on the modem still matches, and the next `attach_network` gives up at once. -/
theorem power_on_restores_nothing :
    let w := (run 9 (connect ++ [.loop, .loop, .loop, .loop] ++ connect) (initial {} false lost)).2
    ∃ n b older, lastAttach w.log = some (n, b, older) ∧ afterPowerOn older = true ∧
      1 ≤ b.lteConfig.max_attach_retries ∧ Matching b (during older) ∧
      ¬ Attaching n.state_ (during older) ∧ n.event_ = .attach_error := by
  intro w
  obtain ⟨hs, ha⟩ : (lastAttach w.log).isSome = true ∧
      (lastAttach w.log).all (fun r => afterPowerOn r.2.2 = true ∧
        1 ≤ r.2.1.lteConfig.max_attach_retries ∧ Matching r.2.1 (during r.2.2) ∧
        ¬ Attaching r.1.state_ (during r.2.2) ∧ r.1.event_ = .attach_error) = true := by
    decide +kernel
  obtain ⟨⟨n, b, older⟩, hl⟩ := Option.isSome_iff_exists.mp hs
  rw [hl] at ha
  exact ⟨n, b, older, hl, of_decide_eq_true ha⟩

end LteModem.NetworkLte.PowerOn
