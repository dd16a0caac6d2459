import LteModem.NetworkLte.Frame

/-!
# The subscriptions survive the special modes

The machine waits for URCs in `network_attaching` and `data_ready`. Transparent mode, GNSS mode and
`force_psm` switch them off. `leave_transparent_mode` and `force_psm` switch them on again, and
`leave_gnss_fix` does not.
-/

open Prog Strings

set_option synthInstance.maxSize 100000

namespace LteModem.NetworkLte.Subscriptions

/-! ## What was commanded -/

/-- The last value, unknown after a raw command of the user. -/
def commanded (s : Subscription) : List Entry → Option Bool
  | [] => none
  | .exchange (.urc t on) _ :: l => if t = s then some on else commanded s l
  | .exchange (.raw _) _ :: _ => none
  | _ :: l => commanded s l

def Enabled (l : List Entry) : Prop := ∀ s, commanded s l = some true

instance (l : List Entry) : Decidable (Enabled l) :=
  decidable_of_iff (∀ s ∈ [Subscription.psm, .cell_state, .registration, .pdp], commanded s l = some true)
    ⟨fun h s => h s (by cases s <;> simp), fun h s _ => h s⟩

/-- Where the machine waits for URCs and the boot configuration is applied, they are switched on. -/
def Met (n : Net) (l : List Entry) : Prop :=
  n.state_ = .network_attaching ∨ n.state_ = .data_ready → n.fColdBoot = false → n.fWarmBoot = false → Enabled l

instance (n : Net) (l : List Entry) : Decidable (Met n l) :=
  inferInstanceAs (Decidable (n.state_ = .network_attaching ∨ n.state_ = .data_ready →
    n.fColdBoot = false → n.fWarmBoot = false → Enabled l))

def EndsMet : List Entry → Prop
  | [] => True
  | .loopEnd n :: l => Met n l ∧ EndsMet l
  | _ :: l => EndsMet l

def answeredOk : Entry → Bool
  | .exchange _ a => a.status = .ok
  | _ => true

/-- The actions that leave the state alone, or leave transparent mode as it should be left. -/
def quietAction : ModemAction → Bool
  | .none | .factory_reset | .send_data | .read_data | .data_complete | .enter_transparent_mode
  | .leave_transparent_mode => true
  | _ => false

/-- GNSS mode is not left, and transparent mode is left by its own action only. -/
def undisturbed : Entry → Bool
  | .left n => n.prev_state_ ≠ .gnss_fix_mode
  | .called (.loop target) n => n.state_ = .transparent_mode → target ≠ .done
  | .called .network_disconnect n => n.state_ ≠ .transparent_mode
  | .called (.call_action a) n => n.state_ = .transparent_mode → quietAction a = true
  | _ => true

def Calm (e : Entry) : Prop := answeredOk e = true ∧ undisturbed e = true

instance : DecidablePred Calm := fun e => inferInstanceAs (Decidable (answeredOk e = true ∧ undisturbed e = true))

/-! ## The invariant -/

/-- The subscriptions of `T` are on, or `setup_radio` will switch them on. -/
def On (T : Subscription → Prop) (n : Net) (l : List Entry) : Prop :=
  (∀ s, T s → commanded s l = some true) ∨ n.fWarmBoot = true ∨ n.fColdBoot = true

abbrev all (_ : Subscription) : Prop := True
abbrev unknown (_ : Subscription) : Prop := False

def Loose (T : Subscription → Prop) (n : Net) (l : List Entry) : Prop :=
  n.last_status_ = .ok ∧ EndsMet l ∧ On T n l

abbrev Normal (T : Subscription → Prop) : Net → List Entry → Prop := In (· ≠ .transparent_mode) (Loose T)

def QuietEvent (n : Net) (_ : List Entry) : Prop := n.event_ = .none ∨ n.event_ = .timeout

/-- Nothing is pending that leads out of transparent mode, other than its own action. -/
def Quiet (n : Net) (l : List Entry) : Prop :=
  QuietEvent n l ∧ quietAction n.modem_action_ = true ∧ Loose unknown n l

abbrev Transparent : Net → List Entry → Prop := In (· = .transparent_mode) Quiet

abbrev Gnss : Net → List Entry → Prop := In (· = .gnss_fix_mode) (Loose unknown)

def Inv (n : Net) (l : List Entry) : Prop := Normal all n l ∨ Transparent n l ∨ Gnss n l

def Outside (n : Net) (l : List Entry) : Prop := Normal all n l ∨ Gnss n l

variable {T : Subscription → Prop}

theorem Loose.cons {n m : Net} {l : List Entry} {e : Entry} (h : Loose T n l) (hm : m.last_status_ = .ok)
    (hf : m.fWarmBoot = n.fWarmBoot ∧ m.fColdBoot = n.fColdBoot) (he : EndsMet l → EndsMet (e :: l))
    (hs : ∀ s, T s → commanded s l = some true → commanded s (e :: l) = some true) : Loose T m (e :: l) := by
  refine ⟨hm, he h.2.1, ?_⟩
  rcases h.2.2 with ho | ho
  · exact .inl fun s ht => hs s ht (ho s ht)
  · exact .inr (by rwa [hf.1, hf.2])

theorem Loose.note {n : Net} {l : List Entry} {e : Entry} (h : Loose T n l)
    (he : EndsMet l → EndsMet (e :: l)) (hs : ∀ s, commanded s (e :: l) = commanded s l) : Loose T n (e :: l) :=
  h.cons h.1 ⟨rfl, rfl⟩ he fun s _ hl => by rwa [hs s]

theorem Loose.answer {n : Net} {l : List Entry} {cmd : AtCmd} {a : Answer} (h : Loose T n l)
    (hg : Calm (.exchange cmd a))
    (hs : ∀ s, T s → commanded s l = some true → commanded s (.exchange cmd a :: l) = some true) :
    Loose T { n with last_status_ := a.status } (.exchange cmd a :: l) :=
  h.cons (of_decide_eq_true hg.1) ⟨rfl, rfl⟩ id hs

theorem Loose.weaken {n : Net} {l : List Entry} (h : Loose T n l) : Loose unknown n l :=
  ⟨h.1, h.2.1, .inl fun _ => False.elim⟩

instance : Blind (Loose T) := ⟨fun _ _ _ h => h⟩
instance : Restarting (Loose T) := ⟨fun _ _ h => h⟩
instance : Blind QuietEvent := ⟨fun _ _ _ h => h⟩
instance : Restarting QuietEvent := ⟨fun _ _ h => h⟩
instance : Blind Quiet := ⟨fun _ _ _ h => h⟩

instance : Ordinary Calm (Loose T) where
  move n l m h := by simpa [Loose, On] using h
  data _ _ _ _ h := h
  other _ _ _ _ _ hg h := h.answer hg fun _ _ hs => hs
  prompt _ _ _ _ _ _ h := h.note id fun _ => rfl
  reset _ _ h := h
  action _ _ _ _ h := h
  config _ _ _ h := h
  event _ _ _ _ h := h
  cfun _ _ _ _ _ hg h := h.answer hg fun _ _ hs => hs
  ran _ _ _ _ _ _ h := h.note id fun _ => rfl
  polled _ _ _ _ h := h.note id fun _ => rfl
  called _ _ _ _ _ h := h.note id fun _ => rfl

instance : Timeless Calm (Loose T) where
  st_timer _ _ _ h := h
  timer _ _ _ h := h
  started _ _ _ _ h := h.note id fun _ => rfl

instance : Acting Calm QuietEvent where
  move n l m h := by
    rcases n.move_event_ m with he | he
    · simpa [QuietEvent, he] using h
    · exact .inr he
  data _ _ _ _ h := h
  other _ _ _ _ _ _ h := h
  prompt _ _ _ _ _ _ h := h
  reset _ _ h := h
  action _ _ _ _ h := h

instance : Timeless Calm QuietEvent where
  st_timer _ _ _ h := h
  timer _ _ _ h := h
  started _ _ _ _ h := h

instance : Timeless Calm Quiet where
  move n l m h := ⟨Still.move Calm n l m h.1, by simpa using h.2.1, Still.move Calm n l m h.2.2⟩
  data _ _ _ _ h := h
  other n l c a hc hg h := ⟨h.1, h.2.1, Stable.other n l c a hc hg h.2.2⟩
  prompt n l c a hc hg h := ⟨h.1, h.2.1, Stable.prompt n l c a hc hg h.2.2⟩
  st_timer _ _ _ h := h
  timer _ _ _ h := h
  started n l e hg h := ⟨h.1, h.2.1, Timeless.started n l e hg h.2.2⟩

section Steps

variable {S : NetworkLteState → Prop} {X : World → Prop}

/-! ## Switching the subscriptions -/

theorem set_urc_on (t : Subscription) :
    Triple (Under Calm (In S (Loose T))) (xE310.send (.urc t true))
      (fun _ => Under Calm (In S (Loose fun s => s = t ∨ T s))) X := by
  refine triple_send fun n l a hg h => ⟨h.1, of_decide_eq_true hg.1, h.2.2.1, ?_⟩
  refine h.2.2.2.imp_left fun ho s hs => ?_
  by_cases he : t = s
  · simp [commanded, he]
  · simpa [commanded, he] using ho s (hs.resolve_left (Ne.symm he))

theorem set_urcs_on :
    Triple (Under Calm (In S (Loose T))) (set_urcs true) (fun _ => Under Calm (In S (Loose all))) X := by
  refine Triple.bind (set_urc_on .psm) fun _ => Triple.bind (set_urc_on .cell_state) fun _ => ?_
  refine Triple.bind (set_urc_on .registration) fun _ => Triple.bind (set_urc_on .pdp) fun _ => ?_
  refine triple_pure fun n l h => ⟨h.1, h.2.1, h.2.2.1, ?_⟩
  exact h.2.2.2.imp_left fun ho s _ => ho s (by cases s <;> simp)

instance (cmd : AtCmd) : Preserves (Under Calm (In S (Loose unknown))) (exchange cmd) X :=
  exchange_preserves fun _ _ _ hg h => ⟨h.1, h.2.answer hg fun _ => False.elim⟩
instance (cmd : AtCmd) : Preserves (Under Calm Transparent) (exchange cmd) X :=
  exchange_preserves fun _ _ _ hg h => ⟨h.1, h.2.1, h.2.2.1, h.2.2.2.answer hg fun _ => False.elim⟩
instance (c : Command) : Preserves (Under Calm (In S (Loose T))) (exchange (.other c)) X :=
  exchange_preserves fun _ _ _ hg h => ⟨h.1, h.2.answer hg fun _ _ hs => hs⟩
instance (c : Command) : Preserves (Under Calm QuietEvent) (exchange (.other c)) X :=
  exchange_preserves fun _ _ _ _ h => h

/-! ## Changes of state -/

theorem change_state_normal {s : NetworkLteState} (hs : s ≠ .transparent_mode) :
    Triple (Under Calm (Loose T)) (change_state s) (fun _ => Under Calm (Normal T)) X := by
  refine triple_post (R := fun _ => In (· = s) (Loose T)) (fun _ n l h => ⟨h.1 ▸ hs, h.2⟩) ?_
  exact triple_change_state_in (fun _ _ h => h) fun _ _ _ h => h.note id fun _ => rfl

instance : Changes Calm (Normal T) X :=
  ⟨fun _ hs _ => ⟨triple_pre (fun _ _ h => h.2) (change_state_normal hs)⟩⟩
instance : Preserves (Under Calm (Normal T)) (change_state .data_ready) X :=
  ⟨triple_pre (fun _ _ h => h.2) (change_state_normal (by decide))⟩

instance (s : NetworkLteState) : Preserves (Under Calm QuietEvent) (change_state s) X :=
  ⟨triple_post (fun _ _ _ h => h.2)
    (triple_change_state_in (fun _ _ h => h) fun _ _ _ h => h)⟩

theorem change_state_transparent :
    Triple (Under Calm Quiet) (change_state .transparent_mode) (fun _ => Under Calm Transparent) X := by
  have : Preserves (Under Calm Transparent) (enter_state .transparent_mode) X :=
    enter_state_preserves (by decide) (by decide)
  exact triple_change_state_in (fun _ _ h => h) fun _ _ _ h => ⟨h.1, h.2.1, h.2.2.note id fun _ => rfl⟩

def OutOfGnss (n : Net) (_ : List Entry) : Prop := n.prev_state_ = .gnss_fix_mode

instance : Blind OutOfGnss := ⟨fun _ _ _ h => h⟩

instance : Timeless Calm OutOfGnss where
  move n l m h := by simpa [OutOfGnss] using h
  data _ _ _ _ h := h
  other _ _ _ _ _ _ h := h
  prompt _ _ _ _ _ _ h := h
  st_timer _ _ _ h := h
  timer _ _ _ h := h
  started _ _ _ _ h := h

instance (s : NetworkLteState) : Preserves (Under Calm Gnss) (change_state s) X := by
  refine ⟨triple_change_state (A := fun _ => OutOfGnss) (B := OutOfGnss) (C := Never) ?_ ?_ ?_ ?_ ?_⟩
  · exact fun _ _ h _ => h
  · exact fun _ _ h _ => h.1
  · exact fun _ _ => Preserves.out
  · intro n l hg h
    have hn : n.prev_state_ ≠ .gnss_fix_mode := of_decide_eq_true hg.2
    exact absurd h hn
  · have : Preserves (Under Calm Never) (enter_state s) X := inferInstance
    exact triple_absurd fun _ _ h => h

/-! ## The actions -/

theorem set_gnss_power_spec (b : Bool) :
    Triple (Under Calm (In S (Loose T))) (xE310.set_gnss_power b)
      (fun status => Under Calm fun n l => status = .ok ∧ In S (Loose T) n l) X := by
  let R (status : ModemStatus) (n : Net) (l : List Entry) : Prop := status = .ok ∧ In S (Loose T) n l
  refine Triple.bind (triple_send (R := R) fun n l a hg h => ⟨of_decide_eq_true hg.1, ?_⟩) fun status => ?_
  · exact ⟨h.1, h.2.answer hg fun _ _ hs => hs⟩
  · by_cases hs : status = .ok
    · refine triple_pre (fun n l h => h.2) (Triple.ite (fun _ => ?_) fun _ => ?_)
      · exact triple_pure fun n l h => ⟨hs, h⟩
      · refine Triple.bind (Preserves.out (m := xE310.power_radio)) fun _ => ?_
        refine Triple.bind (Q := fun _ => Under Calm (R status)) (triple_updateNet ?_) fun _ => ?_
        · exact fun n l h => ⟨hs, h.1, hs, h.2.2⟩
        · exact Triple.pure fun _ hw => hw
    · exact triple_absurd fun n l h => hs h.1

instance (b : Bool) : Preserves (Under Calm (In S (Loose T))) (xE310.set_gnss_power b) X :=
  ⟨triple_post (fun _ _ _ h => h.2) (set_gnss_power_spec b)⟩

instance : Preserves (Under Calm (In S (Loose T))) (set_fColdBoot true) X :=
  ⟨triple_updateNet fun _ _ h => ⟨h.1, h.2.1, h.2.2.1, .inr (.inr rfl)⟩⟩
instance : Preserves (Under Calm (In S (Loose T))) (set_fWarmBoot true) X :=
  ⟨triple_updateNet fun _ _ h => ⟨h.1, h.2.1, h.2.2.1, .inr (.inl rfl)⟩⟩
instance (s : Subscription) : Preserves (Under Calm (In S (Loose all))) (exchange (.urc s true)) X := by
  refine exchange_preserves fun n l a hg h => ⟨h.1, h.2.answer hg fun t _ ht => ?_⟩
  simp only [commanded]
  split <;> simp [ht]

theorem apply_boot_configuration_spec (c : NetworkLteConfig) :
    Triple (Under Calm (In S (Loose T))) (apply_boot_configuration c)
      (fun _ => Under Calm (In S (Loose all))) X := by
  refine Triple.bind (Q := fun _ => Under Calm (In S (Loose unknown))) (triple_updateNet ?_) fun _ => ?_
  · exact fun n l h => ⟨h.1, h.2.1, h.2.2.1, .inl fun _ => False.elim⟩
  · refine Triple.bind (Q := fun _ => Under Calm (In S (Loose unknown))) (triple_updateNet ?_) fun _ => ?_
    · exact fun n l h => ⟨h.1, h.2.1, h.2.2.1, .inl fun _ => False.elim⟩
    · refine Triple.bind Preserves.out fun _ => ?_
      exact Triple.bind set_urcs_on fun _ => Preserves.out

instance (c : NetworkLteConfig) : Preserves (Under Calm (In S (Loose all))) (apply_boot_configuration c) X :=
  ⟨apply_boot_configuration_spec c⟩
instance (c : NetworkLteConfig) : Preserves (Under Calm (In S (Loose unknown))) (apply_boot_configuration c) X :=
  ⟨triple_post (fun _ _ _ h => ⟨h.1, h.2.weaken⟩) (apply_boot_configuration_spec c)⟩

theorem enter_transparent_mode_spec :
    Triple (Under Calm Quiet) enter_transparent_mode_action (fun _ => Under Calm Transparent) X := by
  refine Triple.bind change_state_transparent fun _ => ?_
  unfold set_urcs
  exact Preserves.out

theorem leave_transparent_mode_spec :
    Triple (Under Calm (Loose T)) leave_transparent_mode_action (fun _ => Under Calm (Normal all)) X := by
  have hc : Triple (Under Calm (In (fun _ => True) (Loose all))) (change_state .idle_mode)
      (fun _ => Under Calm (Normal all)) X :=
    triple_pre (fun _ _ h => h.2) (change_state_normal (by decide))
  refine triple_pre (P := In (fun _ => True) (Loose T)) ?_ (Triple.bind set_urcs_on fun _ => ?_)
  · exact fun _ _ h => ⟨trivial, h⟩
  · exact Triple.bind Preserves.out fun _ => Triple.bind hc fun _ => Preserves.out

theorem switch_on_gnss_spec (powered : Bool) :
    Triple (Under Calm (In S (Loose T))) (switch_on_gnss powered)
      (fun status => Under Calm fun n l => status = .ok ∧ In S (Loose T) n l) X :=
  Triple.ite (fun _ => triple_pure fun _ _ h => ⟨rfl, h⟩) fun _ => set_gnss_power_spec true

theorem enter_gnss_fix_spec :
    Triple (Under Calm (Loose T)) enter_gnss_fix (fun _ => Under Calm Gnss) X := by
  refine triple_pre (P := In (fun _ => True) (Loose unknown)) ?_ ?_
  · exact fun _ _ h => ⟨trivial, h.weaken⟩
  · refine Triple.bind Preserves.out fun _ => Triple.bind Preserves.out fun _ => ?_
    refine Triple.bind Preserves.out fun powered => Triple.bind (switch_on_gnss_spec powered.2) fun status => ?_
    by_cases hs : status = .ok
    · refine triple_pre (fun _ _ h => h.2.2) (Triple.ite (fun h => absurd hs h) fun _ => ?_)
      refine Triple.bind (triple_change_state_in (fun _ _ h => h) fun _ _ _ h => ?_) fun _ => Preserves.out
      exact h.note id fun _ => rfl
    · exact triple_absurd fun _ _ h => hs h.1

end Steps

/-! ## execute_actions -/

theorem Inv.met {n : Net} {l : List Entry} (h : Inv n l) : Met n l := by
  intro hs hc hw
  rcases h with h | h | h
  · rcases h.2.2.2 with ho | ho
    · exact fun s => ho s trivial
    · simp [hc, hw] at ho
  · simp [h.1] at hs
  · simp [h.1] at hs

theorem Inv.transparent {n : Net} {l : List Entry} (h : Inv n l) (hn : n.state_ = .transparent_mode) :
    Transparent n l := by
  rcases h with h | h | h
  · exact absurd hn h.1
  · exact h
  · exact absurd (h.1.symm.trans hn) (by decide)

theorem Inv.outside {n : Net} {l : List Entry} (h : Inv n l) (hn : n.state_ ≠ .transparent_mode) : Outside n l := by
  rcases h with h | h | h
  · exact .inl h
  · exact absurd h.1 hn
  · exact .inr h

theorem Inv.note {n : Net} {l : List Entry} {e : Entry} (h : Inv n l) (he : EndsMet l → EndsMet (e :: l))
    (hs : ∀ s, commanded s (e :: l) = commanded s l) : Inv n (e :: l) := by
  rcases h with h | h | h
  · exact .inl ⟨h.1, h.2.note he hs⟩
  · exact .inr (.inl ⟨h.1, h.2.1, h.2.2.1, h.2.2.2.note he hs⟩)
  · exact .inr (.inr ⟨h.1, h.2.note he hs⟩)

/-- The timeout of transparent mode was handled. -/
def Leaving (n : Net) (l : List Entry) : Prop :=
  n.state_ = .done ∧ n.modem_action_ = .leave_transparent_mode ∧ Loose unknown n l

instance : CutTo (Under Calm (Normal all)) (Under Calm Inv) := ⟨fun _ => Under.mono fun _ _ h => .inl h⟩
instance : CutTo (Under Calm Gnss) (Under Calm Inv) := ⟨fun _ => Under.mono fun _ _ h => .inr (.inr h)⟩

section Execute

variable (fuel : Nat)

theorem execute_actions_of {P : Net → List Entry → Prop} {R : ModemAction → Net → List Entry → Prop}
    (taken : ∀ n l, P n l → R n.modem_action_ { n with modem_action_ := .none } l)
    (performed : ∀ a, Triple (Under Calm (R a)) (perform fuel a) (fun _ => Under Calm Inv) (Under Calm Inv)) :
    Triple (Under Calm P) (execute_actions fuel) (fun _ => Under Calm Inv) (Under Calm Inv) := by
  refine Triple.bind (triple_get_action taken) fun a => Triple.bind triple_net fun n => ?_
  refine Triple.bind (triple_pre (fun _ _ h => h.2) (performed a)) fun h => ?_
  exact triple_record fun _ _ _ hi => hi.note id fun _ => rfl

theorem perform_normal (a : ModemAction) (ht : a ≠ .enter_transparent_mode) (hg : a ≠ .enter_gnss_fix) :
    Preserves (Under Calm (Normal all)) (perform fuel a) (Under Calm Inv) := by
  have hr : Preserves (Under Calm (Normal all)) (exchange .reboot) (Under Calm Inv) :=
    exchange_preserves fun _ _ _ hg h => ⟨h.1, h.2.answer hg fun _ _ hs => hs⟩
  have hc : Preserves (Under Calm (Normal all)) (exchange (.cfun 11)) (Under Calm Inv) :=
    exchange_preserves fun _ _ _ hg h => ⟨h.1, h.2.answer hg fun _ _ hs => hs⟩
  exact perform_preserves fuel a (fun _ => inferInstance) (fun _ => inferInstance) (fun _ => inferInstance)
    (fun _ => inferInstance) (fun h => absurd h ht) fun h => absurd h hg

theorem execute_actions_normal :
    Triple (Under Calm fun n l => Normal all n l ∧ QuietEvent n l) (execute_actions fuel) (fun _ => Under Calm Inv)
      (Under Calm Inv) := by
  refine execute_actions_of fuel (R := fun _ n l => Normal all n l ∧ Quiet n l) ?_ fun a => ?_
  · exact fun n l h => ⟨h.1, h.2, rfl, h.1.2.weaken⟩
  · by_cases ht : a = .enter_transparent_mode
    · subst ht
      exact triple_pre (fun _ _ h => h.2) (triple_post (fun _ _ _ h => .inr (.inl h)) enter_transparent_mode_spec)
    by_cases hg : a = .enter_gnss_fix
    · subst hg
      exact triple_pre (fun _ _ h => h.1.2) (triple_post (fun _ _ _ h => .inr (.inr h)) enter_gnss_fix_spec)
    have hp := perform_normal fuel a ht hg
    exact triple_pre (fun _ _ h => h.1) (triple_post (fun _ _ _ h => .inl h) hp.out)

theorem execute_actions_gnss :
    Triple (Under Calm Gnss) (execute_actions fuel) (fun _ => Under Calm Inv) (Under Calm Inv) :=
  triple_post (fun _ _ _ h => .inr (.inr h)) Preserves.out

theorem leave_transparent_mode_inv :
    Triple (Under Calm (Loose unknown)) leave_transparent_mode_action (fun _ => Under Calm Inv) (Under Calm Inv) :=
  triple_post (fun _ _ _ h => .inl h) leave_transparent_mode_spec

theorem perform_transparent (a : ModemAction) (ha : quietAction a = true) :
    Triple (Under Calm Transparent) (perform fuel a) (fun _ => Under Calm Inv) (Under Calm Inv) := by
  have hi : ∀ n l, Transparent n l → Inv n l := fun _ _ h => .inr (.inl h)
  by_cases hl : a = .leave_transparent_mode
  · subst hl
    exact triple_pre (fun _ _ h => h.2.2.2) leave_transparent_mode_inv
  · refine triple_post (fun _ => hi) ?_
    cases a <;> simp [quietAction] at ha hl <;> unfold perform
    case enter_transparent_mode => exact triple_pre (fun _ _ h => h.2) enter_transparent_mode_spec
    all_goals exact Preserves.out

theorem execute_actions_transparent :
    Triple (Under Calm Transparent) (execute_actions fuel) (fun _ => Under Calm Inv) (Under Calm Inv) := by
  refine execute_actions_of fuel (R := fun a n l => quietAction a = true ∧ Transparent n l) ?_ fun a => ?_
  · exact fun n l h => ⟨h.2.2.1, h.1, h.2.1, rfl, h.2.2.2⟩
  · by_cases ha : quietAction a = true
    · exact triple_pre (fun _ _ h => h.2) (perform_transparent fuel a ha)
    · exact triple_absurd fun _ _ h => ha h.1

theorem execute_actions_leaving :
    Triple (Under Calm Leaving) (execute_actions fuel) (fun _ => Under Calm Inv) (Under Calm Inv) := by
  refine execute_actions_of fuel (R := fun a n l => a = .leave_transparent_mode ∧ Loose unknown n l) ?_ fun a => ?_
  · exact fun n l h => h.2
  · by_cases ha : a = .leave_transparent_mode
    · subst ha
      exact triple_pre (fun _ _ h => h.2) leave_transparent_mode_inv
    · exact triple_absurd fun _ _ h => ha h.1

end Execute

/-! ## loop -/

/-- Between the event and the action of a round. -/
def Mid (n : Net) (l : List Entry) : Prop :=
  (Normal all n l ∧ QuietEvent n l) ∨ Transparent n l ∨ Leaving n l ∨ Gnss n l

theorem execute_actions_spec (fuel : Nat) :
    Triple (Under Calm Mid) (execute_actions fuel) (fun _ => Under Calm Inv) (Under Calm Inv) :=
  triple_or (execute_actions_normal fuel) <| triple_or (execute_actions_transparent fuel) <|
    triple_or (execute_actions_leaving fuel) (execute_actions_gnss fuel)

section Round

variable {X : World → Prop}

theorem triple_inv {α : Type} {m : Prog World α} {R : α → Net → List Entry → Prop}
    (normal : Triple (Under Calm (Normal all)) m (fun a => Under Calm (R a)) X)
    (transparent : Triple (Under Calm Transparent) m (fun a => Under Calm (R a)) X)
    (gnss : Triple (Under Calm Gnss) m (fun a => Under Calm (R a)) X) :
    Triple (Under Calm Inv) m (fun a => Under Calm (R a)) X :=
  triple_or normal (triple_or transparent gnss)

theorem preserves_inv {α : Type} {m : Prog World α} [normal : Preserves (Under Calm (Normal all)) m X]
    [transparent : Preserves (Under Calm Transparent) m X] [gnss : Preserves (Under Calm Gnss) m X] :
    Preserves (Under Calm Inv) m X :=
  ⟨triple_inv (triple_post (fun _ _ _ h => .inl h) normal.out)
    (triple_post (fun _ _ _ h => .inr (.inl h)) transparent.out)
    (triple_post (fun _ _ _ h => .inr (.inr h)) gnss.out)⟩

instance : Preserves (Under Calm Transparent) poll_urc X := by
  refine ⟨Triple.bind triple_net fun n => Triple.ite (fun hn => ?_) fun _ => ?_⟩
  · exact triple_absurd fun m l h => hn (h.1 ▸ h.2.1)
  · exact triple_pure fun _ _ h => h.2

instance : Preserves (Under Calm Transparent) check_last_status X := by
  have : Preserves (Under Calm Never) (on_event .at_command_no_response) X := on_event_preserves (by decide)
  refine ⟨Triple.bind triple_net fun n => Triple.ite (fun hn => ?_) fun _ => ?_⟩
  · exact triple_absurd fun m l h => by simp [← h.1, h.2.2.2.2.1] at hn
  · exact triple_pure fun _ _ h => h.2

instance : Preserves (Under Calm Inv) poll_urc X := preserves_inv
instance : Preserves (Under Calm Inv) check_last_status X := preserves_inv

theorem process_event_normal :
    Triple (Under Calm (Normal all)) process_event
      (fun _ => Under Calm fun n l => Normal all n l ∧ QuietEvent n l) X := by
  let Q (n : Net) (l : List Entry) : Prop := Normal all n l ∧ QuietEvent n l
  refine Triple.bind (Q := fun _ => Under Calm Q) ?_ fun t => ?_
  · refine Triple.bind (Preserves.out (m := tick)) fun _ => Triple.bind (Preserves.out (m := net)) fun _ => ?_
    refine Triple.bind (Preserves.out (m := tick)) fun _ => Triple.bind (Preserves.out (m := net)) fun _ => ?_
    refine Triple.bind (Q := fun _ => Under Calm Q) (triple_updateNet fun n l h => ⟨h, .inl rfl⟩) fun _ => ?_
    exact Triple.bind triple_net fun _ => triple_pure fun _ _ h => h.2
  · refine Triple.bind (triple_and (Preserves.out (m := handle_event _)) Preserves.out) fun h => ?_
    exact triple_record fun _ _ _ h => ⟨⟨h.1.1, h.1.2.note id fun _ => rfl⟩, h.2⟩

theorem get_event_transparent :
    Triple (Under Calm Transparent) get_event
      (fun t => Under Calm fun n l => (t.event = .none ∨ t.event = .timeout) ∧ Transparent n l) X := by
  refine triple_get_event (E := fun e => e = .none ∨ e = .timeout) ?_ ?_
  · exact fun n l h => h.2.1
  · exact fun n l h => ⟨h.1, .inl rfl, h.2.2⟩

theorem on_timeout_transparent :
    Triple (Under Calm Transparent) on_timeout (fun _ => Under Calm Leaving) X := by
  let Called (n : Net) (l : List Entry) : Prop := n.modem_action_ = .leave_transparent_mode ∧ Loose unknown n l
  have : Blind Called := ⟨fun _ _ _ h => h⟩
  have : Timeless Calm Called :=
    { move := fun n l m h => ⟨by simpa using h.1, Still.move Calm n l m h.2⟩
      data := fun _ _ _ _ h => h
      other := fun n l c a hc hg h => ⟨h.1, Stable.other n l c a hc hg h.2⟩
      prompt := fun n l c a hc hg h => ⟨h.1, Stable.prompt n l c a hc hg h.2⟩
      st_timer := fun _ _ _ h => h
      timer := fun _ _ _ h => h
      started := fun n l e hg h => ⟨h.1, Timeless.started n l e hg h.2⟩ }
  have : Preserves (Under Calm (In (· = .done) Called)) (enter_state .done) X :=
    enter_state_preserves (by decide) (by decide)
  refine Triple.bind triple_net fun n => ?_
  by_cases hn : n.state_ = .transparent_mode
  · rw [if_neg (by simp [hn]), hn]
    refine Triple.bind (Q := fun _ => Under Calm Called) (triple_updateNet ?_) fun _ => ?_
    · exact fun m l h => ⟨rfl, h.2.2.2.2⟩
    · exact triple_change_state_in (fun _ _ h => h) fun _ _ _ h => ⟨h.1, h.2.note id fun _ => rfl⟩
  · exact triple_absurd fun m l h => hn (h.1 ▸ h.2.1)

theorem process_event_transparent :
    Triple (Under Calm Transparent) process_event
      (fun _ => Under Calm fun n l => Transparent n l ∨ Leaving n l) X := by
  refine Triple.bind get_event_transparent fun t => ?_
  let Q (n : Net) (l : List Entry) : Prop := Transparent n l ∨ Leaving n l
  refine Triple.bind (Q := fun _ => Under Calm Q) ?_ fun h => triple_record fun n l _ hq => ?_
  · by_cases he : t.event = .none ∨ t.event = .timeout
    · refine triple_pre (fun _ _ h => h.2) ?_
      rcases he with he | he <;> rw [he]
      · exact triple_pure fun _ _ h => .inl h
      · refine Triple.bind on_timeout_transparent fun _ => ?_
        exact triple_pure fun _ _ h => .inr h
    · exact triple_absurd fun _ _ h => he h.1
  · rcases hq with hq | hq
    · exact .inl ⟨hq.1, hq.2.1, hq.2.2.1, hq.2.2.2.note id fun _ => rfl⟩
    · exact .inr ⟨hq.1, hq.2.1, hq.2.2.note id fun _ => rfl⟩

theorem process_event_gnss : Triple (Under Calm Gnss) process_event (fun _ => Under Calm Gnss) X := by
  have (t : Taken) (h : Heard) : Preserves (Under Calm Gnss) (record (.handled t h)) X :=
    ⟨triple_record fun _ _ _ h => ⟨h.1, h.2.note id fun _ => rfl⟩⟩
  exact Preserves.out

theorem process_event_spec : Triple (Under Calm Inv) process_event (fun _ => Under Calm Mid) X := by
  refine triple_inv ?_ ?_ ?_
  · exact triple_post (fun _ _ _ h => .inl h) process_event_normal
  · refine triple_post (fun _ _ _ h => ?_) process_event_transparent
    exact .inr (h.imp_right .inl)
  · exact triple_post (fun _ _ _ h => .inr (.inr (.inr h))) process_event_gnss

def MidOutside (n : Net) (l : List Entry) : Prop := (Normal all n l ∧ QuietEvent n l) ∨ Gnss n l

theorem process_event_outside : Triple (Under Calm Outside) process_event (fun _ => Under Calm MidOutside) X :=
  triple_or (triple_post (fun _ _ _ h => .inl h) process_event_normal)
    (triple_post (fun _ _ _ h => .inr h) process_event_gnss)

instance : Blind Inv := ⟨fun _ _ _ h => h⟩

instance : Stable Calm Inv where
  move n l m h := h.imp (Still.move Calm n l m) (.imp (Still.move Calm n l m) (Still.move Calm n l m))
  data _ _ _ _ h := h
  other n l c a hc hg h :=
    h.imp (Stable.other n l c a hc hg) (.imp (Stable.other n l c a hc hg) (Stable.other n l c a hc hg))
  prompt n l c a hc hg h :=
    h.imp (Stable.prompt n l c a hc hg) (.imp (Stable.prompt n l c a hc hg) (Stable.prompt n l c a hc hg))

instance : Preserves (Under Calm Inv) end_loop X := by
  refine ⟨Triple.bind (Preserves.out (m := tick)) fun _ => Triple.bind triple_net fun n => ?_⟩
  refine Triple.bind (Q := fun _ => Under Calm Inv) (triple_record ?_) fun _ => Preserves.out
  rintro m l _ ⟨rfl, h⟩
  exact h.note (fun hl => ⟨h.met, hl⟩) fun _ => rfl

end Round

theorem after_event_spec (fuel : Nat) {target : NetworkLteState} {M : Net → List Entry → Prop}
    (mid : ∀ n l, M n l → Mid n l) (reached : ∀ n l, M n l → n.state_ = target → Inv n l) :
    Triple (Under Calm M)
      (do
        let n ← net
        if n.state_ = target ∧ target ≠ .none then end_loop
        else do
          execute_actions fuel
          end_loop)
      (fun _ => Under Calm Inv) (Under Calm Inv) := by
  refine Triple.bind triple_net fun n => Triple.ite (fun hn => ?_) fun _ => ?_
  · refine triple_pre ?_ Preserves.out
    rintro m l ⟨rfl, h⟩
    exact reached m l h hn.1
  · refine triple_pre (fun m l h => mid m l h.2) ?_
    exact Triple.bind (execute_actions_spec fuel) fun _ => Preserves.out

theorem loop_inv (fuel : Nat) {target : NetworkLteState} (ht : target ≠ .done) :
    Preserves (Under Calm Inv) (loop fuel target) := by
  refine ⟨Triple.bind (Preserves.out (m := poll_urc)) fun _ => ?_⟩
  refine Triple.bind (Preserves.out (m := check_last_status)) fun _ => Triple.bind process_event_spec fun _ => ?_
  refine after_event_spec fuel (fun _ _ h => h) fun n l h hn => ?_
  rcases h with h | h | h | h
  · exact .inl h.1
  · exact .inr (.inl h)
  · exact absurd (hn.symm.trans h.1) ht
  · exact .inr (.inr h)

theorem loop_outside (fuel : Nat) (target : NetworkLteState) :
    Triple (Under Calm Outside) (loop fuel target) (fun _ => Under Calm Inv) (Under Calm Inv) := by
  have ho {α : Type} {m : Prog World α} [normal : Preserves (Under Calm (Normal all)) m (Under Calm Inv)]
      [gnss : Preserves (Under Calm Gnss) m (Under Calm Inv)] :
      Triple (Under Calm Outside) m (fun _ => Under Calm Outside) (Under Calm Inv) :=
    triple_or (triple_post (fun _ _ _ h => .inl h) normal.out)
      (triple_post (fun _ _ _ h => .inr h) gnss.out)
  refine Triple.bind (ho (m := poll_urc)) fun _ => Triple.bind (ho (m := check_last_status)) fun _ => ?_
  refine Triple.bind process_event_outside fun _ => after_event_spec fuel ?_ ?_
  · exact fun n l h => h.imp_right fun hg => .inr (.inr hg)
  · exact fun n l h _ => h.elim (fun h => .inl h.1) fun h => .inr (.inr h)

/-! ## The calls -/

section Calls

variable {X : World → Prop}

theorem call_action_inv {n : Net} {l : List Entry} {a : ModemAction}
    (ha : n.state_ = .transparent_mode → quietAction a = true) (h : Inv n l) : Inv (n.call_action a) l := by
  rcases h with h | h | h
  · exact .inl h
  · exact .inr (.inl ⟨h.1, h.2.1, ha h.1, h.2.2.2⟩)
  · exact .inr (.inr h)

theorem towards_quiet {target : NetworkLteState} {a : ModemAction}
    (h : towards target .transparent_mode = some a) : quietAction a = true := by
  simp only [towards] at h
  split at h <;> cases h
  rfl

theorem call_towards_spec (n : Net) (target : NetworkLteState) :
    Triple (Under Calm fun m l => m = n ∧ Inv m l) (call_towards target n.state_) (fun _ => Under Calm Inv) X := by
  unfold call_towards
  rcases ht : towards target n.state_ with _ | a
  · exact triple_pure fun _ _ h => h.2
  · refine triple_updateNet ?_
    rintro m l ⟨rfl, h⟩
    exact call_action_inv (fun hm => towards_quiet (hm ▸ ht)) h

theorem go_to_state_inv {target : NetworkLteState} (ht : target ≠ .done) (fuel : Nat) :
    Preserves (Under Calm Inv) (go_to_state target fuel) := by
  induction fuel with
  | zero => unfold go_to_state; infer_instance
  | succ fuel ih =>
    have := loop_inv fuel ht
    refine ⟨Triple.bind triple_net fun n => Triple.ite (fun _ => ?_) fun _ => Triple.ite (fun _ => ?_) fun _ => ?_⟩
    · exact triple_pure fun _ _ h => h.2
    · exact triple_pure fun _ _ h => h.2
    · exact Triple.bind (call_towards_spec n target) fun _ => Preserves.out

instance : Rounds Calm Inv (Under Calm Inv) :=
  ⟨fun fuel => loop_inv fuel (by decide), fun _ fuel hs => go_to_state_inv hs fuel⟩

instance (fuel : Nat) : Preserves (Under Calm Inv) (leave_transparent_mode fuel) := by
  refine ⟨Triple.bind triple_net fun n => Triple.ite (fun _ => ?_) fun hn => ?_⟩
  · exact triple_pure fun _ _ h => h.2
  · have hn : n.state_ = .transparent_mode := by simpa using hn
    refine Triple.bind (Q := fun _ => Under Calm Transparent) (triple_updateNet ?_) fun _ => ?_
    · rintro m l ⟨rfl, h⟩
      have ht := h.transparent hn
      exact ⟨hn, ht.2.1, rfl, ht.2.2.2⟩
    · exact Triple.bind (execute_actions_transparent fuel) fun _ => Preserves.out

instance (command : Str) : Preserves (Under Calm Inv) (send_at_command command) X := by
  refine ⟨Triple.bind triple_net fun n => Triple.ite (fun _ => ?_) fun hn => ?_⟩
  · exact triple_pure fun _ _ h => h.2
  · have hn : n.state_ = .transparent_mode := by simpa using hn
    refine Triple.bind (Q := fun _ => Under Calm Inv) (triple_pre (P := Transparent) ?_ ?_) fun _ => ?_
    · rintro m l ⟨rfl, h⟩
      exact h.transparent hn
    · exact triple_post (fun _ _ _ h => .inr (.inl h)) Preserves.out
    · exact Preserves.out

instance : Preserves (Under Calm Inv) force_psm X := by
  refine ⟨Triple.bind triple_net fun n => Triple.ite (fun _ => ?_) fun hn => ?_⟩
  · exact triple_pure fun _ _ h => h.2
  · have hn : n.state_ = .data_ready := by simpa using hn
    have (offers : List Offer) (n : Net) :
        Preserves (Under Calm (Normal unknown)) (record (.searched offers n)) X :=
      ⟨triple_record fun _ _ _ h => ⟨h.1, h.2.note id fun _ => rfl⟩⟩
    have (b : Bool) :
        Preserves (Under Calm (Normal unknown)) (change_state (if b then .data_ready else .idle_mode)) X := by
      split <;> infer_instance
    refine triple_pre (P := Normal unknown) ?_ ?_
    · rintro m l ⟨rfl, h | h | h⟩
      · exact ⟨h.1, h.2.weaken⟩
      · exact absurd (h.1.symm.trans hn) (by decide)
      · exact absurd (h.1.symm.trans hn) (by decide)
    · refine Triple.bind (Preserves.out (m := stop_state_timer)) fun _ => ?_
      refine Triple.bind (Preserves.out (m := set_urcs false)) fun _ => Triple.bind Preserves.out fun _ => ?_
      refine Triple.bind Preserves.out fun operators => Triple.bind Preserves.out fun offers => ?_
      refine Triple.bind Preserves.out fun m => Triple.bind Preserves.out fun _ => ?_
      refine Triple.bind Preserves.out fun _ => Triple.bind Preserves.out fun n => ?_
      refine Triple.bind (Preserves.out (m := resume_state_timer _)) fun _ => Triple.bind set_urcs_on fun _ => ?_
      exact triple_post (fun _ _ _ h => .inl h) Preserves.out

instance : Timeless Calm Inv where
  st_timer _ _ _ h := h
  timer _ _ _ h := h
  started _ _ _ _ h := h.note id fun _ => rfl

theorem exchange_inv {cmd : AtCmd} (hs : ∀ s a l, commanded s (.exchange cmd a :: l) = commanded s l) :
    Preserves (Under Calm Inv) (exchange cmd) X := by
  refine exchange_preserves fun n l a hg h => ?_
  have ha {T : Subscription → Prop} (h : Loose T n l) :
      Loose T { n with last_status_ := a.status } (.exchange cmd a :: l) :=
    h.answer hg fun s _ hl => by rwa [hs s a l]
  rcases h with h | h | h
  · exact .inl ⟨h.1, ha h.2⟩
  · exact .inr (.inl ⟨h.1, h.2.1, h.2.2.1, ha h.2.2.2⟩)
  · exact .inr (.inr ⟨h.1, ha h.2⟩)

instance (i : Nat) : Preserves (Under Calm Inv) (exchange (.udp_status i)) X := exchange_inv fun _ _ _ => rfl
instance (i : Nat) (host : Str) (r p : Nat) : Preserves (Under Calm Inv) (exchange (.udp_open i host r p)) X :=
  exchange_inv fun _ _ _ => rfl
instance (i : Nat) : Preserves (Under Calm Inv) (exchange (.udp_close i)) X := exchange_inv fun _ _ _ => rfl

instance (k : Conn) (f : ServerInfo → ServerInfo) : Preserves (Under Calm Inv) (update_server k f) X :=
  ⟨triple_updateNet fun _ _ h => h⟩
instance (c : NetworkLteConfig) : Preserves (Under Calm Inv) (set_lteConfig c) X :=
  ⟨triple_updateNet fun _ _ h => h⟩
instance : Preserves (Under Calm Inv) (set_fColdBoot true) X := by
  refine ⟨triple_updateNet fun n l h => ?_⟩
  rcases h with h | h | h
  · exact .inl ⟨h.1, h.2.1, h.2.2.1, .inr (.inr rfl)⟩
  · exact .inr (.inl ⟨h.1, h.2.1, h.2.2.1, h.2.2.2.1, h.2.2.2.2.1, .inr (.inr rfl)⟩)
  · exact .inr (.inr ⟨h.1, h.2.1, h.2.2.1, .inr (.inr rfl)⟩)
instance (opened : Option ModemStatus) : Preserves (Under Calm Inv) (record (.resumed opened)) X :=
  ⟨triple_record fun _ _ _ h => h.note id fun _ => rfl⟩
instance (c : Call) (n : Net) : Preserves (Under Calm Inv) (record (.called c n)) X :=
  ⟨triple_record fun _ _ _ h => h.note id fun _ => rfl⟩

/-! ## Runs -/

theorem network_disconnect_spec (fuel : Nat) :
    Preserves (Under Calm Inv)
      (do let n ← net; record (.called .network_disconnect n); Call.network_disconnect.exec fuel) X := by
  refine ⟨triple_called (Q := Outside) (fun n l hg h => ?_) ?_⟩
  · exact (h.note id fun _ => rfl).outside (of_decide_eq_true hg.2)
  · refine Triple.bind (Q := fun _ => Under Calm Inv) (triple_or ?_ ?_) fun _ => Preserves.out
    · exact triple_post (fun _ _ _ h => .inl h) Preserves.out
    · exact triple_post (fun _ _ _ h => .inr (.inr h)) Preserves.out

theorem loop_spec (fuel : Nat) (target : NetworkLteState) :
    Preserves (Under Calm Inv)
      (do let n ← net; record (.called (.loop target) n); (Call.loop target).exec fuel) (Under Calm Inv) := by
  let Allowed (n : Net) (l : List Entry) : Prop := (n.state_ = .transparent_mode → target ≠ .done) ∧ Inv n l
  refine ⟨triple_called (Q := Allowed) (fun n l hg h => ⟨of_decide_eq_true hg.2, h.note id fun _ => rfl⟩) ?_⟩
  refine Triple.bind (Q := fun _ => Under Calm Inv) ?_ fun _ => Preserves.out
  by_cases ht : target = .done
  · refine triple_pre (fun m l h => ?_) (loop_outside fuel target)
    exact h.2.outside fun hm => h.1 hm ht
  · exact triple_pre (fun _ _ h => h.2) (loop_inv fuel ht).out

theorem call_action_spec (fuel : Nat) (a : ModemAction) :
    Preserves (Under Calm Inv)
      (do let n ← net; record (.called (.call_action a) n); (Call.call_action a).exec fuel) X := by
  let Allowed (n : Net) (l : List Entry) : Prop :=
    (n.state_ = .transparent_mode → quietAction a = true) ∧ Inv n l
  refine ⟨triple_called (Q := Allowed) (fun n l hg h => ⟨of_decide_eq_true hg.2, h.note id fun _ => rfl⟩) ?_⟩
  exact triple_updateNet fun n l h => call_action_inv h.1 h.2

end Calls

theorem run_inv (fuel : Nat) (calls : List Call) : Preserves (Under Calm Inv) (run fuel calls) := by
  refine run_preserves fuel (fun c => ?_) calls
  by_cases hd : c = .network_disconnect
  · subst hd
    exact network_disconnect_spec fuel
  by_cases ha : ∃ a, c = .call_action a
  · obtain ⟨a, rfl⟩ := ha
    exact call_action_spec fuel a
  by_cases hl : ∃ target, c = .loop target
  · obtain ⟨target, rfl⟩ := hl
    exact loop_spec fuel target
  have := exec_preserves (G := Calm) (P := Inv) (X := Under Calm Inv) fuel c (fun t h => absurd ⟨t, h⟩ hl)
    (fun _ _ => inferInstance) (fun h => absurd h hd) (fun _ _ => inferInstance) fun a h => absurd ⟨a, h⟩ ha
  infer_instance

theorem run_subscribed (config : NetworkLteConfig) (with_timer : Bool) (env : Nat → Tick) (fuel : Nat)
    (calls : List Call) :
    let w := (run fuel calls (initial config with_timer env)).2
    (∀ e ∈ w.log, answeredOk e = true) → (∀ e ∈ w.log, undisturbed e = true) →
      Met w.net w.log ∧ EndsMet w.log := by
  intro w hok hu
  have hw : Inv w.net w.log := by
    refine (run_inv fuel calls).final (fun _ => .inl ⟨?_, rfl, trivial, .inr (.inl rfl)⟩) ?_
    · simp [initial]
    · exact fun e he => ⟨hok e he, hu e he⟩
  refine ⟨hw.met, ?_⟩
  rcases hw with h | h | h
  · exact h.2.2.1
  · exact h.2.2.2.2.1
  · exact h.2.2.1

/-- A network that takes the modem in at once, and a state timer that expires at tick `k`. -/
def takenIn (k : Option Nat) : Nat → Tick := fun i =>
  { body := .ofView _ "+CEREG: 0,1,1,1".toList, moves := if k = some i then [.expire_state_timer, .callback 0] else [] }

theorem run_subscribed_visits :
    let calls : List Call := [.network_connect, .force_psm, .enter_transparent_mode,
      .send_at_command "AT+CEREG=0".toList, .exit_transparent_mode, .network_connect]
    let w := (run 9 calls (initial {} false (takenIn none))).2
    (w.net.state_ = .data_ready ∧ w.net.fColdBoot = false ∧ w.net.fWarmBoot = false) ∧
      Met w.net w.log ∧ EndsMet w.log :=
  ⟨by decide +kernel, run_subscribed _ _ _ _ _ (by decide +kernel) (by decide +kernel)⟩

/-- GNSS mode times out, and the machine is back in `data_ready` with all subscriptions off. -/
theorem unsubscribed_after_gnss :
    let w := (run 9 [.network_connect, .acquire_gnss_position, .network_connect]
      (initial {} false (takenIn (some 63)))).2
    (∀ e ∈ w.log, answeredOk e = true) ∧ w.net.state_ = .data_ready ∧
      w.net.fColdBoot = false ∧ w.net.fWarmBoot = false ∧ ¬ Met w.net w.log := by
  decide +kernel

end LteModem.NetworkLte.Subscriptions
