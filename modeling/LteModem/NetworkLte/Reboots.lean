import LteModem.NetworkLte.AttachBudget

/-!
# Restarts of the modem

`attach_network` compares the technology and the bands of the modem with the configuration. A difference
takes it through `setup_radio` and `reboot` and back to `attach_network`, which then compares again. The
way round leaves the retry count as it is, so only the modem decides how often it is gone.
-/

open Prog Strings

set_option synthInstance.maxSize 100000

namespace LteModem.NetworkLte.Reboots

/-- An `attach_network` that raised the retry count. -/
def counts : Entry → Bool
  | .ran .attach_network _ h => h ≠ .attach true
  | _ => false

/-- An `attach_network` that found a difference. -/
def differs : Entry → Bool
  | .ran .attach_network _ h => h = .attach true
  | _ => false

def restarts : Entry → Bool
  | .exchange .reboot _ => true
  | _ => false

/-- The restarts since the last raise of the retry count. -/
def reboots : List Entry → Nat
  | [] => 0
  | e :: l => if counts e then 0 else reboots l + (restarts e).toNat

/-- There was never more than one. -/
def Once : List Entry → Prop
  | [] => True
  | e :: l => reboots (e :: l) ≤ 1 ∧ Once l

/-- A restart settles the difference: none is found again before the count is raised. -/
def Applied : List Entry → Prop
  | [] => True
  | e :: l => (differs e = true → reboots l = 0) ∧ Applied l

instance : DecidablePred Applied := fun l => by
  induction l with
  | nil => exact isTrue trivial
  | cons e l ih => unfold Applied; infer_instance

/-- No caller asks for a restart. -/
def unasked : Entry → Bool
  | .called (.call_action a) _ => sparing a
  | _ => true

def Unasked (e : Entry) : Prop := unasked e = true

instance : DecidablePred Unasked := fun e => inferInstanceAs (Decidable (unasked e = true))

theorem Once.append {l : List Entry} (newer : List Entry) (h : Once (newer ++ l)) : Once l := by
  induction newer with
  | nil => exact h
  | cons e newer ih => exact ih h.2

theorem Once.reboots_le {l : List Entry} (h : Once l) : reboots l ≤ 1 := by
  cases l with
  | nil => exact Nat.zero_le 1
  | cons e l => exact h.1

/-- The entries that neither restart the modem nor compare its configuration. -/
def neutral : Entry → Bool
  | .ran .attach_network _ _ | .exchange .reboot _ => false
  | _ => true

theorem neutral_cons {e : Entry} (he : neutral e = true) (l : List Entry) :
    reboots (e :: l) = reboots l ∧ (Applied (e :: l) ↔ Applied l) := by
  unfold neutral at he
  split at he
  · cases he
  · cases he
  · rename_i ha hr
    have hc : counts e = false := by
      unfold counts
      split
      · exact absurd rfl (ha _ _)
      · rfl
    have hd : differs e = false := by
      unfold differs
      split
      · exact absurd rfl (ha _ _)
      · rfl
    have hs : restarts e = false := by
      unfold restarts
      split
      · exact absurd rfl (hr _)
      · rfl
    simp [reboots, Applied, hc, hd, hs]

theorem Once.note {l : List Entry} {e : Entry} (h : Once l) (he : neutral e = true) : Once (e :: l) :=
  ⟨(neutral_cons he l).1 ▸ h.reboots_le, h⟩

/-! ## The invariant -/

def flagged (n : Net) : Bool := n.data.fChangeBands || n.data.fChangeRAT

/-- Where a restart is coming, there was none since the last raise. -/
structure Good (flagged : Bool) (action : ModemAction) (l : List Entry) : Prop where
  once : Once l
  flags : flagged = true → reboots l = 0
  action : action = .reboot → flagged = false ∧ reboots l = 0

def Inv (n : Net) (l : List Entry) : Prop := Applied l → Good (flagged n) n.modem_action_ l

/-- While `attach_network` compares. -/
def Comparing (n : Net) (l : List Entry) : Prop := n.modem_action_ ≠ .reboot ∧ (Applied l → Once l)

/-- While `setup_radio` writes the configuration: the flags, and no restart yet. -/
def Writing (bands rat : Bool) (n : Net) (l : List Entry) : Prop :=
  n.data.fChangeBands = bands ∧ n.data.fChangeRAT = rat ∧ (Applied l → Once l ∧ reboots l = 0)

theorem Inv.same {n m : Net} {l : List Entry} (h : Inv n l) (hd : Same n.data m.data)
    (ha : m.modem_action_ = n.modem_action_) : Inv m l := by
  unfold Inv flagged
  rw [hd.fChangeBands, hd.fChangeRAT, ha]
  exact h

theorem ne_reboot {a : ModemAction} (ha : sparing a = true) : a ≠ .reboot := by
  rintro rfl
  cases ha

theorem Inv.sparing {n : Net} {l : List Entry} {a : ModemAction} (h : Inv n l) (ha : sparing a = true) :
    Inv { n with modem_action_ := a } l := by
  exact fun hl => ⟨(h hl).once, (h hl).flags, fun hr => absurd hr (ne_reboot ha)⟩

theorem Inv.note {n : Net} {l : List Entry} {e : Entry} (h : Inv n l) (he : neutral e = true) : Inv n (e :: l) := by
  have hc := neutral_cons he l
  intro hl
  have h := h (hc.2.mp hl)
  exact ⟨h.once.note he, by rw [hc.1]; exact h.flags, by rw [hc.1]; exact h.action⟩

theorem Comparing.note {n : Net} {l : List Entry} {e : Entry} (h : Comparing n l) (he : neutral e = true) :
    Comparing n (e :: l) :=
  ⟨h.1, fun hl => (h.2 ((neutral_cons he l).2.mp hl)).note he⟩

theorem Writing.note {b r : Bool} {n : Net} {l : List Entry} {e : Entry} (h : Writing b r n l)
    (he : neutral e = true) : Writing b r n (e :: l) := by
  refine ⟨h.1, h.2.1, fun hl => ?_⟩
  have h := h.2.2 ((neutral_cons he l).2.mp hl)
  exact ⟨h.1.note he, (neutral_cons he l).1.trans h.2⟩

theorem Comparing.inv {b n : Net} {l : List Entry} {h : Heard} (hn : Comparing n l) :
    Inv n (.ran .attach_network b h :: l) := by
  intro hl
  have hz : reboots (.ran .attach_network b h :: l) = 0 := by
    by_cases hh : h = .attach true
    · have := hl.1 (by simp [differs, hh])
      simp [reboots, counts, hh, restarts, this]
    · simp [reboots, counts, hh]
  exact ⟨⟨by omega, hn.2 hl.2⟩, fun _ => hz, fun ha => absurd ha hn.1⟩

section Steps

variable {G : Entry → Prop} {X : World → Prop} {b r : Bool}

instance : Uncounted Inv := ⟨fun _ _ _ h => h⟩
instance : Unqueued Inv := ⟨fun _ _ _ h => h⟩
instance : Addressless Inv := ⟨fun _ _ _ h => h, fun _ _ h => h⟩
instance : Fixless Inv := ⟨fun _ _ _ h => h⟩
instance : Untimed Inv := ⟨fun _ _ _ _ h => h⟩

instance : Routine G Inv where
  move n _ m h := h.same (move_same n m) (n.move_modem_action_ m)
  data _ _ _ hd h := h.same hd rfl
  other _ _ _ _ _ _ h := h.note rfl
  prompt _ _ _ _ _ _ h := h.note rfl
  config _ _ _ h := h
  reset _ _ h := h
  action _ _ _ ha h := h.sparing ha
  event _ _ _ _ h := h
  cfun _ _ _ _ _ _ h := h.note rfl
  polled _ _ _ _ h := h.note rfl
  called _ _ _ _ _ h := h.note rfl
  loopEnd _ _ _ _ h := h.note rfl
  cold _ _ _ h := h
  warm _ _ _ h := h
  last_status _ _ _ h := h
  urc _ _ _ _ _ _ h := h.note rfl

instance : Timeless G Inv where
  st_timer _ _ _ h := h
  timer _ _ _ h := h
  started _ _ _ _ h := h.note rfl

instance : Blind Comparing := ⟨fun _ _ _ h => h⟩

instance : Eventful G Comparing where
  move n _ m h := ⟨by simpa using h.1, h.2⟩
  data _ _ _ _ h := h
  other _ _ _ _ _ _ h := h.note rfl
  prompt _ _ _ _ _ _ h := h.note rfl
  config _ _ _ h := h
  reset _ _ h := h
  action _ _ _ ha h := ⟨ne_reboot ha, h.2⟩
  event _ _ _ _ h := h
  cfun _ _ _ _ _ _ h := h.note rfl
  polled _ _ _ _ h := h.note rfl
  called _ _ _ _ _ h := h.note rfl

instance : Timeless G Comparing where
  st_timer _ _ _ h := h
  timer _ _ _ h := h
  started _ _ _ _ h := h.note rfl

instance : Stable G (Writing b r) where
  move n _ m h := ⟨(move_same n m).fChangeBands.trans h.1, (move_same n m).fChangeRAT.trans h.2.1, h.2.2⟩
  data _ _ _ hd h := ⟨hd.fChangeBands.trans h.1, hd.fChangeRAT.trans h.2.1, h.2.2⟩
  other _ _ _ _ _ _ h := h.note rfl
  prompt _ _ _ _ _ _ h := h.note rfl

theorem exchange_neutral {cmd : AtCmd} (h : ∀ a, neutral (.exchange cmd a) = true) :
    Preserves (Under G Inv) (exchange cmd) X :=
  exchange_preserves fun _ _ a _ hn => hn.note (h a)

instance : Preserves (Under G Inv) (exchange (.cfun 11)) X := exchange_neutral fun _ => rfl
instance (conn_id : Nat) : Preserves (Under G Inv) (exchange (.udp_status conn_id)) X := exchange_neutral fun _ => rfl
instance (conn_id : Nat) (host : Str) (remote local_ : Nat) :
    Preserves (Under G Inv) (exchange (.udp_open conn_id host remote local_)) X :=
  exchange_neutral fun _ => rfl
instance (conn_id : Nat) : Preserves (Under G Inv) (exchange (.udp_close conn_id)) X := exchange_neutral fun _ => rfl
instance (command : Str) : Preserves (Under G Inv) (exchange (.raw command)) X := exchange_neutral fun _ => rfl
instance (c : Command) : Preserves (Under G Inv) (exchange (.other c)) X :=
  exchange_neutral fun _ => rfl

instance (t : Taken) (h : Heard) : Preserves (Under G Inv) (record (.handled t h)) X :=
  ⟨triple_record fun _ _ _ h => h.note rfl⟩
instance (offers : List Offer) (n : Net) : Preserves (Under G Inv) (record (.searched offers n)) X :=
  ⟨triple_record fun _ _ _ h => h.note rfl⟩
instance (opened : Option ModemStatus) : Preserves (Under G Inv) (record (.resumed opened)) X :=
  ⟨triple_record fun _ _ _ h => h.note rfl⟩
instance (k : Conn) (f : ServerInfo → ServerInfo) : Preserves (Under G Inv) (update_server k f) X :=
  ⟨triple_updateNet fun _ _ h => h⟩

instance (s : NetworkLteState) : Preserves (Under G Inv) (change_state s) X :=
  ⟨triple_post (fun _ _ _ h => h.2) (triple_change_state_in (fun _ _ h => h) fun _ _ _ h => h.note rfl)⟩
instance (s : NetworkLteState) : Preserves (Under G Comparing) (change_state s) X :=
  ⟨triple_post (fun _ _ _ h => h.2) (triple_change_state_in (fun _ _ h => h) fun _ _ _ h => h.note rfl)⟩

/-! ## The actions -/

theorem set_changed_bands_spec {n : Net} (hb : n.data.fChangeBands = b) :
    Triple (Under G (Writing b r)) (set_changed_bands n) (fun _ => Under G (Writing false r)) X := by
  subst hb
  refine Triple.ite (fun _ => ?_) fun hf => triple_pure fun m l h => ?_
  · refine Triple.bind (Q := fun _ => Under G (Writing false r)) (triple_updateNet fun m l h => ⟨rfl, h.2⟩) fun _ => ?_
    exact Preserves.out
  · simpa [hf] using h

theorem set_changed_rat_spec {n : Net} (hr : n.data.fChangeRAT = r) :
    Triple (Under G (Writing b r)) (set_changed_rat n) (fun _ => Under G (Writing b false)) X := by
  subst hr
  refine Triple.ite (fun _ => ?_) fun hf => triple_pure fun m l h => ?_
  · refine Triple.bind (Q := fun _ => Under G (Writing b false))
      (triple_updateNet fun m l h => ⟨h.1, rfl, h.2.2⟩) fun _ => ?_
    exact Preserves.out
  · simpa [hf] using h

theorem Writing.inv {n : Net} {l : List Entry} (h : Writing false false n l) : Inv n l := by
  intro hl
  have hf : flagged n = false := by simp [flagged, h.1, h.2.1]
  have hz := h.2.2 hl
  exact ⟨hz.1, fun _ => hz.2, fun _ => ⟨hf, hz.2⟩⟩

instance : Preserves (Under G Inv) setup_radio X := by
  refine ⟨Triple.bind triple_net fun n => Triple.ite (fun hf => ?_) fun _ => ?_⟩
  · refine triple_pre (P := Writing n.data.fChangeBands n.data.fChangeRAT) ?_ ?_
    · rintro m l ⟨rfl, h⟩
      refine ⟨rfl, rfl, fun hl => ⟨(h hl).once, (h hl).flags ?_⟩⟩
      simpa [flagged] using hf
    · refine Triple.bind (set_changed_bands_spec rfl) fun bands => Triple.bind (set_changed_rat_spec rfl) fun rat => ?_
      refine Triple.bind (Q := fun _ => Under G Inv) ?_ fun _ => Preserves.out
      exact Triple.when (fun _ => triple_updateNet fun _ _ h => Writing.inv h) fun _ _ => Under.mono fun _ _ h => h.inv
  · exact triple_pre (fun _ _ h => h.2) Preserves.out

/-- The pending restart is taken and not sent yet. -/
def Due (n : Net) (l : List Entry) : Prop :=
  n.modem_action_ ≠ .reboot ∧ (Applied l → Once l ∧ flagged n = false ∧ reboots l = 0)

theorem Due.same {n m : Net} {l : List Entry} (h : Due n l) (hd : Same n.data m.data)
    (ha : m.modem_action_ = n.modem_action_) : Due m l := by
  unfold Due flagged
  rw [hd.fChangeBands, hd.fChangeRAT, ha]
  exact h

instance : Still G Due where
  move n _ m h := h.same (move_same n m) (n.move_modem_action_ m)
  data _ _ _ hd h := h.same hd rfl

theorem Due.sent {n : Net} {l : List Entry} {a : Answer} (h : Due n l) :
    Inv { n with last_status_ := a.status } (.exchange .reboot a :: l) := by
  intro hl
  obtain ⟨ho, hf, hz⟩ := h.2 hl.2
  refine ⟨⟨by simp [reboots, counts, restarts, hz], ho⟩, fun hm => ?_, fun hm => absurd hm h.1⟩
  exact absurd (hf.symm.trans hm) (by decide)

theorem reboot_spec : Triple (Under G Due) reboot (fun _ => Under G Inv) X := by
  refine Triple.bind (triple_send (R := fun _ => Inv) fun n l a _ h => h.sent) fun status => ?_
  exact Preserves.out

end Steps

/-! ## Runs -/

instance (fuel : Nat) : Preserves (Under Unasked Inv) (execute_actions fuel) := by
  refine ⟨Triple.bind (triple_get_action (R := fun a n l => (a = .reboot → Due n l) ∧ Comparing n l ∧ Inv n l)
    fun n l h => ?_) fun a => Triple.bind (Preserves.out (m := net)) fun b => ?_⟩
  · refine ⟨fun ha => ⟨by simp, fun hl => ?_⟩, ⟨by simp, fun hl => (h hl).once⟩, h.sparing rfl⟩
    exact ⟨(h hl).once, (h hl).action ha⟩
  · by_cases hr : a = .reboot
    · subst hr
      refine triple_pre (fun _ _ h => h.1 rfl) (Triple.bind reboot_spec fun h => ?_)
      exact triple_record fun _ _ _ hn => hn.note rfl
    · by_cases ha : a = .attach_network
      · subst ha
        refine triple_pre (fun _ _ h => h.2.1) (Triple.bind (Preserves.out (m := attach_network)) fun h => ?_)
        exact triple_record fun _ _ _ hn => hn.inv
      · have hp : Preserves (Under Unasked Inv) (perform fuel a) :=
          perform_preserves fuel a (fun _ => inferInstance) (fun h => absurd h ha) (fun h => absurd h hr)
            (fun _ => inferInstance) (fun _ => inferInstance) fun _ => inferInstance
        refine triple_pre (fun _ _ h => h.2.2) (Triple.bind hp.out fun h => triple_record fun _ _ _ hn => hn.note ?_)
        cases a <;> first | rfl | exact absurd rfl ha

instance : Preserves (Under Unasked Inv) force_psm := by
  unfold force_psm
  infer_instance

theorem exec_inv (fuel : Nat) {c : Call} (hc : ∀ a, c = .call_action a → sparing a = true) :
    Preserves (Under Unasked Inv) (c.exec fuel) :=
  exec_preserves fuel c (fun _ _ => inferInstance) (fun _ _ => inferInstance) (fun _ => inferInstance)
    (fun _ _ => inferInstance) fun a h => call_action_preserves fun _ _ hn => hn.sparing (hc a h)

theorem run_inv (fuel : Nat) (calls : List Call) : Preserves (Under Unasked Inv) (run fuel calls) := by
  refine run_preserves fuel (fun c => ?_) calls
  by_cases hc : ∀ a, c = .call_action a → sparing a = true
  · have := exec_inv fuel hc
    infer_instance
  · simp only [not_forall] at hc
    obtain ⟨a, rfl, ha⟩ := hc
    have : Preserves (Under Unasked Never) ((Call.call_action a).exec fuel) (Under Unasked Inv) := by
      unfold Call.exec
      infer_instance
    refine ⟨triple_called (Q := Never) (fun n l hg _ => ha hg) ?_⟩
    exact triple_absurd fun _ _ h => h

/-- Where every difference is settled by the restart made for it, and nobody asks for another one, there is
at most one restart between two raises of the retry count. -/
theorem at_most_one_reboot (config : NetworkLteConfig) (with_timer : Bool) (env : Nat → Tick) (fuel : Nat)
    (calls : List Call) :
    let w := (run fuel calls (initial config with_timer env)).2
    (∀ e ∈ w.log, Unasked e) → Applied w.log → ∀ newer l, w.log = newer ++ l → reboots l ≤ 1 := by
  intro w hw ha newer l hl
  have h : Once w.log := ((run_inv fuel calls).final (s := initial config with_timer env)
    (fun _ _ => ⟨trivial, nofun, nofun⟩) hw ha).once
  rw [hl] at h
  exact (h.append newer).reboots_le

/-- A modem out of reach of any network, from the first connection on: a way round takes 51 ticks, and
the bands it reports on the way are these. -/
def reporting (mask : Nat → String) : Nat → Tick := fun i =>
  { body := .ofView _
      (match i % 51 with
      | 25 => "+CEREG: 0,0"
      | 33 => "+CGDCONT: 1,\"IP\",\"connect.cxn\""
      | 35 => "#WS46: 0,0"
      | 36 => "#BND: 0,0," ++ mask (i / 51) ++ ",0,0"
      | _ => "").toList }

theorem at_most_one_reboot_applied :
    let w := (run 12 [.network_connect] (initial {} false (reporting fun i => if i = 0 then "4" else "524420"))).2
    w.net.state_ = .network_attaching ∧ w.log.any restarts = true ∧
      ∀ newer l, w.log = newer ++ l → reboots l ≤ 1 :=
  ⟨by decide +kernel, by decide +kernel, at_most_one_reboot _ _ _ _ _ (by decide +kernel) (by decide +kernel)⟩

/-- The modem takes `AT#BND` and goes on reporting the old bands. -/
theorem reboots_without_end :
    let w := (run 16 [.network_connect] (initial {} false (reporting fun _ => "4"))).2
    reboots w.log = 2 ∧ w.net.data.nAttachRetries = 0 ∧
      (∀ e ∈ w.log, Unasked e ∧ AttachBudget.resets e = false) := by
  decide +kernel

end LteModem.NetworkLte.Reboots
