import LteModem.NetworkLte.Frame
import LteModem.XE310.Reports

/-!
# The configuration of the modem

`attach_network` compares the bands and the technology of the modem with a profile and leaves it to
`setup_radio` to write the same profile, which the modem takes over when it restarts. Both choose the
profile by the retry count. With a modem that answers and is not registered, the way round ends in
`network_attaching`.
-/

open Prog Strings

set_option synthInstance.maxSize 100000

namespace LteModem.NetworkLte.Convergence

open Replies

/-- The LTE bands, and the technology as `AT#WS46` numbers it. -/
@[ext]
structure Profile where
  mask : Nat
  tech : Nat
deriving DecidableEq

/-- What the modem works with, and what it will work with after a restart. -/
structure Modem where
  active : Profile
  stored : Profile
deriving DecidableEq

def Modem.after (m : Modem) : AtCmd → Modem
  | .other (.set_bands _ _ lte _ _) => { m with stored.mask := lte }
  | .other (.set_iot_tech n _) => { m with stored.tech := n }
  | .reboot => { m with active := m.stored }
  | _ => m

/-- The modem behind a log; it was set to `start` before. -/
def modem (start : Profile) : List Entry → Modem
  | [] => ⟨start, start⟩
  | .exchange cmd _ :: l => (modem start l).after cmd
  | _ :: l => modem start l

/-- The reports of the modem, which is not registered. -/
def Reports (m : Modem) (body : Str) : AtCmd → Prop
  | .other .get_bands => ∃ b, Fits b ∧ b.lte_mask = m.active.mask ∧ body = bandsReport b
  | .other .get_iot_tech => m.active.tech < 2 ^ 32 ∧ ∃ gsm_priority, body = techReport m.active.tech gsm_priority
  | .other (.get_registration_status _) =>
    ∃ mode stat more, stat ∈ unregistered ∧ body = registrationReport mode stat more
  | _ => True

/-- The modem answers every command, reports what it works with, and sends no line of its own. -/
def Honest (start : Profile) : List Entry → Prop
  | [] => True
  | .exchange cmd a :: l => (a.status = .ok ∧ Reports (modem start l) a.body cmd) ∧ Honest start l
  | .polled urcs :: l => urcs = [] ∧ Honest start l
  | _ :: l => Honest start l

def reboots : List Entry → Nat
  | [] => 0
  | .exchange .reboot _ :: l => reboots l + 1
  | _ :: l => reboots l

def techNumber (tech : RadioTech) : Nat := if tech = .cat_m1 then 0 else 1

/-- The profile of a retry count. -/
def profile (c : NetworkLteConfig) (retries : Nat) : Profile :=
  if retries = 0 then ⟨c.default_lte_bands, techNumber c.default_iot_tech⟩
  else ⟨c.fallback_lte_bands, techNumber c.fallback_iot_tech⟩

/-- The timeouts that the timer thread can still raise while the state timer is stopped. -/
def alarms (n : Net) : Nat :=
  n.callbacks.length + (if n.timer_.any (·.running) then 1 else 0) + if n.event_ = .timeout then 1 else 0

/-- What can still send the machine back: these timeouts, and a command before the start that was not answered. -/
def setbacks (n : Net) : Nat := alarms n + if n.last_status_ = .timeout then 1 else 0

/-! ## The log -/

section Log

variable {start : Profile}

theorem Honest.tail {e : Entry} {l : List Entry} (h : Honest start (e :: l)) : Honest start l := by
  cases e <;> first | exact h.2 | exact h

def Lying (start : Profile) (l : List Entry) : Prop := ¬ Honest start l

instance : Lasting (Lying start) := ⟨fun _ _ h hl => h hl.tail⟩

/-- The commands that neither set a profile nor restart the modem. -/
@[reducible] def neutral : AtCmd → Bool
  | .other (.set_bands _ _ _ _ _) | .other (.set_iot_tech _ _) | .reboot => false
  | _ => true

theorem modem_neutral {cmd : AtCmd} (h : neutral cmd = true) (a : Answer) (l : List Entry) :
    modem start (.exchange cmd a :: l) = modem start l := by
  change (modem start l).after cmd = modem start l
  unfold Modem.after
  split
  · cases h
  · cases h
  · cases h
  · rfl

theorem reboots_exchange {cmd : AtCmd} (h : cmd ≠ .reboot) (a : Answer) (l : List Entry) :
    reboots (.exchange cmd a :: l) = reboots l := by
  cases cmd <;> first | rfl | exact absurd rfl h

end Log

/-! ## The timer thread -/

theorem alarms_put (n : Net) (cb : Option Callback) :
    alarms (n.put cb) = alarms n + (cb.filter (·.raises)).toList.length := by
  unfold alarms Net.put
  rw [List.length_append]
  dsimp only
  omega

theorem alarms_clear (n : Net) :
    alarms { n with event_ := .none } + (if n.event_ = .timeout then 1 else 0) = alarms n := by
  simp [alarms]

theorem alarms_move {n : Net} (hs : n.st_timer.running = false) (m : Net.Move) : alarms (n.move m) ≤ alarms n := by
  unfold Net.move
  cases m with
  | expire_state_timer =>
    dsimp only
    rw [alarms_put]
    simp [alarms, Timer.expire, hs]
  | expire_timer =>
    dsimp only
    split
    · exact Nat.le_refl _
    · next t ht =>
      rw [alarms_put]
      cases hr : t.running with
      | false => simp [alarms, Timer.expire, hr, ht]
      | true =>
        have hc : (t.cb.filter (·.raises)).toList.length ≤ 1 := by cases t.cb.filter (·.raises) <;> simp
        simp only [alarms, Timer.expire, hr, ht, Option.any_some, if_true]
        simp
        omega
  | callback i =>
    dsimp only
    split
    · exact Nat.le_refl _
    · next cb hi =>
      have hl : i < n.callbacks.length := (List.getElem?_eq_some_iff.mp hi).1
      change (n.callbacks.eraseIdx i).length + (if n.timer_.any (·.running) then 1 else 0) + 1 ≤ _
      rw [List.length_eraseIdx_of_lt hl]
      unfold alarms
      omega

/-! ## One attempt to attach -/

/-- The profile that the modem was set to before, the configuration, the retry count of the attempt, and how often a
loop asks a modem that does not answer. -/
structure Attempt where
  start : Profile
  config : NetworkLteConfig
  retries : Nat
  fuel : Nat

def Attempt.target (j : Attempt) : Profile := profile j.config j.retries

structure Base (j : Attempt) (t : Nat) (n : Net) : Prop where
  config : n.lteConfig = j.config
  retries : n.data.nAttachRetries = j.retries
  stopped : n.st_timer.running = false
  fuel : n.last_status_ = .timeout → 0 < j.fuel
  event : n.event_ = .none ∨ n.event_ = .timeout
  setbacks : setbacks n ≤ t

/-- The flags of the machine, and what the log tells of the modem. -/
structure View where
  bands : Bool
  rat : Bool
  modem : Modem
  reboots : Nat

def view (start : Profile) (n : Net) (l : List Entry) : View :=
  ⟨n.data.fChangeBands, n.data.fChangeRAT, modem start l, reboots l⟩

/-- The machine is in a state of `S`, the action `a` is pending, and `F` holds of the rest. -/
structure Is (j : Attempt) (S : NetworkLteState → Prop) (a : ModemAction) (F : View → Prop) (t : Nat) (n : Net)
    (l : List Entry) : Prop where
  base : Base j t n
  state : S n.state_
  action : n.modem_action_ = a
  facts : F (view j.start n l)

/-- `P`, as long as the modem is honest. -/
def Told (j : Attempt) (P : Net → List Entry → Prop) (n : Net) (l : List Entry) : Prop := Honest j.start l → P n l

def Does (j : Attempt) {α : Type} (P : Net → List Entry → Prop) (m : Prog World α)
    (Q : α → Net → List Entry → Prop) : Prop :=
  Triple (Under Always (Told j P)) m (fun r => Under Always (Told j (Q r))) (Under Always (Past (Lying j.start)))

section Does

variable {j : Attempt} {α β : Type} {P P' : Net → List Entry → Prop} {m : Prog World α} {f : α → Prog World β}
variable {Q Q' : α → Net → List Entry → Prop} {R : β → Net → List Entry → Prop}

theorem Does.bind (hm : Does j P m Q) (hf : ∀ r, Does j (Q r) (f r) R) : Does j P (m >>= f) R := Triple.bind hm hf

theorem Does.pre (h : ∀ n l, P' n l → P n l) (hm : Does j P m Q) : Does j P' m Q :=
  triple_pre (fun n l hp hl => h n l (hp hl)) hm

theorem Does.post (h : ∀ r n l, Q r n l → Q' r n l) (hm : Does j P m Q) : Does j P m Q' :=
  triple_post (fun r n l hq hl => h r n l (hq hl)) hm

theorem Does.pure {r : α} (h : ∀ n l, P n l → Q r n l) : Does j P (pure r) Q := triple_pure fun n l hp hl => h n l (hp hl)

theorem Does.updateNet {g : Net → Net} {Q : Unit → Net → List Entry → Prop} (h : ∀ n l, P n l → Q () (g n) l) :
    Does j P (updateNet g) Q :=
  triple_updateNet fun n l hp hl => h n l (hp hl)

theorem Does.net : Does j P net fun n m l => m = n ∧ P m l :=
  triple_post (fun _ _ _ h hl => ⟨h.1, h.2 hl⟩) triple_net

theorem Does.keep [h : Preserves (Under Always (Told j P)) m (Under Always (Past (Lying j.start)))] :
    Does j P m fun _ => P :=
  h.out

/-- What an honest modem makes true can be used for the rest of the program. -/
theorem Does.fact {E : Prop} [h : Preserves (Under Always (Past (Lying j.start))) m (Under Always (Past (Lying j.start)))]
    (hm : E → Does j P m Q) : Does j (fun n l => E ∧ P n l) m Q := by
  by_cases he : E
  · exact Does.pre (fun _ _ hp => hp.2) (hm he)
  · refine triple_pre (P := Past (Lying j.start)) ?_ (triple_post ?_ h.out)
    · exact fun n l hp hl => he (hp hl).1
    · exact fun r n l hn hl => absurd hl hn

theorem Does.some {ι : Type} [Inhabited ι] {P : ι → Net → List Entry → Prop} (h : ∀ i, Does j (P i) m Q) :
    Does j (fun n l => ∃ i, P i n l) m Q := by
  intro w hw
  by_cases hl : Honest j.start w.log
  · obtain ⟨i, hi⟩ := hw (fun _ _ => trivial) hl
    exact h i w fun _ _ => hi
  · exact h default w fun _ hl' => absurd hl' hl

end Does

section Steps

variable {j : Attempt} {S : NetworkLteState → Prop} {a : ModemAction} {F : View → Prop} {t : Nat}
variable {X : World → Prop}

theorem Base.move {n : Net} (h : Base j t n) (m : Net.Move) : Base j t (n.move m) where
  config := by simpa using h.config
  retries := (move_same n m).nAttachRetries.trans h.retries
  stopped := by
    cases hr : (n.move m).st_timer.running with
    | false => rfl
    | true =>
      rw [n.move_st_timer m hr, h.stopped] at hr
      cases hr
  fuel := by simpa using h.fuel
  event := (n.move_event_ m).elim (fun he => he ▸ h.event) .inr
  setbacks := by
    have hm := alarms_move h.stopped m
    have hs := h.setbacks
    rw [Convergence.setbacks] at hs ⊢
    rw [Net.move_last_status_]
    omega

theorem Base.heard {n : Net} (h : Base j t n) {s : ModemStatus} (hs : s = .ok) : Base j t { n with last_status_ := s } := by
  subst hs
  exact ⟨h.config, h.retries, h.stopped, nofun, h.event, (Nat.le_add_right _ _).trans h.setbacks⟩

theorem Is.data {n : Net} {l : List Entry} (h : Is j S a F t n l) {d : NetData}
    (hr : d.nAttachRetries = n.data.nAttachRetries) (hb : d.fChangeBands = n.data.fChangeBands)
    (ht : d.fChangeRAT = n.data.fChangeRAT) : Is j S a F t { n with data := d } l := by
  refine ⟨?_, h.state, h.action, ?_⟩
  · exact ⟨h.base.config, hr.trans h.base.retries, h.base.stopped, h.base.fuel, h.base.event, h.base.setbacks⟩
  · unfold view
    dsimp only
    rw [hb, ht]
    exact h.facts

theorem Is.move {n : Net} {l : List Entry} (h : Is j S a F t n l) (m : Net.Move) : Is j S a F t (n.move m) l := by
  have hd := move_same n m
  refine ⟨h.base.move m, by simpa using h.state, by simpa using h.action, ?_⟩
  unfold view
  rw [hd.fChangeBands, hd.fChangeRAT]
  exact h.facts

instance : Still Always (Told j (Is j S a F t)) where
  move _ _ m h hl := (h hl).move m
  data _ _ _ hd h hl := (h hl).data hd.nAttachRetries hd.fChangeBands hd.fChangeRAT

instance : Untimed (Told j (Is j S a F t)) := ⟨fun _ _ _ _ h hl => (h hl).data rfl rfl rfl⟩

theorem exchange_neutral {cmd : AtCmd} (hc : neutral cmd = true) :
    Preserves (Under Always (Told j (Is j S a F t))) (exchange cmd) X := by
  refine exchange_preserves fun n l b _ h hl => ?_
  have h := h hl.tail
  refine ⟨h.base.heard hl.1.1, h.state, h.action, ?_⟩
  unfold view
  rw [modem_neutral hc, reboots_exchange (by rintro rfl; cases hc)]
  exact h.facts

instance (s : Subscription) (b : Bool) : Preserves (Under Always (Told j (Is j S a F t))) (exchange (.urc s b)) X :=
  exchange_neutral rfl
instance (i : Nat) : Preserves (Under Always (Told j (Is j S a F t))) (exchange (.cfun i)) X := exchange_neutral rfl
instance (c : Command) [h : Holds (neutral (.other c))] :
    Preserves (Under Always (Told j (Is j S a F t))) (exchange (.other c)) X :=
  exchange_neutral h.out

theorem Base.flags {n : Net} (h : Base j t n) (cold warm : Bool) :
    Base j t { n with fColdBoot := cold, fWarmBoot := warm } :=
  ⟨h.config, h.retries, h.stopped, h.fuel, h.event, h.setbacks⟩

instance (b : Bool) : Preserves (Under Always (Told j (Is j S a F t))) (set_fWarmBoot b) X :=
  ⟨triple_updateNet fun n _ h hl => ⟨(h hl).base.flags n.fColdBoot b, (h hl).state, (h hl).action, (h hl).facts⟩⟩

instance (b : Bool) : Preserves (Under Always (Told j (Is j S a F t))) (set_fColdBoot b) X :=
  ⟨triple_updateNet fun n _ h hl => ⟨(h hl).base.flags b n.fWarmBoot, (h hl).state, (h hl).action, (h hl).facts⟩⟩

theorem Base.call {n : Net} (h : Base j t n) (b : ModemAction) : Base j t (n.call_action b) :=
  ⟨h.config, h.retries, h.stopped, h.fuel, h.event, h.setbacks⟩

/-- No state timer runs in these states, and an entry to one of them starts none. -/
def Passing (s : NetworkLteState) : Prop :=
  s = .rebooting ∨ s = .idle_mode ∨ s = .network_detached ∨ s = .done

theorem Passing.timed {s : NetworkLteState} (h : Passing s) : s.timed = false := by
  rcases h with rfl | rfl | rfl | rfl <;> rfl

theorem Base.enter {n : Net} (h : Base j t n) (s : NetworkLteState) : Base j t (n.enter s) :=
  ⟨h.config, h.retries, h.stopped, h.fuel, h.event, h.setbacks⟩

theorem Is.left {n m : Net} {l : List Entry} (h : Is j S a F t n l) : Is j S a F t n (.left m :: l) :=
  ⟨h.base, h.state, h.action, h.facts⟩

theorem Base.reset {n : Net} (h : Base j t n) (f : Conn → ServerInfo) : Base j t { n with serverInfo := f } :=
  ⟨h.config, h.retries, h.stopped, h.fuel, h.event, h.setbacks⟩

end Steps

/-! ## The arrival -/

/-- The machine attaches with the retry count `k`, and the modem works with the profile. -/
structure Attached (j : Attempt) (k : Nat) (n : Net) (l : List Entry) : Prop where
  state : n.state_ = .network_attaching
  retries : n.data.nAttachRetries = k
  active : (modem j.start l).active = j.target
  reboots : reboots l ≤ 1

section Attached

variable {j : Attempt} {k t : Nat} {X : World → Prop}

theorem Attached.exchange {n : Net} {l : List Entry} {cmd : AtCmd} {b : Answer} (h : Attached j k n l) (hc : cmd ≠ .reboot)
    (s : ModemStatus) : Attached j k { n with last_status_ := s } (.exchange cmd b :: l) := by
  refine ⟨h.state, h.retries, ?_, ?_⟩
  · change ((modem j.start l).after cmd).active = j.target
    rw [← h.active]
    unfold Modem.after
    split
    · rfl
    · rfl
    · exact absurd rfl hc
    · rfl
  · rw [reboots_exchange hc]
    exact h.reboots

instance : Timeless Always (Told j (Attached j k)) where
  move n _ m h hl :=
    ⟨by simpa using (h hl).state, (move_same n m).nAttachRetries.trans (h hl).retries, (h hl).active, (h hl).reboots⟩
  data _ _ _ hd h hl := ⟨(h hl).state, hd.nAttachRetries.trans (h hl).retries, (h hl).active, (h hl).reboots⟩
  other _ _ _ _ _ _ h hl := (h hl.tail).exchange (by simp) _
  prompt _ _ _ _ _ _ h hl := (h hl.tail).exchange (by simp) _
  st_timer _ _ _ h hl := ⟨(h hl).state, (h hl).retries, (h hl).active, (h hl).reboots⟩
  timer _ _ _ h hl := ⟨(h hl).state, (h hl).retries, (h hl).active, (h hl).reboots⟩
  started _ _ _ _ h hl := ⟨(h hl).state, (h hl).retries, (h hl).active, (h hl).reboots⟩

instance (i : Nat) : Preserves (Under Always (Told j (Attached j k))) (exchange (.cfun i)) X :=
  exchange_preserves fun _ _ _ _ h hl => (h hl.tail).exchange (by simp) _

end Attached

/-! ## The answers -/

section Answers

variable {j : Attempt} {S : NetworkLteState → Prop} {a : ModemAction} {F K : View → Prop} {t : Nat}

theorem Is.mono {n : Net} {l : List Entry} (h : Is j S a F t n l) (hF : ∀ v, F v → K v) : Is j S a K t n l :=
  ⟨h.base, h.state, h.action, hF _ h.facts⟩

theorem Is.neutral {n : Net} {l : List Entry} {c : AtCmd} {b : Answer} (h : Is j S a F t n l) (hc : neutral c = true)
    (hs : b.status = .ok) : Is j S a F t { n with last_status_ := b.status } (.exchange c b :: l) := by
  refine ⟨h.base.heard hs, h.state, h.action, ?_⟩
  unfold view
  rw [modem_neutral hc, reboots_exchange (by rintro rfl; cases hc)]
  exact h.facts

end Answers

/-! ## The stages -/

/-- The way round: `confirm` is the comparison after the restart, or one that found no difference. `ask` is the query
of a modem that did not answer before. -/
inductive Stage where
  | ask | compare | write | restart | power_on | setup | query | confirm
deriving DecidableEq

namespace Stage

def action : Stage → ModemAction
  | compare | confirm => .attach_network
  | write | setup => .setup_radio
  | restart => .reboot
  | power_on => .power_on
  | ask | query => .query_network_status

def states : Stage → NetworkLteState → Prop
  | ask | query => (· = .idle_mode)
  | _ => Passing

/-- How many loops it takes from here. -/
def rank : Stage → Nat
  | ask => 8
  | compare => 7
  | write => 6
  | restart => 5
  | power_on => 4
  | setup => 3
  | query => 2
  | confirm => 1

end Stage

/-- No restart yet; what is stored is in use or is the target. -/
structure Unsettled (j : Attempt) (v : View) : Prop where
  mask : v.modem.stored.mask = v.modem.active.mask ∨ v.modem.stored.mask = j.target.mask
  tech : v.modem.stored.tech = v.modem.active.tech ∨ v.modem.stored.tech = j.target.tech
  reboots : v.reboots = 0

structure Settled (j : Attempt) (v : View) : Prop where
  bands : v.bands = false
  rat : v.rat = false
  active : v.modem.active = j.target
  reboots : v.reboots ≤ 1

/-- A flag is up wherever the modem differs. -/
structure Flagged (j : Attempt) (v : View) : Prop extends Unsettled j v where
  bands : v.bands = true ∨ v.modem.active.mask = j.target.mask
  rat : v.rat = true ∨ v.modem.active.tech = j.target.tech

structure Written (j : Attempt) (v : View) : Prop where
  bands : v.bands = false
  rat : v.rat = false
  stored : v.modem.stored = j.target
  reboots : v.reboots = 0

def Stage.Facts (j : Attempt) : Stage → View → Prop
  | .ask | .compare => Unsettled j
  | .write => fun v => (v.bands = true ∨ v.rat = true) ∧ Flagged j v
  | .restart => Written j
  | _ => Settled j

abbrev Stage.At (j : Attempt) (s : Stage) (t : Nat) : Net → List Entry → Prop := Is j s.states s.action (s.Facts j) t

/-- After a loop from `s` with no timeout: attached, or a stage further. -/
def Onward (j : Attempt) (s : Stage) (t : Nat) (n : Net) (l : List Entry) : Prop :=
  Attached j (j.retries + 1) n l ∨ ∃ u : Stage, u.rank < s.rank ∧ u.At j t n l

/-! ## attach_network -/

section Attach

variable {j : Attempt} {S : NetworkLteState → Prop} {a : ModemAction} {F K : View → Prop} {t : Nat}

theorem Base.set {n : Net} (h : Base j t n) (b r : Bool) :
    Base j t { n with data := { n.data with fChangeBands := b, fChangeRAT := r } } :=
  ⟨h.config, h.retries, h.stopped, h.fuel, h.event, h.setbacks⟩

theorem Is.set_bands {n : Net} {l : List Entry} (h : Is j S a F t n l) (b : Bool)
    (hF : ∀ v, F v → K { v with bands := b }) : Is j S a K t { n with data := { n.data with fChangeBands := b } } l :=
  ⟨h.base.set b n.data.fChangeRAT, h.state, h.action, hF _ h.facts⟩

/-- The flag of the technology after the comparison. -/
def TechChecked (j : Attempt) (F : View → Prop) (v : View) : Prop :=
  ∃ r, F { v with rat := r } ∧ v.rat = (r || decide (v.modem.active.tech ≠ j.target.tech))

/-- Both flags after the comparison. -/
def Checked (j : Attempt) (F : View → Prop) (v : View) : Prop :=
  ∃ b, TechChecked j F { v with bands := b } ∧ v.bands = (b || decide (v.modem.active.mask ≠ j.target.mask))

end Attach

/-! ## setup_radio and reboot -/

section Setup

variable {j : Attempt} {S : NetworkLteState → Prop} {a : ModemAction} {F K : View → Prop} {t : Nat}

def View.after (v : View) (cmd : AtCmd) : View :=
  { v with modem := v.modem.after cmd, reboots := if cmd = .reboot then v.reboots + 1 else v.reboots }

instance {p : Prop} [Decidable p] {c d : Command} [hc : Holds (neutral (.other c))] [hd : Holds (neutral (.other d))] :
    Holds (neutral (.other (if p then c else d))) := by
  split
  · exact hc
  · exact hd

end Setup

/-! ## One loop -/

section Loop

variable {j : Attempt} {t : Nat}

theorem Base.take {n : Net} (h : Base j t n) : Base j t { n with modem_action_ := .none } :=
  ⟨h.config, h.retries, h.stopped, h.fuel, h.event, h.setbacks⟩

theorem Onward.ran {s : Stage} {n m : Net} {l : List Entry} {a : ModemAction} {h : Heard} (ho : Onward j s t n l) :
    Onward j s t n (.ran a m h :: l) := by
  rcases ho with h | ⟨u, hu, h⟩
  · exact .inl ⟨h.state, h.retries, h.active, h.reboots⟩
  · exact .inr ⟨u, hu, h.base, h.state, h.action, h.facts⟩

/-- The net without the event that `check_last_status` raises. -/
def quiet (n : Net) : Net := { n with event_ := if n.event_ = .at_command_no_response then .none else n.event_ }

theorem quiet_move (n : Net) (m : Net.Move) : quiet (n.move m) = (quiet n).move m := by
  cases m with
  | expire_state_timer => rfl
  | expire_timer => rcases ht : n.timer_ with _ | t <;> simp only [Net.move, quiet, ht, Net.put]
  | callback i =>
    rcases hi : n.callbacks[i]? with _ | cb
    · simp only [Net.move, quiet, hi]
    · simp only [Net.move, quiet, hi]
      rfl

section Events

variable {S : NetworkLteState → Prop} {a : ModemAction} {F : View → Prop}

/-- The event may be that the last command was not answered. -/
def Raised (j : Attempt) (S : NetworkLteState → Prop) (a : ModemAction) (F : View → Prop) (t : Nat) (n : Net)
    (l : List Entry) : Prop :=
  (n.event_ = .at_command_no_response → n.last_status_ = .timeout) ∧ Is j S a F t (quiet n) l

theorem Raised.move {n : Net} {l : List Entry} (h : Raised j S a F t n l) (m : Net.Move) :
    Raised j S a F t (n.move m) l := by
  constructor
  · intro he
    rw [Net.move_last_status_]
    rcases n.move_event_ m with hm | hm
    · exact h.1 (hm.symm.trans he)
    · rw [hm] at he
      cases he
  · rw [quiet_move]
    exact h.2.move m

/-- The setbacks that remain when this event is taken. -/
def remaining (t : Nat) (e : NetworkLteEvent) : Nat := if e = .timeout then t - 1 else t

theorem Is.clear {n : Net} {l : List Entry} (h : Is j S a F t n l) {e : NetworkLteEvent}
    (he : e = .timeout → n.event_ = .timeout) :
    (e = .timeout → 1 ≤ t) ∧ Is j S a F (remaining t e) { n with event_ := .none } l := by
  have hb := h.base
  have ht := hb.setbacks
  have hc := alarms_clear n
  rw [setbacks] at ht
  have hleft : (e = .timeout → 1 ≤ t) ∧ setbacks { n with event_ := .none } ≤ remaining t e := by
    rw [setbacks, remaining]
    dsimp only
    by_cases hn : e = .timeout
    · rw [if_pos (he hn)] at hc
      rw [if_pos hn]
      exact ⟨fun _ => by omega, by omega⟩
    · rw [if_neg hn]
      exact ⟨fun h => absurd h hn, by omega⟩
  exact ⟨hleft.1, ⟨hb.config, hb.retries, hb.stopped, hb.fuel, .inl rfl, hleft.2⟩, h.state, h.action, h.facts⟩

theorem Is.raised {n : Net} {l : List Entry} (h : Is j S a F t n l) : Raised j S a F t n l := by
  have hn : n.event_ ≠ .at_command_no_response := by rcases h.base.event with he | he <;> simp [he]
  exact ⟨fun he => absurd he hn, by rwa [quiet, if_neg hn]⟩

/-- The last command was not answered. -/
def Silent (j : Attempt) (S : NetworkLteState → Prop) (a : ModemAction) (F : View → Prop) (t : Nat) (n : Net)
    (l : List Entry) : Prop :=
  n.last_status_ = .timeout ∧ Is j S a F t n l

instance : Still Always (Told j (Silent j S a F t)) where
  move n _ m h hl := ⟨(n.move_last_status_ m).trans (h hl).1, (h hl).2.move m⟩
  data _ _ _ hd h hl := ⟨(h hl).1, (h hl).2.data hd.nAttachRetries hd.fChangeBands hd.fChangeRAT⟩

end Events

/-- The stage after a timeout. -/
def again (s : Stage) : Stage := if s.rank ≤ 4 then .confirm else .compare

/-- After a loop that started with `m` to go. -/
def Closer (j : Attempt) (m : Nat) (n : Net) (l : List Entry) : Prop :=
  Attached j (j.retries + 1) n l ∨ ∃ u : Stage, ∃ t, 8 * t + u.rank < m ∧ u.At j t n l

theorem Is.handled {S : NetworkLteState → Prop} {a : ModemAction} {F : View → Prop} {n : Net} {l : List Entry}
    {e : Taken} {h : Heard} (hi : Is j S a F t n l) : Is j S a F t n (.handled e h :: l) :=
  ⟨hi.base, hi.state, hi.action, hi.facts⟩

/-- The stage after the event, which is none or a timeout. -/
def next (s : Stage) (e : NetworkLteEvent) : Stage := if e = .none then s else again s

theorem Closer.loopEnd {m : Nat} {n k : Net} {l : List Entry} (h : Closer j m n l) : Closer j m n (.loopEnd k :: l) := by
  rcases h with h | ⟨u, t, hu, h⟩
  · exact .inl ⟨h.state, h.retries, h.active, h.reboots⟩
  · exact .inr ⟨u, t, hu, h.base, h.state, h.action, h.facts⟩

/-- Some stage with at most `m` to go. -/
def Within (j : Attempt) (m : Nat) (n : Net) (l : List Entry) : Prop :=
  ∃ i : Stage × Nat, 8 * i.2 + i.1.rank ≤ m ∧ i.1.At j i.2 n l

/-- `at_command_no_response` was taken. -/
def Alerted (j : Attempt) (s : Stage) (t : Nat) (n : Net) (l : List Entry) : Prop :=
  Silent j s.states .check_responsiveness (s.Facts j) t n l

/-- After the event: a stage, or the question whether the modem is there. -/
def Pending (j : Attempt) (s : Stage) (t : Nat) : Option (Stage × Nat) → Net → List Entry → Prop
  | some i => i.1.At j i.2
  | none => Alerted j s t

/-- The stage after the modem was asked. -/
def asked (s : Stage) : Stage := if s.rank ≤ 4 then .query else .ask

end Loop

/-! ## The loops -/

section Runs

variable {j : Attempt} {fuel : Nat}

def called (w : World) : World := { w with log := .called .loop w.net :: w.log }

end Runs

/-- Enough loops for all stages, anew after every setback. -/
def bound (w : World) : Nat := 8 * setbacks w.net + 7

/-- An honest log, with reports in one form. -/
def Plain (start : Profile) : List Entry → Prop
  | [] => True
  | .exchange cmd a :: l => (a.status = .ok ∧ match cmd with
      | .other .get_bands => (modem start l).active.mask < 2 ^ 64 ∧
        a.body = bandsReport { lte_mask := (modem start l).active.mask }
      | .other .get_iot_tech => (modem start l).active.tech < 2 ^ 32 ∧ a.body = techReport (modem start l).active.tech 0
      | .other (.get_registration_status _) => a.body = registrationReport 4 2 none
      | _ => True) ∧ Plain start l
  | .polled urcs :: l => urcs = [] ∧ Plain start l
  | _ :: l => Plain start l

instance (start : Profile) : DecidablePred (Plain start) := fun l => by
  induction l with
  | nil => exact isTrue trivial
  | cons e l ih =>
    cases e with
    | exchange cmd a =>
      unfold Plain
      have : Decidable (match cmd with
          | .other .get_bands => (modem start l).active.mask < 2 ^ 64 ∧
            a.body = bandsReport { lte_mask := (modem start l).active.mask }
          | .other .get_iot_tech =>
            (modem start l).active.tech < 2 ^ 32 ∧ a.body = techReport (modem start l).active.tech 0
          | .other (.get_registration_status _) => a.body = registrationReport 4 2 none
          | _ => True) := by
        split <;> infer_instance
      infer_instance
    | polled urcs => unfold Plain; infer_instance
    | _ => exact ih

end LteModem.NetworkLte.Convergence
