import LteModem.NetworkLte.Api

/-!
# What the steps of the machine leave alone

A property of a run is stated under a condition `G` on the entries of its log: as long as every entry
meets `G`, the machine and the log meet `P`. The classes below say which steps keep such a property, and
the instances carry this over to the functions of the machine.
-/

open Strings

set_option synthInstance.maxSize 100000

namespace LteModem.NetworkLte

open Prog

def Under (G : Entry → Prop) (P : Net → List Entry → Prop) (w : World) : Prop :=
  (∀ e ∈ w.log, G e) → P w.net w.log

section Steps

variable {G : Entry → Prop} {P Q : Net → List Entry → Prop} {X : World → Prop}

theorem Under.mono (h : ∀ n l, P n l → Q n l) {w : World} (hw : Under G P w) : Under G Q w :=
  fun hg => h _ _ (hw hg)

theorem triple_pre {α : Type} {m : Prog World α} {R : α → World → Prop} (h : ∀ n l, Q n l → P n l)
    (hm : Triple (Under G P) m R X) : Triple (Under G Q) m R X :=
  Triple.pre (fun _ => Under.mono h) hm

theorem triple_post {α : Type} {m : Prog World α} {I : World → Prop} {R R' : α → Net → List Entry → Prop}
    (h : ∀ a n l, R a n l → R' a n l) (hm : Triple I m (fun a => Under G (R a)) X) :
    Triple I m (fun a => Under G (R' a)) X :=
  Triple.post (fun a _ => Under.mono (h a)) hm

theorem triple_pure {α : Type} {a : α} {R : α → Net → List Entry → Prop} (h : ∀ n l, P n l → R a n l) :
    Triple (Under G P) (pure a) (fun a => Under G (R a)) X :=
  Triple.pure fun _ => Under.mono h

theorem triple_and {α : Type} {m : Prog World α} {P' Q' : Net → List Entry → Prop}
    (h : Triple (Under G P) m (fun _ => Under G Q) X) (h' : Triple (Under G P') m (fun _ => Under G Q') X) :
    Triple (Under G fun n l => P n l ∧ P' n l) m (fun _ => Under G fun n l => Q n l ∧ Q' n l) X :=
  Triple.pre (fun _ hw => ⟨fun hg => (hw hg).1, fun hg => (hw hg).2⟩)
    (Triple.post (fun _ _ hw hg => ⟨hw.1 hg, hw.2 hg⟩) (h.and h'))

theorem triple_or {α : Type} {m : Prog World α} {R : α → Net → List Entry → Prop}
    (h : Triple (Under G P) m (fun a => Under G (R a)) X) (h' : Triple (Under G Q) m (fun a => Under G (R a)) X) :
    Triple (Under G fun n l => P n l ∨ Q n l) m (fun a => Under G (R a)) X := by
  intro w hw
  by_cases hg : ∀ e ∈ w.log, G e
  · rcases hw hg with hp | hq
    · exact h w fun _ => hp
    · exact h' w fun _ => hq
  · exact h w fun hl => absurd hl hg

theorem triple_updateNet {f : Net → Net} (h : ∀ n l, P n l → Q (f n) l) :
    Triple (Under G P) (updateNet f) (fun _ => Under G Q) X :=
  fun _ hw hg => h _ _ (hw hg)

theorem triple_record {e : Entry} (h : ∀ n l, G e → P n l → Q n (e :: l)) :
    Triple (Under G P) (record e) (fun _ => Under G Q) X := by
  intro w hw hg
  have hg : G e ∧ ∀ e ∈ w.log, G e := by simpa using hg
  exact h _ _ hg.1 (hw hg.2)

theorem foldl_move (h : ∀ n l m, P n l → P (n.move m) l) (moves : List Net.Move) (n : Net) (l : List Entry)
    (hn : P n l) : P (moves.foldl Net.move n) l := by
  induction moves generalizing n with
  | nil => exact hn
  | cons m moves ih => exact ih _ (h n l m hn)

theorem triple_tick (h : ∀ n l m, P n l → P (n.move m) l) :
    Triple (Under G P) tick (fun _ => Under G P) X :=
  fun _ hw hg => foldl_move h _ _ _ (hw hg)

theorem triple_net : Triple (Under G P) net (fun n => Under G fun m l => m = n ∧ P m l) X :=
  fun _ hw hg => ⟨rfl, hw hg⟩

theorem triple_get_action {R : ModemAction → Net → List Entry → Prop}
    (h : ∀ n l, P n l → R n.modem_action_ { n with modem_action_ := .none } l) :
    Triple (Under G P) get_action (fun a => Under G (R a)) X :=
  fun _ hw hg => h _ _ (hw hg)

theorem triple_start_state_timer {R : TimerError → Net → List Entry → Prop} {timeout_ms : Nat} {raises : Bool}
    (hp : ∀ n l m, P n l → P (n.move m) l)
    (h : ∀ n l now, P n l →
      let out := n.st_timer.start now timeout_ms { raises, visit := n.visit, config := n.lteConfig }
      R out.1 { n with st_timer := out.2 } l) :
    Triple (Under G P) (start_state_timer timeout_ms raises) (fun e => Under G (R e)) X := by
  refine Triple.bind (triple_tick hp) fun t => Triple.bind triple_net fun n => ?_
  refine Triple.bind (Q := fun _ => Under G (R _)) (triple_updateNet ?_) fun _ => Triple.pure fun _ hw => hw
  rintro m l ⟨rfl, hm⟩
  exact h m l t.now hm

theorem triple_stop_state_timer (hp : ∀ n l m, P n l → P (n.move m) l)
    (h : ∀ n l, P n l → Q { n with st_timer := n.st_timer.stop.2 } l) :
    Triple (Under G P) stop_state_timer (fun _ => Under G Q) X :=
  Triple.bind (triple_tick hp) fun _ => triple_updateNet h

end Steps

/-! ## The data -/

/-- The data that the properties of runs watch is the same. -/
structure Same (d e : NetData) : Prop where
  ip_address : e.ip_address = d.ip_address := by rfl
  context_state : e.context_state = d.context_state := by rfl
  nAttachRetries : e.nAttachRetries = d.nAttachRetries := by rfl
  fChangeBands : e.fChangeBands = d.fChangeBands := by rfl
  fChangeRAT : e.fChangeRAT = d.fChangeRAT := by rfl
  gnssPosition : e.gnssPosition = d.gnssPosition := by rfl
  tx : e.message_queue_.tx = d.message_queue_.tx := by rfl
  stateTimers_ : e.stateTimers_ = d.stateTimers_ := by rfl
  timing : e.timing = d.timing := by rfl

theorem Same.trans {d e f : NetData} (h : Same d e) (hf : Same e f) : Same d f where
  ip_address := hf.ip_address.trans h.ip_address
  context_state := hf.context_state.trans h.context_state
  nAttachRetries := hf.nAttachRetries.trans h.nAttachRetries
  fChangeBands := hf.fChangeBands.trans h.fChangeBands
  fChangeRAT := hf.fChangeRAT.trans h.fChangeRAT
  gnssPosition := hf.gnssPosition.trans h.gnssPosition
  tx := hf.tx.trans h.tx
  stateTimers_ := hf.stateTimers_.trans h.stateTimers_
  timing := hf.timing.trans h.timing

theorem on_event_same (e : NetworkLteEvent) (n : Net) : Same n.data (n.on_event e).data := by
  unfold Net.on_event
  dsimp only
  split <;> exact {}

theorem move_same (n : Net) (m : Net.Move) : Same n.data (n.move m).data := by
  unfold Net.move Net.put
  split
  · exact {}
  · split <;> exact {}
  · split
    · exact {}
    · exact on_event_same .timeout n

class Addressless (P : Net → List Entry → Prop) : Prop where
  ip : ∀ n l ip, P n l → P { n with data := { n.data with ip_address := ip } } l
  clear : ∀ n l, P n l → P { n with data := { n.data with ip_address := .empty _, context_state := .inactive } } l

class Uncounted (P : Net → List Entry → Prop) : Prop where
  retries : ∀ n l k, P n l → P { n with data := { n.data with nAttachRetries := k } } l

class Unqueued (P : Net → List Entry → Prop) : Prop where
  tx : ∀ n l tx, P n l →
    P { n with data := { n.data with message_queue_ := { n.data.message_queue_ with tx } } } l

class Unflagged (P : Net → List Entry → Prop) : Prop where
  flags : ∀ n l b r, P n l → P { n with data := { n.data with fChangeBands := b, fChangeRAT := r } } l

class Fixless (P : Net → List Entry → Prop) : Prop where
  fix : ∀ n l pos, P n l → P { n with data := { n.data with gnssPosition := pos } } l

class Untimed (P : Net → List Entry → Prop) : Prop where
  times : ∀ n l t g, P n l → P { n with data := { n.data with stateTimers_ := t, timing := g } } l

class Blind (P : Net → List Entry → Prop) : Prop where
  data : ∀ n l d, P n l → P { n with data := d } l

section Data

variable {G : Entry → Prop} {P : Net → List Entry → Prop} {X : World → Prop}

instance [h : Blind P] : Addressless P := ⟨fun n l _ => h.data n l _, fun n l => h.data n l _⟩
instance [h : Blind P] : Uncounted P := ⟨fun n l _ => h.data n l _⟩
instance [h : Blind P] : Unqueued P := ⟨fun n l _ => h.data n l _⟩
instance [h : Blind P] : Unflagged P := ⟨fun n l _ _ => h.data n l _⟩
instance [h : Blind P] : Fixless P := ⟨fun n l _ => h.data n l _⟩
instance [h : Blind P] : Untimed P := ⟨fun n l _ _ => h.data n l _⟩

instance [h : Blind P] (f : NetData → NetData) : Preserves (Under G P) (updateData f) X :=
  ⟨triple_updateNet fun n l => h.data n l (f n.data)⟩

instance [h : Addressless P] (ip : FixedString MODEM_IP_STR) :
    Preserves (Under G P) (updateData fun d => { d with ip_address := ip }) X :=
  ⟨triple_updateNet fun n l => h.ip n l ip⟩

instance [h : Addressless P] : Preserves (Under G P)
    (updateData fun d => { d with ip_address := .empty _, context_state := .inactive }) X :=
  ⟨triple_updateNet h.clear⟩

instance [h : Uncounted P] (k : Nat) : Preserves (Under G P) (updateData fun d => { d with nAttachRetries := k }) X :=
  ⟨triple_updateNet fun n l => h.retries n l k⟩

instance [h : Uncounted P] : Preserves (Under G P) count_attach X :=
  ⟨triple_updateNet fun n l => h.retries n l ((n.data.nAttachRetries + 1) % 2 ^ 8)⟩

instance [h : Unqueued P] (tx : Lane) :
    Preserves (Under G P) (updateData fun d => { d with message_queue_ := { d.message_queue_ with tx } }) X :=
  ⟨triple_updateNet fun n l => h.tx n l tx⟩

instance [h : Unflagged P] (b : Bool) : Preserves (Under G P) (updateData fun d => { d with fChangeBands := b }) X :=
  ⟨triple_updateNet fun n l => h.flags n l b n.data.fChangeRAT⟩

instance [h : Unflagged P] (b : Bool) : Preserves (Under G P) (updateData fun d => { d with fChangeRAT := b }) X :=
  ⟨triple_updateNet fun n l => h.flags n l n.data.fChangeBands b⟩

instance [h : Fixless P] (pos : GnssPosition) :
    Preserves (Under G P) (updateData fun d => { d with gnssPosition := pos }) X :=
  ⟨triple_updateNet fun n l => h.fix n l pos⟩

instance [h : Untimed P] (elapsed : Nat) (prev : NetworkLteState) : Preserves (Under G P)
    (updateData fun d => { d with stateTimers_ := d.stateTimers_.add elapsed prev }) X :=
  ⟨triple_updateNet fun n l => h.times n l _ n.data.timing⟩

instance [h : Untimed P] (now : Nat) :
    Preserves (Under G P) (updateData fun d => { d with timing.measured := now }) X :=
  ⟨triple_updateNet fun n l => h.times n l n.data.stateTimers_ _⟩

instance [h : Untimed P] (now : Nat) : Preserves (Under G P) (updateNet (Net.stamp now)) X :=
  ⟨triple_updateNet fun n l => h.times n l n.data.stateTimers_ _⟩

end Data

/-! ## Steps that concern no state -/

/-- The timer thread keeps `P`, and so do the data that no property watches. -/
class Still (G : Entry → Prop) (P : Net → List Entry → Prop) : Prop where
  move : ∀ n l m, P n l → P (n.move m) l
  data : ∀ n l d, Same n.data d → P n l → P { n with data := d } l

/-- All other commands but those that take the data of a connection, take a fix or switch the receiver. -/
@[reducible] def plain : Command → Bool
  | .udp_receive _ _ | .get_gnss_position | .set_gnss_power _ => false
  | _ => true

/-- `b`, by evaluation. -/
class Holds (b : Bool) : Prop where
  out : b = true

instance : Holds true := ⟨rfl⟩
instance {p : Prop} [Decidable p] {c d : Command} [hc : Holds (plain c)] [hd : Holds (plain d)] :
    Holds (plain (if p then c else d)) := by
  split
  · exact hc
  · exact hd

/-- As do the queries of the modem. -/
class Stable (G : Entry → Prop) (P : Net → List Entry → Prop) : Prop extends Still G P where
  other : ∀ n l c a, plain c = true → G (.exchange (.other c) a) → P n l →
    P { n with last_status_ := a.status } (.exchange (.other c) a :: l)
  prompt : ∀ n l c a, plain c = true → G (.exchange (.other c) a) → P n l → P n (.exchange (.other c) a :: l)

/-- All actions but the one that restarts the modem. -/
@[reducible] def sparing : ModemAction → Bool
  | .reboot => false
  | _ => true

/-- As do the servers and the pending action. -/
class Acting (G : Entry → Prop) (P : Net → List Entry → Prop) : Prop extends Stable G P where
  reset : ∀ n l, P n l → P { n with serverInfo := fun k => { n.serverInfo k with state := .disconnected } } l
  action : ∀ n l a, sparing a = true → P n l → P { n with modem_action_ := a } l

class Restarting (P : Net → List Entry → Prop) : Prop where
  restart : ∀ n l, P n l → P { n with modem_action_ := .reboot } l

/-- As do the configuration, the events of the modem, and the entries on batches and calls. -/
class Eventful (G : Entry → Prop) (P : Net → List Entry → Prop) : Prop extends Acting G P where
  config : ∀ n l c, P n l → P { n with lteConfig := c } l
  event : ∀ n l e, e ≠ .timeout → P n l → P { n with event_ := e } l
  cfun : ∀ n l i a, i ≠ 11 → G (.exchange (.cfun i) a) → P n l →
    P { n with last_status_ := a.status } (.exchange (.cfun i) a :: l)
  polled : ∀ n l urcs, G (.polled urcs) → P n l → P n (.polled urcs :: l)
  called : ∀ n l c m, G (.called c m) → P n l → P n (.called c m :: l)

class Ordinary (G : Entry → Prop) (P : Net → List Entry → Prop) : Prop extends Eventful G P where
  ran : ∀ n l a b h, G (.ran a b h) → P n l → P n (.ran a b h :: l)

/-- As do the boot flags and the subscriptions, and the entries on the ends of loops. -/
class Routine (G : Entry → Prop) (P : Net → List Entry → Prop) : Prop extends Eventful G P where
  loopEnd : ∀ n l m, G (.loopEnd m) → P n l → P n (.loopEnd m :: l)
  cold : ∀ n l b, P n l → P { n with fColdBoot := b } l
  warm : ∀ n l b, P n l → P { n with fWarmBoot := b } l
  last_status : ∀ n l s, P n l → P { n with last_status_ := s } l
  urc : ∀ n l s b a, G (.exchange (.urc s b) a) → P n l →
    P { n with last_status_ := a.status } (.exchange (.urc s b) a :: l)

class Free (G : Entry → Prop) (P : Net → List Entry → Prop) : Prop extends Ordinary G P, Routine G P

section Functions

variable {G : Entry → Prop} {P : Net → List Entry → Prop} {X : World → Prop}

instance : Preserves (Under G P) net X := by unfold net; infer_instance

section Still

variable [hs : Still G P]

instance : Preserves (Under G P) tick X := ⟨triple_tick hs.move⟩

theorem triple_exchange {cmd : AtCmd} {R : Answer → Net → List Entry → Prop}
    (h : ∀ n l a, G (.exchange cmd a) → P n l → R a { n with last_status_ := a.status } (.exchange cmd a :: l)) :
    Triple (Under G P) (exchange cmd) (fun a => Under G (R a)) X := by
  refine Triple.bind (Preserves.out (m := tick)) fun t => ?_
  refine Triple.bind (Q := fun _ => Under G (R _)) (fun w hw hg => ?_) fun _ => Triple.pure fun _ hw => hw
  have hg : G (.exchange cmd t.answer) ∧ ∀ e ∈ w.log, G e := by simpa using hg
  exact h _ _ _ hg.1 (hw hg.2)

theorem triple_send {cmd : AtCmd} {R : ModemStatus → Net → List Entry → Prop}
    (h : ∀ n l a, G (.exchange cmd a) → P n l →
      R a.status { n with last_status_ := a.status } (.exchange cmd a :: l)) :
    Triple (Under G P) (xE310.send cmd) (fun s => Under G (R s)) X :=
  Triple.bind (triple_exchange h) fun _ => Triple.pure fun _ hw => hw

theorem triple_ask {α : Type} {c : Command} {parse : Answer → α} {R : α → Net → List Entry → Prop}
    (h : ∀ n l a, G (.exchange (.other c) a) → P n l →
      R (parse a) { n with last_status_ := a.status } (.exchange (.other c) a :: l)) :
    Triple (Under G P) (xE310.ask c parse) (fun r => Under G (R r)) X :=
  Triple.bind (triple_exchange h) fun _ => Triple.pure fun _ hw => hw

theorem exchange_preserves {cmd : AtCmd}
    (h : ∀ n l a, G (.exchange cmd a) → P n l → P { n with last_status_ := a.status } (.exchange cmd a :: l)) :
    Preserves (Under G P) (exchange cmd) X :=
  ⟨triple_exchange h⟩

instance (cmd : AtCmd) [Preserves (Under G P) (exchange cmd) X] :
    Preserves (Under G P) (xE310.send cmd) X := by
  unfold xE310.send
  infer_instance

theorem triple_get_event {E : NetworkLteEvent → Prop} (hr : ∀ n l, P n l → E n.event_)
    (hc : ∀ n l, P n l → P { n with event_ := .none } l) :
    Triple (Under G P) get_event (fun t => Under G fun n l => E t.event ∧ P n l) X := by
  refine Triple.bind (Preserves.out (m := tick)) fun _ => Triple.bind triple_net fun n => ?_
  refine triple_pre (P := fun m l => E n.event_ ∧ P m l) ?_ ?_
  · rintro m l ⟨rfl, h⟩
    exact ⟨hr m l h, h⟩
  · refine Triple.bind (triple_tick ?_) fun _ => Triple.bind (Preserves.out (m := net)) fun _ => ?_
    · exact fun m l v h => ⟨h.1, hs.move m l v h.2⟩
    · refine Triple.bind (Q := fun _ => Under G fun m l => E n.event_ ∧ P m l) (triple_updateNet ?_) fun _ => ?_
      · exact fun m l h => ⟨h.1, hc m l h.2⟩
      · exact Triple.bind (Preserves.out (m := net)) fun _ => Triple.pure fun _ hw => hw

theorem triple_take_event (hc : ∀ n l, P n l → P { n with event_ := .none } l) :
    Triple (Under G P) get_event (fun t => Under G fun n l => n = t.after ∧ P n l) X := by
  refine Triple.bind (Preserves.out (m := tick)) fun _ => Triple.bind (Preserves.out (m := net)) fun n => ?_
  refine Triple.bind (Preserves.out (m := tick)) fun _ => Triple.bind (Preserves.out (m := net)) fun m => ?_
  refine Triple.bind (Q := fun _ => Under G P) (triple_updateNet hc) fun _ => ?_
  exact Triple.bind triple_net fun _ => Triple.pure fun _ hw => hw

instance [Untimed P] : Preserves (Under G P) state_timer_elapsed X := by unfold state_timer_elapsed; infer_instance

theorem on_timer_preserves {f : Net → Nat → Timer Callback → TimerError × Timer Callback}
    (h : ∀ n l now t, n.timer_ = some t → P n l → P { n with timer_ := some (f n now t).2 } l) :
    Preserves (Under G P) (on_timer f) X := by
  refine ⟨Triple.bind (Preserves.out (m := tick)) fun t => Triple.bind triple_net fun n => ?_⟩
  rcases ht : n.timer_ with _ | timer
  · exact triple_pure fun _ _ h => h.2
  · refine Triple.bind (Q := fun _ => Under G P) (triple_updateNet ?_) fun _ => Triple.pure fun _ hw => hw
    rintro m l ⟨rfl, hm⟩
    exact h m l t.now timer ht hm

theorem updateData_preserves {f : NetData → NetData} (h : ∀ d, Same d (f d)) :
    Preserves (Under G P) (updateData f) X :=
  ⟨triple_updateNet fun n l => hs.data n l (f n.data) (h n.data)⟩

instance {α : Type} (c : Command) (parse : Answer → α) [Preserves (Under G P) (exchange (.other c)) X] :
    Preserves (Under G P) (xE310.ask c parse) X := by
  unfold xE310.ask
  infer_instance

instance (s e : Nat) (r : CsurvResult) [Preserves (Under G P) (exchange (.other .csurv_format)) X]
    [Preserves (Under G P) (exchange (.other (.csurv s e))) X] :
    Preserves (Under G P) (xE310.scan_networks s e r) X := by
  unfold xE310.scan_networks; infer_instance

instance [∀ conn_id n, Preserves (Under G P) (exchange (.other (.udp_receive conn_id n))) X] :
    Preserves (Under G P) receive_data X := by
  have (conn : Nat) (data : Str) : Preserves (Under G P) (updateData fun d =>
      { d with message_queue_ :=
        { d.message_queue_ with rx := (d.message_queue_.rx.push_to DEFAULT_CAPACITY conn data).2 } }) X :=
    updateData_preserves fun _ => {}
  unfold receive_data
  infer_instance

instance [Unqueued P] (conn_id : Nat) (data : Str) : Preserves (Under G P) (tx_write conn_id data) X := by
  unfold tx_write; infer_instance

instance (conn_id : Nat) : Preserves (Under G P) (rx_read conn_id) X := by
  have (rx : Lane) :
      Preserves (Under G P) (updateData fun d => { d with message_queue_ := { d.message_queue_ with rx } }) X :=
    updateData_preserves fun _ => {}
  unfold rx_read
  infer_instance

instance [Preserves (Under G P) (exchange (.other .get_clock)) X] : Preserves (Under G P) refresh_clock X := by
  have (clock : FixedString MODEM_SHORT_STR) :
      Preserves (Under G P) (updateData fun d => { d with modemClock := clock }) X :=
    updateData_preserves fun _ => {}
  unfold refresh_clock
  infer_instance

instance (s e : Nat) [Preserves (Under G P) (exchange (.other .csurv_format)) X]
    [Preserves (Under G P) (exchange (.other (.csurv s e))) X] : Preserves (Under G P) (scan_networks s e) X := by
  have (result : CsurvResult) : Preserves (Under G P) (updateData fun d => { d with csurvResult := result }) X :=
    updateData_preserves fun _ => {}
  unfold scan_networks
  infer_instance

instance : Preserves (Under G P) pop_trace X := by
  have : Preserves (Under G P) (updateData fun d => { d with trace_buffer_ := d.trace_buffer_.tail }) X :=
    updateData_preserves fun _ => {}
  unfold pop_trace
  infer_instance

end Still

section Stable

variable [hs : Stable G P]

instance (c : Command) [hc : Holds (plain c)] : Preserves (Under G P) (exchange (.other c)) X :=
  exchange_preserves fun n l a => hs.other n l c a hc.out

instance (c : Command) [hc : Holds (plain c)] : Preserves (Under G P) (exchange_with_prompt (.other c)) X := by
  have (a : Answer) : Preserves (Under G P) (record (.exchange (.other c) a)) X :=
    ⟨triple_record fun n l => hs.prompt n l c a hc.out⟩
  unfold exchange_with_prompt
  infer_instance

instance : Preserves (Under G P) xE310.get_iot_tech X := by unfold xE310.get_iot_tech; infer_instance
instance (tech : RadioTech) : Preserves (Under G P) (xE310.set_iot_tech tech) X := by
  unfold xE310.set_iot_tech; infer_instance
instance (k : Conn) (data : Str) : Preserves (Under G P) (xE310.udp_send k data) X := by
  unfold xE310.udp_send; infer_instance
instance : Preserves (Under G P) refresh_info X := by
  have (clock : FixedString MODEM_SHORT_STR) (sq : SignalQuality) (oper apn : FixedString MODEM_MEDIUM_STR) :
      Preserves (Under G P) (updateData fun d =>
        { d with
          modemClock := clock
          signalQuality := sq
          regInfo := { d.regInfo with operator_name := oper, apn } }) X :=
    updateData_preserves fun _ => {}
  unfold refresh_info
  infer_instance
instance (b : Bool) [∀ s, Preserves (Under G P) (exchange (.urc s b)) X] :
    Preserves (Under G P) (set_urcs b) X := by
  unfold set_urcs; infer_instance

instance [Unflagged P] (n : Net) : Preserves (Under G P) (set_changed_bands n) X := by
  unfold set_changed_bands; infer_instance
instance [Unflagged P] (n : Net) : Preserves (Under G P) (set_changed_rat n) X := by
  unfold set_changed_rat; infer_instance

instance [Unflagged P] (cid : Nat) (apn : FixedString MODEM_MEDIUM_STR) (tech : RadioTech) (bands : Nat) :
    Preserves (Under G P) (check_attach cid apn tech bands) X := by
  have (apn : FixedString MODEM_MEDIUM_STR) :
      Preserves (Under G P) (updateData fun d => { d with regInfo := { d.regInfo with apn } }) X :=
    updateData_preserves fun _ => {}
  unfold check_attach
  infer_instance

instance [Unqueued P] : Preserves (Under G P) tx_pop_next X := by unfold tx_pop_next; infer_instance

instance (msg : QueueMessage) : Preserves (Under G P) (send_message msg) X := by
  unfold send_message
  cases slot msg.cid <;> dsimp only <;> infer_instance

instance [Preserves (Under G P) tx_pop_next X] (count : Nat) : Preserves (Under G P) (send_messages count) X := by
  induction count with
  | zero => unfold send_messages; infer_instance
  | succ count ih =>
    unfold send_messages
    have (msg : Option QueueMessage) : Preserves (Under G P) (match msg with
        | none => pure ()
        | some msg => do send_message msg; send_messages count) X := by
      cases msg <;> dsimp only <;> infer_instance
    infer_instance

instance [Preserves (Under G P) tx_pop_next X] : Preserves (Under G P) send_data X := by
  unfold send_data; infer_instance
instance [∀ conn_id n, Preserves (Under G P) (exchange (.other (.udp_receive conn_id n))) X] :
    Preserves (Under G P) read_data X := by
  unfold read_data; infer_instance

instance (op : Operator) : Preserves (Under G P) (try_operator op) X := by
  unfold try_operator; infer_instance

instance (ops : List Operator) : Preserves (Under G P) (try_operators ops) X := by
  induction ops with
  | nil => unfold try_operators; infer_instance
  | cons op ops ih => unfold try_operators; infer_instance

instance (c : NetworkLteConfig) [∀ t r, Preserves (Under G P) (start_state_timer t r) X] :
    Preserves (Under G P) (resume_state_timer c) X := by
  unfold resume_state_timer; infer_instance

end Stable

instance [Still G P] [Preserves (Under G P) (exchange (.cfun 4)) X] [Preserves (Under G P) (exchange (.cfun 11)) X] :
    Preserves (Under G P) xE310.shutdown X := by
  unfold xE310.shutdown; infer_instance

/-! ## The lines of the modem -/

/-- The events that lines raise. -/
def ofLine : NetworkLteEvent → Bool
  | .context_closed | .network_detached | .context_rejected | .psm_enter | .data_available | .gps_available => true
  | _ => false

section Lines

variable {I : World → Prop}

theorem handle_urc_preserves [∀ id, Preserves I (updateData fun d => { d with last_data_conn_id_ := id }) X]
    [Preserves I (updateData fun d => { d with nAttachRetries := 0 }) X]
    [Preserves I (call_action .query_pdp_context) X] (urc : Str)
    (he : ∀ e, ofLine e = true → Preserves I (on_event e) X) : Preserves I (handle_urc urc) X := by
  have h1 : Preserves I (on_event .context_closed) X := he _ rfl
  have h2 : Preserves I (on_event .network_detached) X := he _ rfl
  have h3 : Preserves I (on_event .context_rejected) X := he _ rfl
  have h4 : Preserves I (on_event .psm_enter) X := he _ rfl
  have h5 : Preserves I (on_event .data_available) X := he _ rfl
  have h6 : Preserves I (on_event .gps_available) X := he _ rfl
  unfold handle_urc
  infer_instance

instance [∀ urc, Preserves I (handle_urc urc) X] (urcs : List Str) : Preserves I (handle_urcs urcs) X := by
  induction urcs with
  | nil => unfold handle_urcs; infer_instance
  | cons urc urcs ih => unfold handle_urcs; infer_instance

end Lines

/-! ## The functions over ordinary steps -/

section Acting

variable [ha : Acting G P]

instance : Preserves (Under G P) reset_servers X := ⟨triple_updateNet ha.reset⟩
theorem call_action_preserves {a : ModemAction} (h : ∀ n l, P n l → P { n with modem_action_ := a } l) :
    Preserves (Under G P) (call_action a) X :=
  ⟨triple_updateNet fun n l hn =>
    ha.data { n with modem_action_ := a } l (n.call_action a).data {} (h n l hn)⟩
instance (a : ModemAction) [hs : Holds (sparing a)] : Preserves (Under G P) (call_action a) X :=
  call_action_preserves fun n l => ha.action n l a hs.out
instance (a : ModemAction) [hr : Restarting P] : Preserves (Under G P) (call_action a) X := by
  by_cases h : a = .reboot
  · exact h ▸ call_action_preserves hr.restart
  · exact call_action_preserves fun n l => ha.action n l a (by cases a <;> first | rfl | exact absurd rfl h)
instance : Preserves (Under G P) get_action X := ⟨fun _ hw hg => ha.action _ _ .none rfl (hw hg)⟩

instance : Preserves (Under G P) enter_sleep_action X := by unfold enter_sleep_action; infer_instance

instance [Fixless P] [Preserves (Under G P) (exchange (.other .get_gnss_position)) X] :
    Preserves (Under G P) take_fix X := by
  unfold take_fix; infer_instance

theorem sparing_towards {target state : NetworkLteState} {a : ModemAction} (h : towards target state = some a) :
    sparing a = true := by
  cases state <;> simp only [towards] at h <;> split_ifs at h <;> cases h <;> rfl

instance (target state : NetworkLteState) : Preserves (Under G P) (call_towards target state) X := by
  unfold call_towards
  cases h : towards target state with
  | none => infer_instance
  | some a => exact call_action_preserves fun n l => ha.action n l a (sparing_towards h)

end Acting

section Eventful

variable [ho : Eventful G P]

instance (c : NetworkLteConfig) : Preserves (Under G P) (set_lteConfig c) X :=
  ⟨triple_updateNet fun n l => ho.config n l c⟩

theorem on_event_preserves {e : NetworkLteEvent} (he : e ≠ .timeout) :
    Preserves (Under G P) (on_event e) X := by
  have : Preserves (Under G P) (updateNet (Net.on_event e)) X :=
    ⟨triple_updateNet fun _ _ h => ho.data _ _ _ (on_event_same e _) (ho.event _ _ e he h)⟩
  unfold on_event
  infer_instance

instance : Preserves (Under G P) clear_event X :=
  ⟨triple_updateNet fun n l => ho.event n l .none (by decide)⟩
instance : Preserves (Under G P) get_event X := by unfold get_event; infer_instance

instance : Preserves (Under G P) (exchange (.cfun 1)) X :=
  exchange_preserves fun n l a => ho.cfun n l 1 a (by decide)
instance : Preserves (Under G P) (exchange (.cfun 4)) X :=
  exchange_preserves fun n l a => ho.cfun n l 4 a (by decide)

instance (c : Call) (n : Net) : Preserves (Under G P) (record (.called c n)) X :=
  ⟨triple_record fun m l => ho.called m l c n⟩

instance (b : Bool) [∀ s, Preserves (Under G P) (set_last_status s) X]
    [Preserves (Under G P) (exchange (.other (.set_gnss_power b))) X] :
    Preserves (Under G P) (xE310.set_gnss_power b) X := by
  unfold xE310.set_gnss_power; infer_instance
instance (b : Bool) [Preserves (Under G P) (xE310.set_gnss_power true) X] :
    Preserves (Under G P) (switch_on_gnss b) X := by
  unfold switch_on_gnss; infer_instance

instance (status : ModemStatus) : Preserves (Under G P) (check_status_response status) X := by
  have : Preserves (Under G P) (on_event .at_command_no_response) X := on_event_preserves (by decide)
  unfold check_status_response
  infer_instance

instance : Preserves (Under G P) check_last_status X := by
  have : Preserves (Under G P) (on_event .at_command_no_response) X := on_event_preserves (by decide)
  unfold check_last_status
  infer_instance

instance [Uncounted P] (urc : Str) : Preserves (Under G P) (handle_urc urc) X := by
  have (id : Nat) : Preserves (Under G P) (updateData fun d => { d with last_data_conn_id_ := id }) X :=
    updateData_preserves fun _ => {}
  exact handle_urc_preserves urc fun e he => on_event_preserves (by rintro rfl; cases he)

instance (urcs : List Str) : Preserves (Under G P) (record (.polled urcs)) X :=
  ⟨triple_record fun n l => ho.polled n l urcs⟩

instance [Uncounted P] : Preserves (Under G P) poll_urc X := by unfold poll_urc; infer_instance

end Eventful

instance (a : ModemAction) (n : Net) (h : Heard) [ho : Ordinary G P] :
    Preserves (Under G P) (record (.ran a n h)) X :=
  ⟨triple_record fun m l => ho.ran m l a n h⟩

section Routine

variable [hf : Routine G P]

instance (b : Bool) : Preserves (Under G P) (set_fColdBoot b) X := ⟨triple_updateNet fun n l => hf.cold n l b⟩
instance (b : Bool) : Preserves (Under G P) (set_fWarmBoot b) X := ⟨triple_updateNet fun n l => hf.warm n l b⟩
instance (s : ModemStatus) : Preserves (Under G P) (set_last_status s) X :=
  ⟨triple_updateNet fun n l => hf.last_status n l s⟩
instance (s : Subscription) (b : Bool) : Preserves (Under G P) (exchange (.urc s b)) X :=
  exchange_preserves fun n l => hf.urc n l s b
instance (c : NetworkLteConfig) : Preserves (Under G P) (apply_boot_configuration c) X := by
  unfold apply_boot_configuration; infer_instance

instance : Preserves (Under G P) end_loop X := by
  have (n : Net) : Preserves (Under G P) (record (.loopEnd n)) X :=
    ⟨triple_record fun m l => hf.loopEnd m l n⟩
  unfold end_loop
  infer_instance

end Routine

/-! ## The states -/

class Timeless (G : Entry → Prop) (P : Net → List Entry → Prop) : Prop extends Stable G P where
  st_timer : ∀ n l t, P n l → P { n with st_timer := t } l
  timer : ∀ n l t, P n l → P { n with timer_ := t } l
  started : ∀ n l e, G (.started e) → P n l → P n (.started e :: l)

section Timeless

variable [ht : Timeless G P]

instance (t : Nat) (r : Bool) : Preserves (Under G P) (start_state_timer t r) X :=
  ⟨triple_start_state_timer ht.move fun n l _ => ht.st_timer n l _⟩
instance : Preserves (Under G P) stop_state_timer X :=
  ⟨triple_stop_state_timer ht.move fun n l => ht.st_timer n l _⟩

instance [Untimed P] (prev : NetworkLteState) : Preserves (Under G P) (leave_state prev) X := by
  unfold leave_state; infer_instance

instance (s : NetworkLteState) : Preserves (Under G P) (enter_timer s) X := by
  have (e : TimerError) : Preserves (Under G P) (record (.started e)) X :=
    ⟨triple_record fun n l => ht.started n l e⟩
  refine ⟨Triple.bind (Preserves.out (m := net)) fun n => ?_⟩
  rcases entryTimer n.lteConfig s with _ | ⟨timeout_ms, raises⟩ <;> exact Preserves.out

instance (ms : Nat) : Preserves (Under G P) (start_timer ms) X := on_timer_preserves fun n l _ _ _ => ht.timer n l _
instance : Preserves (Under G P) stop_timer X := on_timer_preserves fun n l _ _ _ => ht.timer n l _
instance (ms : Nat) : Preserves (Under G P) (reset_timer ms) X := on_timer_preserves fun n l _ _ _ => ht.timer n l _

end Timeless

instance (s : NetworkLteState) [Acting G P] [Addressless P] [Preserves (Under G P) (enter_timer s) X] :
    Preserves (Under G P) (enter_state s) X := by
  unfold enter_state; infer_instance

theorem enter_state_preserves {s : NetworkLteState} [Timeless G P] (hd : s ≠ .network_detached)
    (hp : s ≠ .pdp_context_closed) : Preserves (Under G P) (enter_state s) X := by
  unfold enter_state
  rw [if_neg hd, if_neg hp]
  infer_instance

theorem triple_change_state {s : NetworkLteState} {Q B C : Net → List Entry → Prop}
    {A : NetworkLteState → Net → List Entry → Prop} [hs : Still G P] [Untimed P]
    (same : ∀ n l, P n l → n.state_ = s → Q n l)
    (set : ∀ n l, P n l → n.state_ ≠ s → A n.state_ (n.enter s) l)
    (leave : ∀ prev, prev ≠ s → Triple (Under G (A prev)) (leave_state prev) (fun _ => Under G B) X)
    (left : ∀ n l, G (.left n) → B n l → C n (.left n :: l))
    (enter : Triple (Under G C) (enter_state s) (fun _ => Under G Q) X) :
    Triple (Under G P) (change_state s) (fun _ => Under G Q) X := by
  refine Triple.bind triple_net fun c => Triple.ite (fun hc => ?_) fun hc => ?_
  · exact triple_pure fun n l h => same n l h.2 (by rw [h.1, hc])
  · refine Triple.bind (Q := fun _ => Under G (A c.state_)) ?_ fun _ => ?_
    · refine triple_pre (P := fun n l => n.state_ = c.state_ ∧ P n l) ?_ ?_
      · exact fun n l h => ⟨by rw [h.1], h.2⟩
      · have : Untimed fun n l => n.state_ = c.state_ ∧ P n l :=
          ⟨fun n l t g h => ⟨h.1, Untimed.times n l t g h.2⟩⟩
        refine Triple.bind (triple_tick ?_) fun t => ?_
        · exact fun n l m h => ⟨by simpa using h.1, hs.move n l m h.2⟩
        · refine Triple.bind (Preserves.out (m := updateNet (Net.stamp t.now))) fun _ => ?_
          refine triple_updateNet fun n l h => ?_
          rw [← h.1]
          exact set n l h.2 (by rw [h.1]; exact Ne.symm hc)
    · refine Triple.bind (leave c.state_ (Ne.symm hc)) fun _ => Triple.bind triple_net fun m => ?_
      refine Triple.bind (Q := fun _ => Under G C) (triple_record ?_) fun _ => enter
      rintro n l hg ⟨rfl, h⟩
      exact left n l hg h

def In (S : NetworkLteState → Prop) (P : Net → List Entry → Prop) (n : Net) (l : List Entry) : Prop :=
  S n.state_ ∧ P n l

section In

variable {S : NetworkLteState → Prop}

instance [h : Blind P] : Blind (In S P) := ⟨fun n l d hn => ⟨hn.1, h.data n l d hn.2⟩⟩
instance [h : Addressless P] : Addressless (In S P) :=
  ⟨fun n l ip hn => ⟨hn.1, h.ip n l ip hn.2⟩, fun n l hn => ⟨hn.1, h.clear n l hn.2⟩⟩
instance [h : Restarting P] : Restarting (In S P) := ⟨fun n l hn => ⟨hn.1, h.restart n l hn.2⟩⟩
instance [h : Untimed P] : Untimed (In S P) := ⟨fun n l t g hn => ⟨hn.1, h.times n l t g hn.2⟩⟩

instance [h : Still G P] : Still G (In S P) where
  move n l m hn := ⟨by simpa using hn.1, h.move n l m hn.2⟩
  data n l d hd hn := ⟨hn.1, h.data n l d hd hn.2⟩

instance [h : Stable G P] : Stable G (In S P) where
  other n l c a hc hg hn := ⟨hn.1, h.other n l c a hc hg hn.2⟩
  prompt n l c a hc hg hn := ⟨hn.1, h.prompt n l c a hc hg hn.2⟩

instance [h : Acting G P] : Acting G (In S P) where
  reset n l hn := ⟨hn.1, h.reset n l hn.2⟩
  action n l a ha hn := ⟨hn.1, h.action n l a ha hn.2⟩

instance [h : Eventful G P] : Eventful G (In S P) where
  config n l c hn := ⟨hn.1, h.config n l c hn.2⟩
  event n l e he hn := ⟨hn.1, h.event n l e he hn.2⟩
  cfun n l i a hi hg hn := ⟨hn.1, h.cfun n l i a hi hg hn.2⟩
  polled n l urcs hg hn := ⟨hn.1, h.polled n l urcs hg hn.2⟩
  called n l c m hg hn := ⟨hn.1, h.called n l c m hg hn.2⟩

instance [h : Ordinary G P] : Ordinary G (In S P) where
  ran n l a b r hg hn := ⟨hn.1, h.ran n l a b r hg hn.2⟩

instance [h : Timeless G P] : Timeless G (In S P) where
  st_timer n l t hn := ⟨hn.1, h.st_timer n l t hn.2⟩
  timer n l t hn := ⟨hn.1, h.timer n l t hn.2⟩
  started n l e hg hn := ⟨hn.1, h.started n l e hg hn.2⟩

theorem triple_change_state_in {s : NetworkLteState} [Timeless G P] [Untimed P] (set : ∀ n l, P n l → P (n.enter s) l)
    (left : ∀ n l, G (.left n) → P n l → P n (.left n :: l))
    [Preserves (Under G (In (· = s) P)) (enter_state s) X] :
    Triple (Under G P) (change_state s) (fun _ => Under G (In (· = s) P)) X := by
  refine triple_change_state (A := fun _ => In (· = s) P) (B := In (· = s) P) (C := In (· = s) P)
    ?_ ?_ ?_ ?_ Preserves.out
  · exact fun n l h hs => ⟨hs, h⟩
  · exact fun n l h _ => ⟨rfl, set n l h⟩
  · exact fun _ _ => Preserves.out
  · exact fun n l hg h => ⟨h.1, left n l hg h.2⟩

end In

/-! ## The functions over change_state -/

/-- A change to any state but `transparent_mode` and `data_ready` keeps `P`. -/
class Changes (G : Entry → Prop) (P : Net → List Entry → Prop) (X : World → Prop) : Prop where
  out : ∀ s, s ≠ .transparent_mode → s ≠ .data_ready → Preserves (Under G P) (change_state s) X

instance [h : ∀ s, Preserves (Under G P) (change_state s) X] : Changes G P X := ⟨fun s _ _ => h s⟩

section Changes

variable [h : Changes G P X]

instance : Preserves (Under G P) (change_state .rebooting) X := h.out _ (by decide) (by decide)
instance : Preserves (Under G P) (change_state .switched_off) X := h.out _ (by decide) (by decide)
instance : Preserves (Under G P) (change_state .off_mode) X := h.out _ (by decide) (by decide)
instance : Preserves (Under G P) (change_state .sleep_mode) X := h.out _ (by decide) (by decide)
instance : Preserves (Under G P) (change_state .idle_mode) X := h.out _ (by decide) (by decide)
instance : Preserves (Under G P) (change_state .network_detached) X := h.out _ (by decide) (by decide)
instance : Preserves (Under G P) (change_state .network_attaching) X := h.out _ (by decide) (by decide)
instance : Preserves (Under G P) (change_state .pdp_context_closed) X := h.out _ (by decide) (by decide)
instance : Preserves (Under G P) (change_state .gnss_fix_mode) X := h.out _ (by decide) (by decide)
instance : Preserves (Under G P) (change_state .done) X := h.out _ (by decide) (by decide)

end Changes

section Events

variable [Acting G P] [Changes G P X]

instance : Preserves (Under G P) on_timeout X := by
  have (s : NetworkLteState) : Preserves (Under G P) (call_action (timeoutAction s)) X := by
    cases s <;> unfold timeoutAction <;> infer_instance
  unfold on_timeout
  infer_instance
instance : Preserves (Under G P) on_detached X := by unfold on_detached; infer_instance

/-- The events whose cases may go to `data_ready`. -/
def connects : NetworkLteEvent → Bool
  | .psm_exit | .context_opened => true
  | _ => false

theorem handle_event_but (e : NetworkLteEvent) [Preserves (Under G P) take_fix X]
    (hc : connects e = true → Preserves (Under G P) (handle_event e) X)
    (hd : e = .data_available → Preserves (Under G P) receive_data X) : Preserves (Under G P) (handle_event e) X := by
  cases e
  case psm_exit => exact hc rfl
  case context_opened => exact hc rfl
  case data_available => exact hd rfl
  all_goals
    unfold handle_event
    infer_instance

theorem handle_event_preserves (e : NetworkLteEvent) [Preserves (Under G P) take_fix X]
    [Preserves (Under G P) (change_state .data_ready) X]
    (hd : e = .data_available → Preserves (Under G P) receive_data X) : Preserves (Under G P) (handle_event e) X := by
  refine handle_event_but e (fun hc => ?_) hd
  have (n : Net) : Preserves (Under G P)
      (change_state (if n.prev_state_ = .data_ready then .data_ready else .idle_mode)) X := by
    split <;> infer_instance
  cases e <;> cases hc <;> unfold handle_event <;> infer_instance

instance (e : NetworkLteEvent) [Preserves (Under G P) take_fix X]
    [Preserves (Under G P) (change_state .data_ready) X]
    [∀ conn_id n, Preserves (Under G P) (exchange (.other (.udp_receive conn_id n))) X] :
    Preserves (Under G P) (handle_event e) X :=
  handle_event_preserves e fun _ => inferInstance

end Events

section Machine

variable [Eventful G P] [CutTo (Under G P) X] [Changes G P X]
variable [∀ s, Preserves (Under G P) (exchange (.urc s true)) X]

instance [Preserves (Under G P) (set_fColdBoot true) X] : Preserves (Under G P) power_on X := by
  have : Preserves (Under G P) (updateData fun d => { d with nNetworkAttempts := 0 }) X :=
    updateData_preserves fun _ => {}
  unfold power_on
  infer_instance

instance : Preserves (Under G P) power_off X := by unfold power_off; infer_instance
instance : Preserves (Under G P) turn_on_radio X := by unfold turn_on_radio; infer_instance
instance [Preserves (Under G P) (set_fWarmBoot true) X] [Preserves (Under G P) (change_state .data_ready) X] :
    Preserves (Under G P) wake_up X := by
  unfold wake_up; infer_instance
instance [Unflagged P] [∀ c, Preserves (Under G P) (apply_boot_configuration c) X]
    [Preserves (Under G P) (call_action .reboot) X] : Preserves (Under G P) setup_radio X := by
  unfold setup_radio; infer_instance

instance : Preserves (Under G P) query_network_status X := by
  have (info : RegistrationInfo) : Preserves (Under G P) (updateData fun d => { d with regInfo := info }) X :=
    updateData_preserves fun _ => {}
  unfold query_network_status
  infer_instance

instance [Preserves (Under G P) count_attach X] : Preserves (Under G P) start_attach X := by
  unfold start_attach; infer_instance
instance [Addressless P] [Preserves (Under G P) (change_state .data_ready) X] :
    Preserves (Under G P) query_pdp_context X := by
  unfold query_pdp_context; infer_instance
instance [Preserves (Under G P) (change_state .data_ready) X] : Preserves (Under G P) open_pdp_context X := by
  unfold open_pdp_context; infer_instance
instance : Preserves (Under G P) leave_transparent_mode_action X := by
  unfold leave_transparent_mode_action; infer_instance
instance [Preserves (Under G P) (xE310.set_gnss_power false) X] : Preserves (Under G P) leave_gnss_fix X := by
  unfold leave_gnss_fix; infer_instance

instance [Unflagged P] [Preserves (Under G P) count_attach X] : Preserves (Under G P) attach_network X := by
  have : Preserves (Under G P) (on_event .attach_error) X := on_event_preserves (by decide)
  unfold attach_network
  infer_instance

instance (fuel : Nat) : Preserves (Under G P) (check_responsiveness fuel) X := by
  induction fuel with
  | zero => unfold check_responsiveness; infer_instance
  | succ fuel ih => unfold check_responsiveness; infer_instance

/-- The actions that may go to `data_ready`. -/
def readies : ModemAction → Bool
  | .wake_up | .query_pdp_context | .open_pdp_context => true
  | _ => false

theorem perform_but (fuel : Nat) [Preserves (Under G P) send_data X] [Preserves (Under G P) leave_gnss_fix X]
    (a : ModemAction) (hc : readies a = true → Preserves (Under G P) (perform fuel a) X)
    (hu : a = .setup_radio → Preserves (Under G P) setup_radio X)
    (hb : a = .power_on → Preserves (Under G P) power_on X)
    (hd : a = .read_data → Preserves (Under G P) read_data X)
    (hn : a = .attach_network → Preserves (Under G P) attach_network X)
    (hr : a = .reboot → Preserves (Under G P) reboot X)
    (ho : a = .switch_off_radio → Preserves (Under G P) switch_off_radio X)
    (ht : a = .enter_transparent_mode → Preserves (Under G P) enter_transparent_mode_action X)
    (hg : a = .enter_gnss_fix → Preserves (Under G P) enter_gnss_fix X) :
    Preserves (Under G P) (perform fuel a) X := by
  cases a
  case wake_up => exact hc rfl
  case query_pdp_context => exact hc rfl
  case open_pdp_context => exact hc rfl
  case setup_radio => exact hu rfl
  case power_on => exact hb rfl
  case read_data => exact hd rfl
  case attach_network => exact hn rfl
  case reboot => exact hr rfl
  case switch_off_radio => exact ho rfl
  case enter_transparent_mode => exact ht rfl
  case enter_gnss_fix => exact hg rfl
  all_goals
    unfold perform
    infer_instance

/-- All actions but those that restart or shut down the modem and those that switch subscriptions off. -/
theorem perform_preserves (fuel : Nat) [Preserves (Under G P) (set_fColdBoot true) X]
    [Preserves (Under G P) (set_fWarmBoot true) X] [Preserves (Under G P) query_pdp_context X]
    [Preserves (Under G P) (change_state .data_ready) X] [Preserves (Under G P) setup_radio X]
    [Preserves (Under G P) send_data X] [Preserves (Under G P) leave_gnss_fix X] (a : ModemAction)
    (hd : a = .read_data → Preserves (Under G P) read_data X)
    (hn : a = .attach_network → Preserves (Under G P) attach_network X)
    (hr : a = .reboot → Preserves (Under G P) reboot X)
    (ho : a = .switch_off_radio → Preserves (Under G P) switch_off_radio X)
    (ht : a = .enter_transparent_mode → Preserves (Under G P) enter_transparent_mode_action X)
    (hg : a = .enter_gnss_fix → Preserves (Under G P) enter_gnss_fix X) :
    Preserves (Under G P) (perform fuel a) X := by
  refine perform_but fuel a (fun hc => ?_) (fun _ => inferInstance) (fun _ => inferInstance) hd hn hr ho ht hg
  cases a <;> cases hc <;> unfold perform <;> infer_instance

instance [Preserves (Under G P) (exchange .reboot) X] : Preserves (Under G P) reboot X := by
  unfold reboot; infer_instance
instance [Preserves (Under G P) (exchange (.cfun 11)) X] : Preserves (Under G P) switch_off_radio X := by
  unfold switch_off_radio; infer_instance
instance [∀ s, Preserves (Under G P) (exchange (.urc s false)) X]
    [Preserves (Under G P) (xE310.set_gnss_power true) X] : Preserves (Under G P) enter_gnss_fix X := by
  unfold enter_gnss_fix; infer_instance
instance [∀ s, Preserves (Under G P) (exchange (.urc s false)) X]
    [Preserves (Under G P) (change_state .transparent_mode) X] :
    Preserves (Under G P) enter_transparent_mode_action X := by
  unfold enter_transparent_mode_action; infer_instance

instance (fuel : Nat) [∀ a n h, Preserves (Under G P) (record (.ran a n h)) X]
    [Preserves (Under G P) (set_fColdBoot true) X] [Preserves (Under G P) (set_fWarmBoot true) X]
    [Preserves (Under G P) query_pdp_context X] [Preserves (Under G P) attach_network X]
    [Preserves (Under G P) (change_state .data_ready) X] [Preserves (Under G P) setup_radio X]
    [Preserves (Under G P) send_data X]
    [Preserves (Under G P) read_data X] [Preserves (Under G P) reboot X] [Preserves (Under G P) switch_off_radio X]
    [Preserves (Under G P) enter_transparent_mode_action X] [Preserves (Under G P) enter_gnss_fix X]
    [Preserves (Under G P) leave_gnss_fix X] : Preserves (Under G P) (execute_actions fuel) X := by
  have (a : ModemAction) : Preserves (Under G P) (perform fuel a) X :=
    perform_preserves fuel a (fun _ => inferInstance) (fun _ => inferInstance) (fun _ => inferInstance)
      (fun _ => inferInstance) (fun _ => inferInstance) fun _ => inferInstance
  unfold execute_actions
  infer_instance

instance [∀ e, Preserves (Under G P) (handle_event e) X] [∀ t h, Preserves (Under G P) (record (.handled t h)) X] :
    Preserves (Under G P) process_event X := by
  unfold process_event; infer_instance

end Machine

/-! ## loop and go_to_state -/

section Loop

variable [Stable G P] [CutTo (Under G P) X] [Preserves (Under G P) poll_urc X]
variable [Preserves (Under G P) check_last_status X] [Preserves (Under G P) process_event X]
variable [∀ fuel, Preserves (Under G P) (execute_actions fuel) X] [Preserves (Under G P) end_loop X]

instance (fuel : Nat) (target : NetworkLteState) : Preserves (Under G P) (loop fuel target) X := by
  unfold loop; infer_instance

instance (fuel : Nat) [Preserves (Under G P) (call_action .leave_transparent_mode) X] :
    Preserves (Under G P) (leave_transparent_mode fuel) X := by
  unfold leave_transparent_mode; infer_instance

end Loop

instance (target : NetworkLteState) (fuel : Nat) [Stable G P] [CutTo (Under G P) X]
    [∀ fuel target, Preserves (Under G P) (loop fuel target) X]
    [∀ target state, Preserves (Under G P) (call_towards target state) X] :
    Preserves (Under G P) (go_to_state target fuel) X := by
  induction fuel with
  | zero => unfold go_to_state; infer_instance
  | succ fuel ih => unfold go_to_state; infer_instance

/-! ## The calls -/

/-- A round of the loop keeps `P`, and so does the way to any state but `done`. -/
class Rounds (G : Entry → Prop) (P : Net → List Entry → Prop) (X : World → Prop) : Prop where
  loop : ∀ fuel, Preserves (Under G P) (loop fuel .none) X
  go_to_state : ∀ s fuel, s ≠ .done → Preserves (Under G P) (go_to_state s fuel) X

instance [hl : ∀ fuel target, Preserves (Under G P) (loop fuel target) X]
    [hg : ∀ target fuel, Preserves (Under G P) (go_to_state target fuel) X] : Rounds G P X :=
  ⟨fun fuel => hl fuel .none, fun s fuel _ => hg s fuel⟩

section Calls

variable [Stable G P] [CutTo (Under G P) X] [h : Rounds G P X]

instance (fuel : Nat) : Preserves (Under G P) (loop fuel .none) X := h.loop fuel
instance (fuel : Nat) : Preserves (Under G P) (go_to_state .data_ready fuel) X := h.go_to_state _ fuel (by decide)
instance (fuel : Nat) : Preserves (Under G P) (go_to_state .sleep_mode fuel) X := h.go_to_state _ fuel (by decide)
instance (fuel : Nat) : Preserves (Under G P) (go_to_state .transparent_mode fuel) X :=
  h.go_to_state _ fuel (by decide)
instance (fuel : Nat) : Preserves (Under G P) (go_to_state .idle_mode fuel) X := h.go_to_state _ fuel (by decide)
instance (fuel : Nat) : Preserves (Under G P) (go_to_state .modem_fota fuel) X := h.go_to_state _ fuel (by decide)
instance (fuel : Nat) : Preserves (Under G P) (go_to_state .setup_mode fuel) X := h.go_to_state _ fuel (by decide)
instance (fuel : Nat) : Preserves (Under G P) (go_to_state .gnss_fix_mode fuel) X :=
  h.go_to_state _ fuel (by decide)

instance (fuel : Nat) : Preserves (Under G P) (wait_for_fix fuel) X := by
  induction fuel with
  | zero => unfold wait_for_fix; infer_instance
  | succ fuel ih => unfold wait_for_fix; infer_instance

instance (fuel : Nat) : Preserves (Under G P) (network_connect fuel) X := by
  unfold network_connect; infer_instance
instance [Preserves (Under G P) (change_state .network_detached) X] :
    Preserves (Under G P) network_disconnect X := by
  unfold network_disconnect; infer_instance
instance (fuel : Nat) : Preserves (Under G P) (enter_sleep fuel) X := by unfold enter_sleep; infer_instance
instance (fuel : Nat) : Preserves (Under G P) (enter_transparent_mode fuel) X := by
  unfold enter_transparent_mode; infer_instance
instance (fuel : Nat) : Preserves (Under G P) (exit_transparent_mode fuel) X := by
  unfold exit_transparent_mode; infer_instance
instance (fuel : Nat) [Preserves (Under G P) (set_fColdBoot true) X] :
    Preserves (Under G P) (update_modem fuel) X := by
  unfold update_modem; infer_instance
instance (fuel : Nat) : Preserves (Under G P) (acquire_gnss_position fuel) X := by
  unfold acquire_gnss_position; infer_instance

theorem exec_preserves (fuel : Nat) [∀ c, Preserves (Under G P) (set_lteConfig c) X]
    [Preserves (Under G P) (update_modem fuel) X] [Preserves (Under G P) force_psm X]
    [Preserves (Under G P) (leave_transparent_mode fuel) X]
    [∀ k protocol ip port, Preserves (Under G P) (new_connection k protocol ip port) X]
    [∀ k protocol ip port, Preserves (Under G P) (server_connect k protocol ip port) X]
    [∀ k, Preserves (Under G P) (server_disconnect k) X]
    [∀ conn_id data, Preserves (Under G P) (tx_write conn_id data) X]
    [∀ ms, Preserves (Under G P) (start_timer ms) X]
    [Preserves (Under G P) stop_timer X] [∀ ms, Preserves (Under G P) (reset_timer ms) X] (c : Call)
    (hl : ∀ target, c = .loop target → Preserves (Under G P) (loop fuel target) X)
    (hr : ∀ k, c = .set_attach_retries k →
      Preserves (Under G P) (updateData fun d => { d with nAttachRetries := k }) X)
    (hd : c = .network_disconnect → Preserves (Under G P) network_disconnect X)
    (hs : ∀ command, c = .send_at_command command → Preserves (Under G P) (send_at_command command) X)
    (ha : ∀ action, c = .call_action action → Preserves (Under G P) (call_action action) X) :
    Preserves (Under G P) (c.exec fuel) X := by
  have (n : Nat) : Preserves (Under G P) (updateData fun d => { d with nNetworkAttempts := n }) X :=
    updateData_preserves fun _ => {}
  have (n : Nat) : Preserves (Under G P) (updateData fun d => { d with nPdpRetries := n }) X :=
    updateData_preserves fun _ => {}
  cases c
  case loop target =>
    have := hl target rfl
    unfold Call.exec void
    infer_instance
  case set_attach_retries k => exact hr k rfl
  case network_disconnect =>
    have := hd rfl
    unfold Call.exec void
    infer_instance
  case send_at_command command =>
    have := hs command rfl
    unfold Call.exec void
    infer_instance
  case call_action action => exact ha action rfl
  all_goals
    unfold Call.exec
    first | infer_instance | (unfold void; infer_instance)

end Calls

/-! ## The servers -/

section Servers

variable [Still G P] [∀ conn_id, Preserves (Under G P) (exchange (.udp_status conn_id)) X]
variable [∀ conn_id host r p, Preserves (Under G P) (exchange (.udp_open conn_id host r p)) X]
variable [∀ conn_id, Preserves (Under G P) (exchange (.udp_close conn_id)) X]
variable [∀ k f, Preserves (Under G P) (update_server k f) X]
variable [∀ opened, Preserves (Under G P) (record (.resumed opened)) X]

instance (k : Conn) (protocol ip port : Str) : Preserves (Under G P) (new_connection k protocol ip port) X := by
  unfold new_connection; infer_instance
instance (k : Conn) (protocol ip : Str) (port : Nat) :
    Preserves (Under G P) (server_open k protocol ip port) X := by
  unfold server_open; infer_instance
instance (k : Conn) (protocol ip : Str) (port : Nat) :
    Preserves (Under G P) (server_connect k protocol ip port) X := by
  unfold server_connect xE310.udp_status; infer_instance
instance (k : Conn) : Preserves (Under G P) (server_disconnect k) X := by
  unfold server_disconnect; infer_instance

end Servers

instance [Stable G P] (command : Str) [Preserves (Under G P) (exchange (.raw command)) X] :
    Preserves (Under G P) (send_at_command command) X := by
  unfold send_at_command; infer_instance

/-! ## Runs about which nothing is known -/

/-- The run is unconstrained. -/
abbrev Always (_ : Entry) : Prop := True

def Whatever (_ : Net) (_ : List Entry) : Prop := True

instance : Blind Whatever := ⟨fun _ _ _ h => h⟩
instance : Restarting Whatever := ⟨fun _ _ h => h⟩

instance : Free G Whatever where
  move _ _ _ h := h
  data _ _ _ _ h := h
  last_status _ _ _ h := h
  other _ _ _ _ _ _ h := h
  prompt _ _ _ _ _ _ h := h
  cold _ _ _ h := h
  warm _ _ _ h := h
  config _ _ _ h := h
  reset _ _ h := h
  action _ _ _ _ h := h
  event _ _ _ _ h := h
  urc _ _ _ _ _ _ h := h
  cfun _ _ _ _ _ _ h := h
  ran _ _ _ _ _ _ h := h
  polled _ _ _ _ h := h
  loopEnd _ _ _ _ h := h
  called _ _ _ _ _ h := h

instance : Timeless G Whatever where
  st_timer _ _ _ h := h
  timer _ _ _ h := h
  started _ _ _ _ h := h

section Whatever

variable {S : NetworkLteState → Prop}

instance (cmd : AtCmd) : Preserves (Under G (In S Whatever)) (exchange cmd) X :=
  exchange_preserves fun _ _ _ _ h => h
instance (k : Conn) (f : ServerInfo → ServerInfo) :
    Preserves (Under G (In S Whatever)) (update_server k f) X :=
  ⟨triple_updateNet fun _ _ h => h⟩
instance (opened : Option ModemStatus) : Preserves (Under G (In S Whatever)) (record (.resumed opened)) X :=
  ⟨triple_record fun _ _ _ h => h⟩

end Whatever

instance (cmd : AtCmd) : Preserves (Under G Whatever) (exchange cmd) X :=
  exchange_preserves fun _ _ _ _ h => h
instance (s : NetworkLteState) : Preserves (Under G Whatever) (change_state s) X :=
  ⟨triple_post (fun _ _ _ _ => trivial) (triple_change_state_in (fun _ _ h => h) fun _ _ _ h => h)⟩

theorem triple_whatever {α : Type} {m : Prog World α} {R : α → Net → List Entry → Prop}
    [h : Preserves (Under G Whatever) m X] (hr : ∀ a n l, R a n l) :
    Triple (Under G P) m (fun a => Under G (R a)) X :=
  triple_pre (fun _ _ _ => trivial) (triple_post (fun a n l _ => hr a n l) h.out)

/-! ## What the log keeps -/

/-- No entry takes `B` back. -/
class Lasting (B : List Entry → Prop) : Prop where
  cons : ∀ e l, B l → B (e :: l)

/-- The log meets `B`, whatever the machine does. -/
def Past (B : List Entry → Prop) (_ : Net) (l : List Entry) : Prop := B l

section Past

variable {B : List Entry → Prop} [hb : Lasting B]

instance (f : Net → Net) : Preserves (Under G (Past B)) (updateNet f) X := ⟨triple_updateNet fun _ _ h => h⟩
instance (e : Entry) : Preserves (Under G (Past B)) (record e) X := ⟨triple_record fun _ _ _ => hb.cons _ _⟩

instance : Blind (Past B) := ⟨fun _ _ _ h => h⟩
instance : Restarting (Past B) := ⟨fun _ _ h => h⟩

instance : Free G (Past B) where
  move _ _ _ h := h
  data _ _ _ _ h := h
  last_status _ _ _ h := h
  other _ _ _ _ _ _ := hb.cons _ _
  prompt _ _ _ _ _ _ := hb.cons _ _
  cold _ _ _ h := h
  warm _ _ _ h := h
  config _ _ _ h := h
  reset _ _ h := h
  action _ _ _ _ h := h
  event _ _ _ _ h := h
  urc _ _ _ _ _ _ := hb.cons _ _
  cfun _ _ _ _ _ _ := hb.cons _ _
  ran _ _ _ _ _ _ := hb.cons _ _
  polled _ _ _ _ := hb.cons _ _
  loopEnd _ _ _ _ := hb.cons _ _
  called _ _ _ _ _ := hb.cons _ _

instance (cmd : AtCmd) : Preserves (Under G (Past B)) (exchange cmd) X :=
  exchange_preserves fun _ _ _ _ => hb.cons _ _
instance : Timeless G (Past B) where
  st_timer _ _ _ h := h
  timer _ _ _ h := h
  started _ _ _ _ := hb.cons _ _

instance (e : NetworkLteEvent) : Preserves (Under G (Past B)) (on_event e) X := by
  unfold on_event; infer_instance
instance (s : NetworkLteState) : Preserves (Under G (Past B)) (set_state s) X := by
  unfold set_state; infer_instance
instance (s : NetworkLteState) : Preserves (Under G (Past B)) (change_state s) X := by
  unfold change_state; infer_instance

instance [CutTo (Under G (Past B)) X] (fuel : Nat) (a : ModemAction) :
    Preserves (Under G (Past B)) (perform fuel a) X :=
  perform_preserves fuel a (fun _ => inferInstance) (fun _ => inferInstance) (fun _ => inferInstance)
    (fun _ => inferInstance) (fun _ => inferInstance) fun _ => inferInstance

end Past

/-! ## Runs that left the condition -/

/-- Some entry of the log does not meet the condition, which no step takes back. -/
abbrev Never : Net → List Entry → Prop := Past fun _ => False

instance : Lasting fun _ => False := ⟨fun _ _ h => h⟩

instance : CutTo (Under G Never) (Under G P) := ⟨fun _ => Under.mono fun _ _ h => h.elim⟩

theorem triple_absurd {α : Type} {m : Prog World α} {Q : α → Net → List Entry → Prop}
    [h : Preserves (Under G Never) m X] (hp : ∀ n l, ¬ P n l) :
    Triple (Under G P) m (fun a => Under G (Q a)) X :=
  triple_pre hp (triple_post (fun _ _ _ h => h.elim) h.out)

theorem triple_fact {α : Type} {m : Prog World α} {Q : α → Net → List Entry → Prop} {F : Prop}
    [Preserves (Under G Never) m X] (h : F → Triple (Under G P) m (fun a => Under G (Q a)) X) :
    Triple (Under G fun n l => F ∧ P n l) m (fun a => Under G (Q a)) X := by
  by_cases hf : F
  · exact triple_pre (fun _ _ h => h.2) (h hf)
  · exact triple_absurd fun _ _ h => hf h.1

theorem triple_net_of {α : Type} {f : Net → Prog World α} {Q : α → Net → List Entry → Prop} {F : Net → Prop}
    [∀ n, Preserves (Under G Never) (f n) X] (hf : ∀ n l, P n l → F n)
    (h : ∀ n, F n → Triple (Under G P) (f n) (fun a => Under G (Q a)) X) :
    Triple (Under G P) (net >>= f) (fun a => Under G (Q a)) X := by
  refine Triple.bind triple_net fun n => triple_pre (P := fun m l => F n ∧ P m l) ?_ (triple_fact (h n))
  rintro _ l ⟨rfl, hn⟩
  exact ⟨hf _ l hn, hn⟩

theorem change_state_same {s : NetworkLteState} (hp : ∀ n l, P n l → n.state_ = s) :
    Triple (Under G P) (change_state s) (fun _ => Under G P) X := by
  refine triple_net_of (F := fun n => n.state_ = s) hp fun n hn => ?_
  exact Triple.ite (fun _ => triple_pure fun _ _ h => h) fun hs => absurd hn.symm hs

theorem triple_called {c : Call} {fuel : Nat} {Q R : Net → List Entry → Prop}
    (h : ∀ n l, G (.called c n) → P n l → Q n (.called c n :: l))
    (hc : Triple (Under G Q) (c.exec fuel) (fun _ => Under G R) X) :
    Triple (Under G P) (do let n ← net; record (.called c n); c.exec fuel) (fun _ => Under G R) X := by
  refine Triple.bind triple_net fun n => Triple.bind (triple_record ?_) fun _ => hc
  rintro m l hg ⟨rfl, hm⟩
  exact h m l hg hm

theorem run_preserves {I X : World → Prop} (fuel : Nat)
    (h : ∀ c, Preserves I (do let n ← net; record (.called c n); c.exec fuel) X) (calls : List Call) :
    Preserves I (run fuel calls) X := by
  induction calls with
  | nil => unfold run; infer_instance
  | cons c calls ih =>
    unfold run
    exact ⟨fun w hw => Triple.bind (h c).out (fun _ => ih.out) w hw⟩

end Functions

end LteModem.NetworkLte
