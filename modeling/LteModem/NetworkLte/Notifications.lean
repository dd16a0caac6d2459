import LteModem.NetworkLte.Urcs

/-!
# The data that a batch announces

Every `SRING:` line of a batch writes the one slot `event_` and the one `last_data_conn_id_`, and the
other lines and the timer thread write `event_` too. So a loop asks for the data of at most one line,
the last one that raises an event, and of the configured connection where `read_data` is pending.
-/

open Prog Strings

set_option synthInstance.maxSize 100000

namespace LteModem.NetworkLte.Notifications

/-- The connections that the machine asked for data, the newest first. -/
def received (l : List Entry) : List Nat :=
  l.filterMap fun
    | .exchange (.other (.udp_receive conn_id _)) _ => some conn_id
    | _ => none

/-- The lines that a loop from here polls. -/
abbrev batch (w : World) : List Str := (w.env w.clock).urcs

/-- The text `SRING: k`, whatever follows the number. -/
def Sring (k : Nat) (urc : Str) : Prop :=
  ∃ blanks rest, urc = "SRING:".toList ++ List.replicate blanks ' ' ++ decimal k ++ rest ∧
    ∀ c ∈ rest.head?, isDigit c = false

def Named (urcs : List Str) (k : Nat) : Prop := 1 ≤ k ∧ k ≤ MAX_CONNECTIONS ∧ ∃ urc ∈ urcs, Sring k urc

def Urc.event? : Urc → Option NetworkLteEvent
  | .raises e => some e
  | .data _ => some .data_available
  | _ => none

/-- The lines of a batch that raise an event. -/
def raising (urcs : List Str) : List Urc := (urcs.map readUrc).filter fun u => (Urc.event? u).isSome

/-! ## Reading the lines -/

theorem dropWhile_blanks (blanks : Nat) {c : Char} (hc : c ≠ ' ') (s : Str) :
    (List.replicate blanks ' ' ++ c :: s).dropWhile (· = ' ') = c :: s := by
  induction blanks with
  | zero => simp [hc]
  | succ blanks ih => simpa [List.replicate_succ] using ih

theorem readUrc_sring (s : Str) :
    readUrc ("SRING:".toList ++ s) =
      if s.dropWhile (· = ' ') = [] then .nothing
      else .data (toUInt8 (atoi (cstr (s.dropWhile (· = ' '))))) := by
  simp [readUrc]

theorem readUrc_of_sring {k : Nat} {urc : Str} (hk : k ≤ MAX_CONNECTIONS) (h : Sring k urc) :
    readUrc urc = .data k := by
  obtain ⟨blanks, rest, rfl, hr⟩ := h
  have hk : k < 10 := Nat.lt_of_le_of_lt hk (by decide)
  have hd : (Nat.digitChar k).toNat = 48 + k := Nat.toNat_digitChar_of_lt_ten hk
  have hc : isDigit (Nat.digitChar k) = true := by simp [isDigit, hd]; omega
  have hb : Nat.digitChar k ≠ ' ' := fun hb => by simp [hb, isDigit] at hc
  have ha : toUInt8 ((Nat.digitChar k).toNat - 48 : Nat) = k := by simp [hd, toUInt8]; omega
  rw [List.append_assoc, List.append_assoc, readUrc_sring, decimal, Nat.toDigits_of_lt_base hk,
    List.singleton_append, dropWhile_blanks blanks hb, if_neg (by simp), atoi_digit hc hr, ha]

/-! ## The timer thread -/

/-- The machine after `k` ticks in which only the timer thread worked. -/
def idle (w : World) : Nat → Net
  | 0 => w.net
  | k + 1 => (w.env (w.clock + k)).moves.foldl Net.move (idle w k)

/-- One of the steps runs a callback, which raises the timeout. -/
def fires : Net → List Net.Move → Bool
  | _, [] => false
  | n, .callback i :: moves => i < n.callbacks.length || fires (n.move (.callback i)) moves
  | n, m :: moves => fires (n.move m) moves

/-- Between the last line that raises an event and the read of `event_`, a callback runs. -/
def overtaken (w : World) : Bool :=
  let k := (raising (batch w)).length
  fires (idle w (k + 1)) (w.env (w.clock + (k + 1))).moves

structure SameTimers (n m : Net) : Prop where
  st_timer : n.st_timer = m.st_timer
  timer_ : n.timer_ = m.timer_
  callbacks : n.callbacks = m.callbacks

theorem SameTimers.move {n m : Net} (h : SameTimers n m) (v : Net.Move) : SameTimers (n.move v) (m.move v) := by
  obtain ⟨hs, ht, hc⟩ := h
  cases v with
  | expire_state_timer => simp only [Net.move, Net.put, hs, hc]; exact ⟨rfl, ht, rfl⟩
  | expire_timer =>
    simp only [Net.move, Net.put, ht, hc]
    cases m.timer_ with
    | none => exact ⟨hs, ht, hc⟩
    | some t => exact ⟨hs, rfl, rfl⟩
  | callback i =>
    simp only [Net.move, hc]
    cases m.callbacks[i]? with
    | none => exact ⟨hs, ht, hc⟩
    | some cb => exact ⟨hs, ht, rfl⟩

theorem SameTimers.moves {n m : Net} (h : SameTimers n m) (moves : List Net.Move) :
    SameTimers (moves.foldl Net.move n) (moves.foldl Net.move m) := by
  induction moves generalizing n m with
  | nil => exact h
  | cons v moves ih => exact ih (h.move v)

theorem SameTimers.fires {n m : Net} (h : SameTimers n m) (moves : List Net.Move) :
    fires n moves = fires m moves := by
  induction moves generalizing n m with
  | nil => rfl
  | cons v moves ih =>
    cases v with
    | callback i => simp only [Notifications.fires, h.callbacks, ih (h.move (.callback i))]
    | _ => exact ih (h.move _)

theorem move_callback (n : Net) (i : Nat) :
    (n.move (.callback i)).event_ = if i < n.callbacks.length then .timeout else n.event_ := by
  unfold Net.move
  dsimp only
  split
  · next h => rw [if_neg (by simpa using h)]
  · next cb h => rw [if_pos (List.getElem?_eq_some_iff.mp h).1]; rfl

theorem moves_event_ (n : Net) (moves : List Net.Move) :
    (moves.foldl Net.move n).event_ = if fires n moves then .timeout else n.event_ := by
  induction moves generalizing n with
  | nil => rfl
  | cons v moves ih =>
    rw [List.foldl_cons, ih]
    cases v with
    | callback i =>
      rw [move_callback]
      by_cases hi : i < n.callbacks.length <;> simp [fires, hi]
    | expire_state_timer => rfl
    | expire_timer =>
      have he : (n.move .expire_timer).event_ = n.event_ := by
        unfold Net.move Net.put
        dsimp only
        split <;> rfl
      rw [he]
      rfl

theorem moves_conn_id (n : Net) (moves : List Net.Move) :
    (moves.foldl Net.move n).data.last_data_conn_id_ = n.data.last_data_conn_id_ := by
  refine Net.moves_keep (f := fun n => n.data.last_data_conn_id_) (fun n m => ?_) moves n
  unfold Net.move Net.put
  split
  · rfl
  · split <;> rfl
  · split <;> rfl

/-! ## The batch -/

/-- The loop in `data_ready`, `k` ticks after its start in `w₀`, with the action `a` pending. -/
structure Within (w₀ : World) (k : Nat) (a : ModemAction) (w : World) : Prop where
  env : w.env = w₀.env
  clock : w.clock = w₀.clock + k
  timers : SameTimers w.net (idle w₀ k)
  state : w.net.state_ = .data_ready
  action : w.net.modem_action_ = a
  config : w.net.lteConfig = w₀.net.lteConfig
  status : w.net.last_status_ ≠ .timeout
  received : received w.log = []

section Batch

variable {w₀ : World} {k : Nat} {a : ModemAction} {X : World → Prop}

theorem Within.tick {w : World} (h : Within w₀ k a w) : Within w₀ (k + 1) a (tick w).2 := by
  let Kept (n : Net) (_ : List Entry) : Prop :=
    n.state_ = .data_ready ∧ n.modem_action_ = a ∧ n.lteConfig = w₀.net.lteConfig ∧ n.last_status_ ≠ .timeout
  have hk : Kept ((w.env w.clock).moves.foldl Net.move w.net) w.log :=
    foldl_move (fun n l m hn => by simpa [Kept] using hn) _ _ _ ⟨h.state, h.action, h.config, h.status⟩
  refine ⟨h.env, ?_, ?_, hk.1, hk.2.1, hk.2.2.1, hk.2.2.2, h.received⟩
  · simp [NetworkLte.tick, h.clock, Nat.add_assoc]
  · simp only [NetworkLte.tick, h.env, h.clock]
    exact h.timers.moves _

/-- The event and the connection are those of the line. -/
def Pending (e : NetworkLteEvent) (id : Nat) : Urc → Prop
  | .raises f => e = f
  | .data conn_id => e = .data_available ∧ id = conn_id
  | _ => True

def registers (urcs : List Str) : Bool := urcs.any fun urc => readUrc urc = .registered

def pending (w₀ : World) (seen : List Str) : ModemAction :=
  if registers seen then .query_pdp_context else w₀.net.modem_action_

/-- The last line that raises an event. -/
def last (urcs : List Str) : Urc := (raising urcs).getLastD .nothing

/-- After these lines of the batch. -/
def After (w₀ : World) (seen : List Str) (w : World) : Prop :=
  Within w₀ ((raising seen).length + 1) (pending w₀ seen) w ∧
    Pending w.net.event_ w.net.data.last_data_conn_id_ (last seen)

theorem raising_concat (seen : List Str) (urc : Str) :
    raising (seen ++ [urc]) =
      raising seen ++ if (Urc.event? (readUrc urc)).isSome then [readUrc urc] else [] := by
  simp [raising, List.filter_cons]

theorem registers_concat (seen : List Str) (urc : Str) :
    registers (seen ++ [urc]) = (registers seen || decide (readUrc urc = .registered)) := by
  simp [registers]

theorem Within.put {w : World} (h : Within w₀ k a w) (e : NetworkLteEvent) (d : NetData) :
    Within w₀ k a { w with net := { w.net with event_ := e, data := d } } :=
  ⟨h.env, h.clock, ⟨h.timers.st_timer, h.timers.timer_, h.timers.callbacks⟩, h.state, h.action, h.config,
    h.status, h.received⟩

theorem Within.call {w : World} (h : Within w₀ k a w) (b : ModemAction) :
    Within w₀ k b { w with net := { w.net with modem_action_ := b } } :=
  ⟨h.env, h.clock, ⟨h.timers.st_timer, h.timers.timer_, h.timers.callbacks⟩, h.state, rfl, h.config,
    h.status, h.received⟩

theorem Within.on_event {w : World} (h : Within w₀ k a w) (e : NetworkLteEvent) :
    Within w₀ (k + 1) a (on_event e w).2 :=
  h.tick.put e _

theorem on_event_conn_id (e : NetworkLteEvent) (n : Net) :
    (n.on_event e).data.last_data_conn_id_ = n.data.last_data_conn_id_ := by
  unfold Net.on_event
  dsimp only
  split <;> rfl

theorem handle_spec (seen : List Str) (urc : Str) :
    Triple (After w₀ seen) (readUrc urc).handle (fun _ => After w₀ (seen ++ [urc])) X := by
  unfold After last pending
  rw [raising_concat, registers_concat]
  rintro w ⟨hw, hp⟩
  cases hu : readUrc urc with
  | registered =>
    simp only [Urc.event?, Option.isSome_none, Bool.false_eq_true, if_false, List.append_nil, decide_true,
      Bool.or_true, if_true]
    exact ⟨(hw.call .query_pdp_context).put w.net.event_ _, hp⟩
  | raises e =>
    simp only [Urc.event?, Option.isSome_some, if_true, List.length_append, List.length_singleton, reduceCtorEq,
      decide_false, Bool.or_false, List.getLastD_concat]
    exact ⟨hw.on_event e, rfl⟩
  | data conn_id =>
    simp only [Urc.event?, Option.isSome_some, if_true, List.length_append, List.length_singleton, reduceCtorEq,
      decide_false, Bool.or_false, List.getLastD_concat]
    have hd := hw.put w.net.event_ { w.net.data with last_data_conn_id_ := conn_id }
    refine ⟨hd.on_event .data_available, rfl, ?_⟩
    exact (on_event_conn_id .data_available _).trans (moves_conn_id _ _)
  | nothing =>
    simp only [Urc.event?, Option.isSome_none, Bool.false_eq_true, if_false, List.append_nil, reduceCtorEq,
      decide_false, Bool.or_false]
    exact ⟨hw, hp⟩

theorem handle_urcs_spec (seen urcs : List Str) :
    Triple (After w₀ seen) (handle_urcs urcs) (fun _ => After w₀ (seen ++ urcs)) X := by
  induction urcs generalizing seen with
  | nil => exact Triple.pure fun w hw => by simpa using hw
  | cons urc urcs ih =>
    have hs := ih (seen ++ [urc])
    rw [List.append_assoc] at hs
    have hu : Triple (After w₀ seen) (readUrc urc).handle (fun _ => After w₀ (seen ++ [urc])) X :=
      handle_spec seen urc
    rw [← handle_urc_eq] at hu
    exact Triple.bind hu fun _ => hs

theorem poll_urc_spec :
    Triple (Within w₀ 0 w₀.net.modem_action_) poll_urc (fun _ => After w₀ (batch w₀)) X := by
  refine Triple.bind
    (Q := fun n w => n.state_ = .data_ready ∧ Within w₀ 0 w₀.net.modem_action_ w) ?_ fun n => ?_
  · exact fun w hw => ⟨hw.state, hw⟩
  refine Triple.ite (fun _ => ?_) fun hn => ?_
  · refine Triple.bind (Q := fun t w => t = w₀.env w₀.clock ∧ Within w₀ 1 w₀.net.modem_action_ w) ?_ fun t => ?_
    · rintro w ⟨-, hw⟩
      refine ⟨?_, hw.tick⟩
      rw [hw.env, hw.clock, Nat.add_zero]
    · refine Triple.bind (Q := fun _ w => t = w₀.env w₀.clock ∧ After w₀ [] w) ?_ fun _ => ?_
      · rintro w ⟨ht, hw⟩
        refine ⟨ht, ⟨hw.env, hw.clock, hw.timers, hw.state, hw.action, hw.config, hw.status, ?_⟩, trivial⟩
        exact hw.received
      · rintro w ⟨rfl, hw⟩
        exact handle_urcs_spec [] _ w hw
  · rintro w ⟨hs, -⟩
    simp [hs] at hn

theorem check_last_status_spec (urcs : List Str) :
    Triple (After w₀ urcs) check_last_status (fun _ => After w₀ urcs) X := by
  refine Triple.bind (Q := fun n w => n.last_status_ ≠ .timeout ∧ After w₀ urcs w) ?_ fun n => ?_
  · exact fun w hw => ⟨hw.1.status, hw⟩
  · refine Triple.ite (fun hn => ?_) fun _ => Triple.pure fun _ hw => hw.2
    rintro w ⟨hs, -⟩
    exact absurd hn hs

/-- The line whose event the loop takes; the timeout counts as one. -/
def heard (w : World) : Urc := if overtaken w then .raises .timeout else last (batch w)

theorem get_event_spec :
    Triple (After w₀ (batch w₀)) get_event
      (fun t w => Within w₀ ((raising (batch w₀)).length + 3) (pending w₀ (batch w₀)) w ∧
        Pending t.event w.net.data.last_data_conn_id_ (heard w₀)) X := by
  rintro w ⟨hw, hp⟩
  have hf : fires w.net (w.env w.clock).moves = overtaken w₀ := by
    rw [hw.timers.fires, hw.env, hw.clock]
    rfl
  have hc : (tick (tick w).2).2.net.data.last_data_conn_id_ = w.net.data.last_data_conn_id_ :=
    (moves_conn_id _ _).trans (moves_conn_id _ _)
  refine ⟨hw.tick.tick.put .none _, ?_⟩
  change Pending ((w.env w.clock).moves.foldl Net.move w.net).event_
    (tick (tick w).2).2.net.data.last_data_conn_id_ (heard w₀)
  rw [moves_event_, hf, hc, heard]
  cases overtaken w₀
  · exact hp
  · rfl

end Batch

/-! ## The steps that ask for no data -/

theorem received_plain {c : Command} (hc : plain c = true) (a : Answer) (l : List Entry) :
    received (.exchange (.other c) a :: l) = received l := by
  cases c <;> first | rfl | cases hc

def Only (ids : List Nat) (_ : Net) (l : List Entry) : Prop := received l = ids

def Silent (c : NetworkLteConfig) (ids : List Nat) (n : Net) (l : List Entry) : Prop :=
  n.lteConfig = c ∧ Only ids n l

def Calling (c : NetworkLteConfig) (ids : List Nat) (a : ModemAction) (n : Net) (l : List Entry) : Prop :=
  n.modem_action_ = a ∧ Silent c ids n l

section Steps

variable {c : NetworkLteConfig} {ids : List Nat} {a : ModemAction} {X : World → Prop}

instance : Blind (Only ids) := ⟨fun _ _ _ h => h⟩
instance : Restarting (Only ids) := ⟨fun _ _ h => h⟩
instance : Blind (Silent c ids) := ⟨fun _ _ _ h => h⟩
instance : Restarting (Silent c ids) := ⟨fun _ _ h => h⟩
instance : Blind (Calling c ids a) := ⟨fun _ _ _ h => h⟩

instance : Free Always (Only ids) where
  move _ _ _ h := h
  data _ _ _ _ h := h
  last_status _ _ _ h := h
  other _ l _ a hc _ h := (received_plain hc a l).trans h
  prompt _ l _ a hc _ h := (received_plain hc a l).trans h
  cold _ _ _ h := h
  warm _ _ _ h := h
  config _ _ _ h := h
  reset _ _ h := h
  action _ _ _ _ h := h
  event _ _ _ _ h := h
  urc _ _ _ _ _ _ h := h
  cfun _ _ _ _ _ _ h := h
  ran _ _ _ _ _ _ h := h
  polled _ _ _ _ h := h
  loopEnd _ _ _ _ h := h
  called _ _ _ _ _ h := h

instance : Timeless Always (Only ids) where
  st_timer _ _ _ h := h
  timer _ _ _ h := h
  started _ _ _ _ h := h

instance : Acting Always (Silent c ids) where
  move _ _ m h := ⟨by simpa using h.1, h.2⟩
  data _ _ _ _ h := h
  other _ l _ a hc _ h := ⟨h.1, (received_plain hc a l).trans h.2⟩
  prompt _ l _ a hc _ h := ⟨h.1, (received_plain hc a l).trans h.2⟩
  reset _ _ h := h
  action _ _ _ _ h := h

instance : Timeless Always (Silent c ids) where
  st_timer _ _ _ h := h
  timer _ _ _ h := h
  started _ _ _ _ h := h

instance : Timeless Always (Calling c ids a) where
  move n l m h := ⟨by simpa using h.1, Still.move Always n l m h.2⟩
  data _ _ _ _ h := h
  other n l d b hd hg h := ⟨h.1, Stable.other n l d b hd hg h.2⟩
  prompt n l d b hd hg h := ⟨h.1, Stable.prompt n l d b hd hg h.2⟩
  st_timer _ _ _ h := h
  timer _ _ _ h := h
  started _ _ _ _ h := h

theorem change_state_calling {s : NetworkLteState} (hd : s ≠ .network_detached) (hp : s ≠ .pdp_context_closed) :
    Triple (Under Always (Calling c ids a)) (change_state s)
      (fun _ => Under Always (In (· = s) (Calling c ids a))) X := by
  have : Preserves (Under Always (In (· = s) (Calling c ids a))) (enter_state s) X := enter_state_preserves hd hp
  exact triple_change_state_in (fun _ _ h => h) fun _ _ _ h => h

theorem change_state_detached :
    Triple (Under Always (In (· = .data_ready) (Silent c ids))) (change_state .network_detached)
      (fun _ => Under Always (Calling c ids .attach_network)) X := by
  refine triple_change_state (A := fun _ => Silent c ids) (B := Silent c ids) (C := Silent c ids) ?_ ?_ ?_ ?_ ?_
  · intro n l h hs
    exact absurd (h.1.symm.trans hs) (by decide)
  · exact fun _ _ h _ => h.2
  · exact fun _ _ => Preserves.out
  · exact fun _ _ _ h => h
  · refine Triple.bind (Preserves.out (m := Prog.when _ _)) fun _ => ?_
    refine Triple.bind (Preserves.out (m := enter_timer _)) fun _ => ?_
    refine Triple.ite (fun _ => ?_) fun h => absurd rfl h
    refine Triple.bind (Preserves.out (m := updateData _)) fun _ => ?_
    refine Triple.bind (Preserves.out (m := reset_servers)) fun _ => triple_updateNet ?_
    exact fun _ _ h => ⟨rfl, h⟩

instance (s : NetworkLteState) : Preserves (Under Always (Only ids)) (change_state s) X :=
  ⟨triple_post (fun _ _ _ h => h.2) (triple_change_state_in (fun _ _ h => h) fun _ _ _ h => h)⟩

end Steps

/-! ## The event -/

/-- The connection that the event asks for. -/
def asked (w : World) : Urc → List Nat
  | .data conn_id => [if 0 < conn_id then conn_id else w.net.lteConfig.conn_id]
  | _ => []

/-- The modem reports a valid fix when the loop asks for it. -/
def fixed (w : World) : Bool :=
  let t := w.env (w.clock + ((raising (batch w)).length + 3))
  (Replies.get_gnss_position t.answer {}).2.fix.valid

/-- The state after the event, where its case leaves the pending action alone. -/
def spared (w : World) : Urc → Option NetworkLteState
  | .data _ | .raises .context_rejected => some .data_ready
  | .raises .psm_enter => some .sleep_mode
  | .raises .gps_available => if fixed w then none else some .data_ready
  | .raises .timeout => if w.net.lteConfig.data_ready_timeout_sec = 0 then some .data_ready else none
  | _ => none

def Raised : Urc → Prop
  | .raises e => ofUrc e = true ∨ e = .timeout
  | .data _ => True
  | _ => False

def Handled (w₀ : World) (u : Urc) (a : ModemAction) (n : Net) (l : List Entry) : Prop :=
  Silent w₀.net.lteConfig (asked w₀ u) n l ∧
    match spared w₀ u with
    | some s => n.state_ = s ∧ n.modem_action_ = a
    | none => n.modem_action_ ≠ .read_data

section Event

variable {w₀ : World} {a : ModemAction} {X : World → Prop}

abbrev Ready (w₀ : World) (a : ModemAction) : Net → List Entry → Prop :=
  In (· = .data_ready) (Calling w₀.net.lteConfig [] a)

theorem Within.ready {k : Nat} {w : World} (h : Within w₀ k a w) : Ready w₀ a w.net w.log :=
  ⟨h.state, h.action, h.config, h.received⟩

theorem receive_data_spec (conn_id : Nat) :
    Triple (Under Always fun n l => n.data.last_data_conn_id_ = conn_id ∧ Ready w₀ a n l) receive_data
      (fun _ => Under Always (Handled w₀ (.data conn_id) a)) X := by
  let conn (n : Net) : Nat :=
    if 0 < n.data.last_data_conn_id_ then n.data.last_data_conn_id_ else n.lteConfig.conn_id
  refine triple_net_of (F := fun n => [conn n] = asked w₀ (.data conn_id)) ?_ fun n hc => ?_
  · rintro n l ⟨rfl, h⟩
    simp only [conn, asked, h.2.2.1]
  · refine triple_pre (P := Ready w₀ a) (fun _ _ h => h.2) ?_
    refine Triple.bind (triple_ask (R := fun _ => Handled w₀ (.data conn_id) a) ?_) fun buf => ?_
    · intro m l b _ h
      have hl : received l = [] := h.2.2.2
      have hr : received (.exchange (.other (.udp_receive (conn n) 1500)) b :: l) = conn n :: received l := rfl
      refine ⟨⟨h.2.2.1, ?_⟩, h.1, h.2.1⟩
      rw [Only, hr, hl, hc]
    · refine Triple.ite (fun _ => ?_) fun _ => triple_pure fun _ _ h => h
      refine Triple.bind (Q := fun _ => Under Always (Handled w₀ (.data conn_id) a)) ?_ fun _ => ?_
      · exact triple_updateNet fun _ _ h => h
      · exact triple_pure fun _ _ h => h

theorem on_timeout_spec :
    Triple (Under Always (Ready w₀ a)) on_timeout (fun _ => Under Always (Handled w₀ (.raises .timeout) a)) X := by
  refine triple_net_of (F := fun n => n.state_ = .data_ready ∧ n.lteConfig = w₀.net.lteConfig) ?_ ?_
  · exact fun n l h => ⟨h.1, h.2.2.1⟩
  · rintro n ⟨hs, hc⟩
    rw [hs, hc]
    refine Triple.ite (fun h0 => triple_pure fun m l h => ⟨h.2.2, ?_⟩) fun h0 => ?_
    · simp only [spared, if_pos h0.2]
      exact ⟨h.1, h.2.1⟩
    · have h0 : w₀.net.lteConfig.data_ready_timeout_sec ≠ 0 := fun h => h0 ⟨rfl, h⟩
      refine Triple.bind (Q := fun _ => Under Always (Calling w₀.net.lteConfig [] .enter_sleep)) ?_ fun _ => ?_
      · exact triple_updateNet fun _ _ h => ⟨rfl, h.2.2⟩
      · refine triple_post (fun _ m l h => ⟨h.2.2, ?_⟩) (change_state_calling (by decide) (by decide))
        simp only [spared, if_neg h0, h.2.1]
        decide

theorem detach_spec {u : Urc} (hu : asked w₀ u = []) (hs : spared w₀ u = none) :
    Triple (Under Always (Ready w₀ a)) (change_state .network_detached)
      (fun _ => Under Always (Handled w₀ u a)) X := by
  refine triple_pre (fun _ _ h => ⟨h.1, h.2.2⟩) (triple_post (fun _ m l h => ⟨?_, ?_⟩) change_state_detached)
  · rw [hu]
    exact h.2
  · simp only [hs, h.1]
    decide

theorem take_fix_spec :
    Triple (Within w₀ ((raising (batch w₀)).length + 3) a) take_fix
      (fun _ => Under Always (Handled w₀ (.raises .gps_available) a)) X := by
  refine Triple.bind
    (Q := fun pos => Under Always fun n l => pos.2.fix.valid = fixed w₀ ∧ Ready w₀ a n l) ?_ fun pos => ?_
  · intro w hw _
    refine ⟨?_, hw.tick.ready⟩
    rw [hw.env, hw.clock]
    rfl
  · refine triple_fact fun hf => Triple.ite (fun hv => ?_) fun hv => ?_
    · have hn : spared w₀ (.raises .gps_available) = none := if_pos (hf.symm.trans hv)
      refine Triple.bind (Preserves.out (m := updateData _)) fun _ => ?_
      refine Triple.bind (Q := fun _ => Under Always (Handled w₀ (.raises .gps_available) a)) ?_ fun _ =>
        triple_pure fun _ _ h => h
      refine triple_updateNet fun n l h => ⟨h.2.2, ?_⟩
      simp only [hn, Net.call_action]
      decide
    · have hn : spared w₀ (.raises .gps_available) = some .data_ready := if_neg (hf ▸ hv)
      refine triple_pure fun n l h => ⟨h.2.2, ?_⟩
      simp only [hn]
      exact ⟨h.1, h.2.1⟩

theorem on_detached_spec :
    Triple (Under Always (Ready w₀ a)) on_detached
      (fun _ => Under Always (Handled w₀ (.raises .network_detached) a)) X := by
  refine Triple.bind (Q := fun _ => Under Always (Ready w₀ a)) (triple_updateNet fun _ _ h => h) fun _ => ?_
  refine triple_net_of (F := fun n => n.state_ = .data_ready) (fun n l h => h.1) fun n hs => ?_
  refine Triple.ite (fun _ => detach_spec rfl rfl) fun hn => ?_
  simp [hs] at hn

theorem handle_raised_spec {e : NetworkLteEvent} (he : ofUrc e = true ∨ e = .timeout) :
    Triple (Within w₀ ((raising (batch w₀)).length + 3) a) (handle_event e)
      (fun _ => Under Always (Handled w₀ (.raises e) a)) X := by
  have hready : ∀ w, Within w₀ ((raising (batch w₀)).length + 3) a w → Under Always (Ready w₀ a) w :=
    fun _ hw _ => hw.ready
  cases e <;> simp only [ofUrc, reduceCtorEq, Bool.false_eq_true, or_self] at he
  case psm_enter =>
    refine Triple.pre hready (triple_pre (fun _ _ h => h.2) ?_)
    refine Triple.bind ?_ fun _ => Triple.pure fun _ hw => hw
    exact triple_post (fun _ _ _ h => ⟨h.2.2, h.1, h.2.1⟩) (change_state_calling (by decide) (by decide))
  case network_detached =>
    exact Triple.pre hready (Triple.bind on_detached_spec fun _ => Triple.pure fun _ hw => hw)
  case context_closed =>
    refine Triple.pre hready (Triple.bind (Q := fun _ => Under Always (Ready w₀ a)) ?_ fun _ => ?_)
    · exact triple_updateNet fun _ _ h => h
    · exact Triple.bind (detach_spec rfl rfl) fun _ => Triple.pure fun _ hw => hw
  case context_rejected => exact Triple.pre hready (triple_pure fun _ _ h => ⟨h.2.2, h.1, h.2.1⟩)
  case gps_available => exact take_fix_spec
  case timeout => exact Triple.pre hready (Triple.bind on_timeout_spec fun _ => Triple.pure fun _ hw => hw)

theorem handle_event_spec {u : Urc} (hu : Raised u) (e : NetworkLteEvent) :
    Triple (fun w => Within w₀ ((raising (batch w₀)).length + 3) a w ∧
        Pending e w.net.data.last_data_conn_id_ u)
      (handle_event e) (fun _ => Under Always (Handled w₀ u a)) X := by
  cases u with
  | registered => cases hu
  | nothing => cases hu
  | data conn_id =>
    rintro w ⟨hw, rfl, hc⟩
    exact receive_data_spec conn_id w fun _ => ⟨hc, hw.ready⟩
  | raises f =>
    rintro w ⟨hw, rfl⟩
    exact handle_raised_spec hu w hw

end Event

/-! ## The action -/

section Action

variable {c : NetworkLteConfig} {ids : List Nat} {a : ModemAction}

theorem perform_only (fuel : Nat) (ha : a ≠ .read_data) :
    Preserves (Under Always (Only ids)) (perform fuel a) := by
  have hr : Preserves (Under Always (Only ids)) (exchange .reboot) := exchange_preserves fun _ _ _ _ h => h
  have hc : Preserves (Under Always (Only ids)) (exchange (.cfun 11)) := exchange_preserves fun _ _ _ _ h => h
  have hp (b : Bool) : Preserves (Under Always (Only ids)) (exchange (.other (.set_gnss_power b))) :=
    exchange_preserves fun _ _ _ _ h => h
  exact perform_preserves fuel a (fun h => absurd h ha) (fun _ => inferInstance) (fun _ => inferInstance)
    (fun _ => inferInstance) (fun _ => inferInstance) fun _ => inferInstance

theorem execute_actions_only (fuel : Nat) :
    Triple (Under Always fun n l => n.modem_action_ ≠ .read_data ∧ Only ids n l) (execute_actions fuel)
      (fun _ => Under Always (Only ids)) (Under Always (Only ids)) := by
  refine Triple.bind (triple_get_action (R := fun b n l => b ≠ .read_data ∧ Only ids n l) ?_) fun b => ?_
  · exact fun _ _ h => h
  refine triple_fact fun hb => Triple.bind (Preserves.out (m := net)) fun n => ?_
  have : Preserves (Under Always (Only ids)) (perform fuel b) := perform_only fuel hb
  exact Triple.bind (Preserves.out (m := perform fuel b)) fun h => Preserves.out

theorem execute_actions_read (fuel : Nat) :
    Triple (Under Always (Calling c ids .read_data)) (execute_actions fuel)
      (fun _ => Under Always (Only (c.conn_id :: ids))) (Under Always (Only (c.conn_id :: ids))) := by
  refine Triple.bind (triple_get_action (R := fun b n l => b = .read_data ∧ Silent c ids n l) ?_) fun b => ?_
  · exact fun _ _ h => h
  refine triple_fact ?_
  rintro rfl
  refine Triple.bind (Preserves.out (m := net)) fun _ => ?_
  refine Triple.bind (Q := fun _ => Under Always (Only (c.conn_id :: ids))) ?_ fun h => Preserves.out
  refine triple_net_of (F := fun n => n.lteConfig = c) (fun n l h => h.1) ?_
  · rintro n rfl
    refine triple_pre (P := Only ids) (fun _ _ h => h.2) ?_
    refine Triple.bind (triple_ask (R := fun _ => Only (n.lteConfig.conn_id :: ids)) ?_) fun _ => Preserves.out
    exact fun _ _ _ _ h => congrArg (n.lteConfig.conn_id :: ·) h

end Action

/-! ## The loop -/

/-- The pending `read_data` is still there when `loop` comes to it. -/
def reads (w : World) (target : NetworkLteState) : Bool :=
  w.net.modem_action_ = .read_data && !registers (batch w) && (spared w (heard w)).any (· ≠ target)

def answers (w : World) (target : NetworkLteState) : List Nat :=
  if reads w target then w.net.lteConfig.conn_id :: asked w (heard w) else asked w (heard w)

theorem spared_ne_none {w : World} {u : Urc} {s : NetworkLteState} (h : spared w u = some s) : s ≠ .none := by
  rintro rfl
  unfold spared at h
  split at h <;> try split at h
  all_goals cases h

section Loop

variable {w₀ : World} {target : NetworkLteState}

theorem process_event_spec {X : World → Prop} (hu : Raised (heard w₀)) :
    Triple (After w₀ (batch w₀)) process_event
      (fun _ => Under Always (Handled w₀ (heard w₀) (pending w₀ (batch w₀)))) X :=
  Triple.bind get_event_spec fun t => Triple.bind (handle_event_spec hu t.event) fun _ =>
    triple_record fun _ _ _ h => h

theorem reads_eq {s : NetworkLteState} (hs : spared w₀ (heard w₀) = some s) (ht : s ≠ target) :
    reads w₀ target = decide (pending w₀ (batch w₀) = .read_data) := by
  cases hr : registers (batch w₀) <;> simp [reads, pending, hr, hs, ht]

theorem act_spec (fuel : Nat) (n : Net) :
    Triple (Under Always fun m l => m = n ∧ Handled w₀ (heard w₀) (pending w₀ (batch w₀)) m l)
      (if n.state_ = target ∧ target ≠ .none then end_loop else do
        execute_actions fuel
        end_loop)
      (fun _ => Under Always (Only (answers w₀ target))) (Under Always (Only (answers w₀ target))) := by
  cases hs : spared w₀ (heard w₀) with
  | none =>
    have ha : answers w₀ target = asked w₀ (heard w₀) := by simp [answers, reads, hs]
    rw [ha]
    refine triple_pre (P := fun m l => m.modem_action_ ≠ .read_data ∧ Only (asked w₀ (heard w₀)) m l) ?_ ?_
    · rintro m l ⟨-, h⟩
      simp only [Handled, hs] at h
      exact ⟨h.2, h.1.2⟩
    · refine Triple.ite (fun _ => triple_pre (fun _ _ h => h.2) Preserves.out) fun _ => ?_
      exact Triple.bind (execute_actions_only fuel) fun _ => Preserves.out
  | some s =>
    refine triple_pre (P := fun m l => n.state_ = s ∧
      Calling w₀.net.lteConfig (asked w₀ (heard w₀)) (pending w₀ (batch w₀)) m l) ?_ (triple_fact ?_)
    · rintro _ l ⟨rfl, h⟩
      simp only [Handled, hs] at h
      exact ⟨h.2.1, h.2.2, h.1⟩
    · rintro rfl
      refine Triple.ite (fun ht => ?_) fun ht => ?_
      · have ha : answers w₀ target = asked w₀ (heard w₀) := by simp [answers, reads, hs, ht.1]
        rw [ha]
        exact triple_pre (fun _ _ h => h.2.2) Preserves.out
      · have ht : n.state_ ≠ target := fun h => ht ⟨h, h ▸ spared_ne_none hs⟩
        unfold answers
        rw [reads_eq hs ht]
        by_cases hp : pending w₀ (batch w₀) = .read_data
        · rw [hp, if_pos (by simp)]
          exact Triple.bind (execute_actions_read fuel) fun _ => Preserves.out
        · rw [if_neg (by simpa using hp)]
          refine triple_pre ?_ (Triple.bind (execute_actions_only fuel) fun _ => Preserves.out)
          rintro m l ⟨ha, h⟩
          exact ⟨ha ▸ hp, h.2⟩

theorem loop_spec (fuel : Nat) (hu : Raised (heard w₀)) :
    Triple (Within w₀ 0 w₀.net.modem_action_) (loop fuel target) (fun _ => Under Always (Only (answers w₀ target)))
      (Under Always (Only (answers w₀ target))) := by
  refine Triple.bind poll_urc_spec fun _ => Triple.bind (check_last_status_spec _) fun _ => ?_
  exact Triple.bind (process_event_spec hu) fun _ => Triple.bind triple_net fun n => act_spec fuel n

end Loop

theorem Named.raising {urcs : List Str} {k : Nat} (h : Named urcs k) : .data k ∈ raising urcs := by
  obtain ⟨-, hk, urc, hu, hs⟩ := h
  have hr := readUrc_of_sring hk hs
  exact List.mem_filter.mpr ⟨hr ▸ List.mem_map_of_mem hu, rfl⟩

theorem raised_of_mem {urcs : List Str} {u : Urc} (h : u ∈ raising urcs) : Raised u := by
  obtain ⟨hm, he⟩ := List.mem_filter.mp h
  obtain ⟨urc, -, rfl⟩ := List.mem_map.mp hm
  cases hu : readUrc urc with
  | raises e => exact .inl (ofUrc_of_raises hu)
  | data conn_id => trivial
  | _ => simp [hu, Urc.event?] at he

theorem raised_heard {w : World} (h : raising (batch w) ≠ []) : Raised (heard w) := by
  unfold heard last
  cases overtaken w
  · rw [if_neg (by simp), List.getLastD_eq_getLast?, List.getLast?_eq_some_getLast h]
    exact raised_of_mem (List.getLast_mem h)
  · exact .inr rfl

/-- The last line that raises an event asks for the connection, and no callback overtakes it; or the
connection is the configured one, and a `read_data` that was pending is still there. -/
def Answered (w : World) (target : NetworkLteState) (k : Nat) : Prop :=
  (overtaken w = false ∧ k ∈ asked w (last (batch w))) ∨
    (reads w target = true ∧ k = w.net.lteConfig.conn_id)

theorem mem_answers (w : World) (target : NetworkLteState) (k : Nat) :
    k ∈ answers w target ↔ Answered w target k := by
  unfold answers Answered heard
  cases overtaken w <;> cases reads w target <;> simp [asked, or_comm]

/-- Of the connections that a batch names, the loop asks for the data of those that are answered. -/
theorem named_data_is_received (w : World) (fuel : Nat) (target : NetworkLteState) :
    let v := (loop fuel target { w with log := [] }).2
    w.net.state_ = .data_ready → w.net.last_status_ ≠ .timeout →
      ∀ k, Named (batch w) k → (k ∈ received v.log ↔ Answered w target k) := by
  intro v hs ht k hk
  have hw : Within w 0 w.net.modem_action_ { w with log := [] } :=
    ⟨rfl, rfl, ⟨rfl, rfl, rfl⟩, hs, rfl, rfl, ht, rfl⟩
  have hu : Raised (heard w) := raised_heard (List.ne_nil_of_mem hk.raising)
  have hv : Only (answers w target) v.net v.log := (loop_spec fuel hu).final hw fun _ _ => trivial
  have hv : received v.log = answers w target := hv
  rw [hv, mem_answers]

/-- A network that takes the modem in at once, and a batch that the first loop after that polls. -/
def connected (urcs : List Str) : World :=
  (run 9 [.network_connect] (initial {} false fun i =>
    { body := .ofView _ "+CEREG: 0,1,1,1".toList, urcs := if i = 42 then urcs else [] })).2

theorem named_data_is_received_alone :
    let w := connected ["+CGEV: REJECT".toList, "SRING: 3".toList, "+CEREG: 1".toList]
    let v := (loop 9 .none { w with log := [] }).2
    Named (batch w) 3 ∧ Answered w .none 3 ∧ 3 ∈ received v.log := by
  intro w v
  have hu : batch w = ["+CGEV: REJECT".toList, "SRING: 3".toList, "+CEREG: 1".toList] := by decide +kernel
  have h3 : Named (batch w) 3 := by
    refine ⟨by decide, by decide, "SRING: 3".toList, ?_, 1, [], rfl, by simp⟩
    rw [hu]
    exact List.mem_cons_of_mem _ List.mem_cons_self
  have ha : Answered w .none 3 := .inl (by decide +kernel)
  exact ⟨h3, ha, (named_data_is_received w 9 .none (by decide +kernel) (by decide +kernel) 3 h3).mpr ha⟩

/-- Two sockets become readable at once: the second line takes the place of the first. -/
theorem second_notification_wins :
    let w := connected ["SRING: 1".toList, "SRING: 2".toList]
    let v := (loop 9 .none { w with log := [] }).2
    (w.net.state_ = .data_ready ∧ w.net.last_status_ ≠ .timeout ∧ received v.log = [2]) ∧
      ¬ ∀ k, Named (batch w) k → k ∈ received v.log := by
  intro w v
  have hu : batch w = ["SRING: 1".toList, "SRING: 2".toList] := by decide +kernel
  have h1 : Named (batch w) 1 := by
    refine ⟨by decide, by decide, "SRING: 1".toList, ?_, 1, [], rfl, by simp⟩
    rw [hu]
    exact List.mem_cons_self
  refine ⟨by decide +kernel, fun h => absurd (h 1 h1) ?_⟩
  decide +kernel

end LteModem.NetworkLte.Notifications
