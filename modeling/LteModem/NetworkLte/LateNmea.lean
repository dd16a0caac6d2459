import LteModem.NetworkLte.Alike
import LteModem.NetworkLte.Notifications

/-!
# Position sentences that come late

The sentences that the receiver sends behind the answers of the stop commands are handled in whatever
state the machine is in by then. The loop that handles them is compared with the same loop without them.
-/

open Prog Strings

set_option synthInstance.maxSize 100000

namespace LteModem.NetworkLte.LateNmea

open Notifications

def Nmea (urc : Str) : Prop := urc.take 7 = "$GPGSA,".toList

instance (urc : Str) : Decidable (Nmea urc) := inferInstanceAs (Decidable (_ = _))

/-! ## The loop without the batch -/

/-- What the timer thread does in `n` ticks from `k` on. -/
def movesOf (env : Nat → Tick) (k : Nat) : Nat → List Net.Move
  | 0 => []
  | n + 1 => movesOf env k n ++ (env (k + n)).moves

/-- The `n` ticks from `k` on do not take place: what the timer thread did in them it does in the next one. -/
def skip (k n : Nat) (env : Nat → Tick) (j : Nat) : Tick :=
  if j < k then env j
  else if j = k then { env (k + n) with moves := movesOf env k (n + 1) }
  else env (j + n)

def silence (k : Nat) (env : Nat → Tick) (j : Nat) : Tick := if j = k then { env j with urcs := [] } else env j

/-- The ticks before the one in which `loop` reads the event. -/
def ticks (w : World) : Nat := (batch w).length + 1 + if w.net.last_status_ = .timeout then 1 else 0

/-- A callback runs in the tick of the read. -/
def interrupted (w : World) : Bool := fires (idle w (ticks w)) (w.env (w.clock + ticks w)).moves

/-- The event is the one that the sentences raised. -/
def Listens (w : World) : Prop := w.net.last_status_ ≠ .timeout ∧ interrupted w = false

instance (w : World) : Decidable (Listens w) := inferInstanceAs (Decidable (_ ∧ _))

/-- The ticks left when there is no batch: no line raises an event, and nobody asks for the position. -/
def silent (w : World) : Nat → Tick :=
  let env := skip (w.clock + 1) (batch w).length (silence w.clock w.env)
  if Listens w then skip (w.clock + 3) 1 env else env

def quiet (w : World) : World := { w with env := silent w }

/-- The same loop with an empty batch; in transparent mode no batch is read. -/
def unheard (w : World) : World := if w.net.state_ = .transparent_mode ∨ batch w = [] then w else quiet w

/-- The fix that the modem reports, if the loop asks for it. -/
def offered (w : World) : Bool :=
  let t := w.env (w.clock + (batch w).length + 3)
  (Replies.get_gnss_position t.answer {}).2.fix.valid

/-- A timeout is pending when the last sentence comes, and it is not one that the state ignores. -/
def Expired (w : World) : Prop :=
  (idle w ((batch w).length + 1)).event_ = .timeout ∧
    ¬ (w.net.state_ = .data_ready ∧ w.net.lteConfig.data_ready_timeout_sec = 0)

instance (w : World) : Decidable (Expired w) := inferInstanceAs (Decidable (_ ∧ _))

/-- The sentences are not handled, or neither a fix nor a timeout hangs on them. -/
def Harmless (w : World) : Prop :=
  w.net.state_ = .transparent_mode ∨ batch w = [] ∨ ¬ Listens w ∨ (offered w = false ∧ ¬ Expired w)

instance (w : World) : Decidable (Harmless w) := inferInstanceAs (Decidable (_ ∨ _))

section Ticks

variable (env : Nat → Tick) (k n j : Nat)

theorem skip_before (h : j < k) : skip k n env j = env j := if_pos h

theorem skip_said : (skip k n env (k + j)).said = (env (k + n + j)).said := by
  unfold skip
  rw [if_neg (Nat.not_lt.mpr (Nat.le_add_right k j))]
  split
  · next h => rw [show j = 0 by omega]; rfl
  · rw [Nat.add_right_comm]

theorem skip_moves : (skip k n env k).moves = movesOf env k (n + 1) := by
  unfold skip
  rw [if_neg (Nat.lt_irrefl k), if_pos rfl]

theorem silence_moves : (silence k env j).moves = (env j).moves := by
  unfold silence
  split <;> rfl

theorem movesOf_congr {env' : Nat → Tick} (h : ∀ j, (env j).moves = (env' j).moves) :
    movesOf env k n = movesOf env' k n := by
  induction n with
  | zero => rfl
  | succ n ih => rw [movesOf, movesOf, ih, h]

theorem idle_add (w : World) (i : Nat) :
    idle w (i + n) = (movesOf w.env (w.clock + i) n).foldl Net.move (idle w i) := by
  induction n with
  | zero => rfl
  | succ n ih => rw [movesOf, List.foldl_append, ← ih, ← Nat.add_assoc, idle, Nat.add_assoc]

end Ticks

/-! ## The loop up to the event -/

/-- `k` ticks after `w`, with nothing done but the event `e` raised. -/
structure Later (w : World) (k : Nat) (e : NetworkLteEvent) (v : World) : Prop where
  env : v.env = w.env
  clock : v.clock = w.clock + k
  net : v.net.Like w.net
  timers : SameTimers v.net (idle w k)
  status : v.net.last_status_ = w.net.last_status_
  event : v.net.event_ = e

/-- The event after the tick `k` of the timer thread. -/
def after (w : World) (k : Nat) (e : NetworkLteEvent) : NetworkLteEvent :=
  if fires (idle w k) (w.env (w.clock + k)).moves then .timeout else e

/-- The event that `loop` takes. -/
def taken (w : World) : NetworkLteEvent :=
  after w (ticks w) <|
    if w.net.last_status_ = .timeout then .at_command_no_response
    else if batch w = [] then (idle w 1).event_
    else .gps_available

theorem idle_event (w : World) (k : Nat) : (idle w (k + 1)).event_ = after w k (idle w k).event_ :=
  moves_event_ _ _

section Taken

variable {w v : World} {k : Nat} {e : NetworkLteEvent}

theorem Later.tick (h : Later w k e v) : Later w (k + 1) (after w k e) (tick v).2 where
  env := h.env
  clock := by simp [NetworkLte.tick, h.clock, Nat.add_assoc]
  net := (Net.moves_bare _ _).trans h.net
  timers := by
    simp only [NetworkLte.tick, h.env, h.clock]
    exact h.timers.moves _
  status := by
    simp only [NetworkLte.tick]
    exact (Net.moves_keep Net.move_last_status_ _ _).trans h.status
  event := by
    simp only [NetworkLte.tick, moves_event_, h.timers.fires, h.event, h.env, h.clock, after]

theorem Later.raise (h : Later w k e v) (f : NetworkLteEvent) : Later w (k + 1) f (on_event f v).2 where
  env := h.tick.env
  clock := h.tick.clock
  net := (Net.on_event_bare f _).trans h.tick.net
  timers := ⟨h.tick.timers.st_timer, h.tick.timers.timer_, h.tick.timers.callbacks⟩
  status := h.tick.status
  event := rfl

theorem Later.clear (h : Later w k e v) : Later w k .none (clear_event v).2 :=
  ⟨h.env, h.clock, h.net, ⟨h.timers.st_timer, h.timers.timer_, h.timers.callbacks⟩, h.status, rfl⟩

theorem handle_nmea {urc : Str} (h : Nmea urc) : handle_urc urc = on_event .gps_available := by
  have hu : ∃ rest, urc = "$GPGSA,".toList ++ rest := ⟨urc.drop 7, by rw [← h, List.take_append_drop]⟩
  obtain ⟨rest, rfl⟩ := hu
  simp [handle_urc_eq, readUrc, Urc.handle]

variable {X : World → Prop}

theorem handle_urcs_spec {urcs : List Str} (h : ∀ urc ∈ urcs, Nmea urc) :
    Triple (Later w k e) (handle_urcs urcs)
      (fun _ => Later w (k + urcs.length) (if urcs = [] then e else .gps_available)) X := by
  induction urcs generalizing k e with
  | nil =>
    apply Triple.pure
    intro v hv
    simpa using hv
  | cons urc urcs ih =>
    have hs := ih (k := k + 1) (e := .gps_available) fun u hu => h u (by simp [hu])
    rw [ite_self] at hs
    unfold handle_urcs
    rw [handle_nmea (h urc (by simp)), if_neg (by simp), List.length_cons, Nat.add_comm urcs.length, ← Nat.add_assoc]
    refine Triple.bind (Q := fun _ => Later w (k + 1) .gps_available) ?_ fun _ => hs
    intro v hv
    exact hv.raise .gps_available

theorem poll_urc_spec (hs : w.net.state_ ≠ .transparent_mode) (hb : ∀ urc ∈ batch w, Nmea urc) :
    Triple (Later w 0 w.net.event_) poll_urc
      (fun _ => Later w (1 + (batch w).length) (if batch w = [] then (idle w 1).event_ else .gps_available)) X := by
  refine Triple.bind (Q := fun n v => n.state_ ≠ .transparent_mode ∧ Later w 0 w.net.event_ v) ?_ fun n => ?_
  · intro v hv
    exact ⟨hv.net.state_ ▸ hs, hv⟩
  apply Triple.ite
  · intro _
    refine Triple.bind (Q := fun t v => t = w.env w.clock ∧ Later w 1 (idle w 1).event_ v) ?_ fun t => ?_
    · rintro v ⟨-, hv⟩
      constructor
      · rw [hv.env, hv.clock, Nat.add_zero]
      · exact (idle_event w 0).symm ▸ hv.tick
    · refine Triple.bind (Q := fun _ v => t = w.env w.clock ∧ Later w 1 (idle w 1).event_ v) ?_ fun _ => ?_
      · rintro v ⟨ht, hv⟩
        exact ⟨ht, hv.env, hv.clock, hv.net, hv.timers, hv.status, hv.event⟩
      · rintro v ⟨rfl, hv⟩
        exact handle_urcs_spec hb v hv
  · intro hn v hv
    exact absurd hv.1 hn

theorem check_last_status_spec :
    Triple (Later w k e) check_last_status
      (fun _ => Later w (k + if w.net.last_status_ = .timeout then 1 else 0)
        (if w.net.last_status_ = .timeout then .at_command_no_response else e)) X := by
  refine Triple.bind (Q := fun n v => n.last_status_ = w.net.last_status_ ∧ Later w k e v) ?_ fun n => ?_
  · intro v hv
    exact ⟨hv.status, hv⟩
  apply Triple.ite
  · rintro hn v ⟨hs, hv⟩
    rw [if_pos (hs ▸ hn), if_pos (hs ▸ hn)]
    exact hv.raise _
  · rintro hn v ⟨hs, hv⟩
    rw [if_neg (hs ▸ hn), if_neg (hs ▸ hn)]
    exact hv

theorem get_event_spec :
    Triple (Later w k e) get_event (fun t v => t.event = after w k e ∧ Later w (k + 2) .none v) X :=
  fun _ hv => ⟨hv.tick.event, hv.tick.tick.clear⟩

/-- `loop` from the event on. -/
def rest (fuel : Nat) (target : NetworkLteState) (t : Taken) : Prog World NetworkLteState := do
  take_event t
  finish_loop fuel target

theorem loop_taken (fuel : Nat) (target : NetworkLteState) (hs : w.net.state_ ≠ .transparent_mode)
    (hb : ∀ urc ∈ batch w, Nmea urc) :
    ∃ t v, loop fuel target w = rest fuel target t v ∧ t.event = taken w ∧ Later w (ticks w + 2) .none v := by
  have hw : Later w 0 w.net.event_ w := ⟨rfl, rfl, rfl, ⟨rfl, rfl, rfl⟩, rfl, rfl⟩
  obtain ⟨_, v₁, h₁, hv₁⟩ := (poll_urc_spec hs hb).ends hw
  obtain ⟨_, v₂, h₂, hv₂⟩ := check_last_status_spec.ends hv₁
  obtain ⟨t, v₃, h₃, ht, hv₃⟩ := get_event_spec.ends hv₂
  rw [Nat.add_comm 1] at ht hv₃
  refine ⟨t, v₃, ?_, ht, hv₃⟩
  rw [loop_eq, bind_run, h₁]
  dsimp only
  rw [bind_run, h₂]
  dsimp only
  unfold process_event
  rw [bind_run, bind_run, h₃]
  dsimp only
  rfl

theorem taken_of_listens (h : Listens w) (hb : batch w ≠ []) : taken w = .gps_available := by
  unfold taken after
  rw [if_neg (by simpa [interrupted] using h.2), if_neg h.1, if_neg hb]

theorem idle_event_cases (w : World) (k : Nat) : (idle w k).event_ = w.net.event_ ∨ (idle w k).event_ = .timeout := by
  induction k with
  | zero => exact .inl rfl
  | succ k ih =>
    rw [idle_event, after]
    split
    · exact .inr rfl
    · exact ih

end Taken

/-! ## The loop without the batch -/

section Unheard

variable {w : World}

theorem silent_first (w : World) : silent w w.clock = { w.env w.clock with urcs := [] } := by
  unfold silent
  split <;> simp [skip, silence]

theorem silent_moves (w : World) : (silent w (w.clock + 1)).moves = movesOf w.env (w.clock + 1) ((batch w).length + 1) := by
  have hs : (silent w (w.clock + 1)).moves =
      (skip (w.clock + 1) (batch w).length (silence w.clock w.env) (w.clock + 1)).moves := by
    unfold silent
    split
    · rw [skip_before]
      omega
    · rfl
  rw [hs, skip_moves]
  exact movesOf_congr _ _ _ fun j => silence_moves _ _ j

theorem silent_later (hl : ¬ Listens w) (j : Nat) :
    silent w (w.clock + 2 + j) = w.env (w.clock + (batch w).length + 2 + j) := by
  unfold silent
  rw [if_neg hl]
  unfold skip silence
  rw [if_neg (by omega), if_neg (by omega), if_neg (by omega)]
  congr 1
  omega

theorem silent_said (hl : Listens w) (j : Nat) :
    (silent w (w.clock + 3 + j)).said = (w.env (w.clock + (batch w).length + 4 + j)).said := by
  unfold silent
  rw [if_pos hl, skip_said]
  unfold skip silence
  rw [if_neg (by omega), if_neg (by omega), if_neg (by omega)]
  congr 2
  omega

theorem batch_quiet (w : World) : batch (quiet w) = [] := congrArg Tick.urcs (silent_first w)

theorem idle_quiet_one (w : World) : idle (quiet w) 1 = idle w 1 := by
  have hm : (silent w w.clock).moves = (w.env w.clock).moves := by rw [silent_first]
  exact congrArg (·.foldl Net.move w.net) hm

theorem idle_quiet_two (w : World) : idle (quiet w) 2 = idle w ((batch w).length + 2) := by
  have hi : idle w (1 + ((batch w).length + 1)) = _ := idle_add _ w 1
  rw [← silent_moves, ← idle_quiet_one] at hi
  rw [show (batch w).length + 2 = 1 + ((batch w).length + 1) by omega, hi]
  rfl

theorem ticks_quiet (w : World) : ticks w = (batch w).length + ticks (quiet w) := by
  unfold ticks
  rw [batch_quiet, List.length_nil]
  change _ = _ + (0 + 1 + if w.net.last_status_ = .timeout then 1 else 0)
  omega

theorem taken_deaf (hl : ¬ Listens w) : taken (quiet w) = taken w := by
  by_cases ht : w.net.last_status_ = .timeout
  · -- The error takes a tick, so the read comes two ticks after the batch.
    have hq : ticks (quiet w) = 2 := by
      unfold ticks
      rw [batch_quiet, if_pos (show (quiet w).net.last_status_ = .timeout from ht)]
      rfl
    have hk : ticks w = (batch w).length + 2 := by
      rw [ticks_quiet, hq]
    have he : (quiet w).env ((quiet w).clock + 2) = w.env (w.clock + ((batch w).length + 2)) :=
      silent_later hl 0
    unfold taken after
    rw [hq, hk, idle_quiet_two, he, if_pos ht, if_pos (show (quiet w).net.last_status_ = .timeout from ht)]
  · have hi : interrupted w = true := by
      cases hi : interrupted w with
      | true => rfl
      | false => exact absurd ⟨ht, hi⟩ hl
    have hk : ticks w = (batch w).length + 1 := by rw [ticks, if_neg ht]
    have hw : taken w = .timeout := if_pos hi
    have hq : taken (quiet w) = (idle (quiet w) 2).event_ := by
      rw [idle_event]
      unfold taken ticks
      rw [batch_quiet, if_neg (show (quiet w).net.last_status_ ≠ .timeout from ht),
        if_neg (show (quiet w).net.last_status_ ≠ .timeout from ht), if_pos rfl]
      rfl
    rw [hw, hq, idle_quiet_two, idle_event, ← hk]
    exact if_pos hi

theorem taken_quiet (hl : Listens w) : taken (quiet w) = (idle w ((batch w).length + 1)).event_ := by
  have hk : ticks w = (batch w).length + 1 := by rw [ticks, if_neg hl.1]
  have hq : taken (quiet w) = (idle (quiet w) 2).event_ := by
    rw [idle_event]
    unfold taken ticks
    rw [batch_quiet, if_neg (show (quiet w).net.last_status_ ≠ .timeout from hl.1),
      if_neg (show (quiet w).net.last_status_ ≠ .timeout from hl.1), if_pos rfl]
    rfl
  rw [hq, idle_quiet_two, idle_event, ← hk]
  exact if_neg (by simpa [interrupted] using hl.2)

end Unheard

/-! ## The comparison -/

section Compare

variable {w : World} {fuel : Nat} {target : NetworkLteState}

theorem take_fix_invalid {v : World}
    (h : (Replies.get_gnss_position (v.env v.clock).answer {}).2.fix.valid = false) :
    ∃ u, take_fix v = (some (.fix false), u) ∧ u.env = v.env ∧ u.clock = v.clock + 1 ∧ u.net.Like v.net := by
  refine ⟨(exchange (.other .get_gnss_position) v).2, ?_, rfl, rfl, Net.moves_bare _ _⟩
  unfold take_fix
  rw [bind_run]
  change (if _ then _ else _ : Prog World Heard) _ = _
  rw [if_neg (by rw [h]; simp)]
  rfl

theorem loop_deaf (hs : w.net.state_ ≠ .transparent_mode) (hb : ∀ urc ∈ batch w, Nmea urc) (hl : ¬ Listens w) :
    Alike (loop fuel target w).2 (loop fuel target (quiet w)).2 := by
  obtain ⟨t, v, hv, ht, hv'⟩ := loop_taken fuel target hs hb
  obtain ⟨t', u, hu, ht', hu'⟩ := loop_taken fuel target (show (quiet w).net.state_ ≠ _ from hs)
    (by simp [batch_quiet])
  have ha : Alike v u := by
    refine ⟨hv'.net.trans hu'.net.symm, fun j => ?_⟩
    rw [hv'.env, hv'.clock, hu'.env, hu'.clock, ticks_quiet]
    have hj := silent_later hl (ticks (quiet w) + j)
    change _ = (silent w (w.clock + _ + j)).said
    rw [show w.clock + (ticks (quiet w) + 2) + j = w.clock + 2 + (ticks (quiet w) + j) by omega, hj]
    congr 2
    omega
  have hr : Agree Alike (rest fuel target t) (rest fuel target t') :=
    Agree.bind (take_event_agree (by rw [ht, ht', taken_deaf hl])) fun _ => Respects.out
  rw [hv, hu]
  exact (hr v u ha).2

theorem on_timeout_ignored {u : World} (h : u.net.state_ = .data_ready ∧ u.net.lteConfig.data_ready_timeout_sec = 0) :
    on_timeout u = (some (), u) := by
  unfold on_timeout
  change (if _ then _ else _ : Prog World Unit) u = _
  rw [if_pos h]
  rfl

theorem take_event_idle {t : Taken} {u : World} (h : t.event = .none ∨ t.event = .timeout ∧
      u.net.state_ = .data_ready ∧ u.net.lteConfig.data_ready_timeout_sec = 0) :
    take_event t u = (some (), { u with log := .handled t .nothing :: u.log }) := by
  unfold take_event
  rcases h with h | ⟨h, hi⟩
  · rw [h]
    rfl
  · rw [h]
    change ((on_timeout >>= fun _ => pure .nothing) >>= fun h => record (.handled t h)) u = _
    rw [bind_run, bind_run, on_timeout_ignored hi]
    rfl

theorem loop_listening (hs : w.net.state_ ≠ .transparent_mode) (he : w.net.event_ = .none) (hn : batch w ≠ [])
    (hb : ∀ urc ∈ batch w, Nmea urc) (hl : Listens w) (ho : offered w = false) (hx : ¬ Expired w) :
    Alike (loop fuel target w).2 (loop fuel target (quiet w)).2 := by
  obtain ⟨t, v, hv, ht, hv'⟩ := loop_taken fuel target hs hb
  obtain ⟨t', u, hu, ht', hu'⟩ := loop_taken fuel target (show (quiet w).net.state_ ≠ _ from hs)
    (by simp [batch_quiet])
  have hq : ticks (quiet w) = 1 := by
    unfold ticks
    rw [batch_quiet, if_neg (show (quiet w).net.last_status_ ≠ .timeout from hl.1)]
    rfl
  have hk : ticks w = (batch w).length + 1 := by rw [ticks_quiet, hq]
  -- The loop with the batch asks for the position, and gets none.
  have hc : v.clock = w.clock + (batch w).length + 3 := by rw [hv'.clock, hk]; omega
  have hf : (Replies.get_gnss_position (v.env v.clock).answer {}).2.fix.valid = false := by
    rw [hv'.env, hc]
    exact ho
  obtain ⟨v₂, hfix, henv, hclock, hnet⟩ := take_fix_invalid hf
  have htv : take_event t v = (some (), { v₂ with log := .handled t (.fix false) :: v₂.log }) := by
    unfold take_event
    rw [ht, taken_of_listens hl hn]
    change (take_fix >>= fun h => record (.handled t h)) v = _
    rw [bind_run, hfix]
    rfl
  -- The loop without it has nothing to handle.
  have hi : u.net.state_ = w.net.state_ ∧ u.net.lteConfig = w.net.lteConfig :=
    ⟨hu'.net.state_, hu'.net.eq (f := Net.lteConfig) fun _ => rfl⟩
  have htu : take_event t' u = (some (), { u with log := .handled t' .nothing :: u.log }) := by
    apply take_event_idle
    rw [ht', taken_quiet hl, hi.1, hi.2]
    rcases idle_event_cases w ((batch w).length + 1) with h | h
    · exact .inl (h.trans he)
    · exact .inr ⟨h, not_not.mp fun hd => hx ⟨h, hd⟩⟩
  have ha : Alike { v₂ with log := .handled t (.fix false) :: v₂.log } { u with log := .handled t' .nothing :: u.log } := by
    refine ⟨hnet.trans (hv'.net.trans hu'.net.symm), fun j => ?_⟩
    have hj := silent_said hl j
    change (v₂.env (v₂.clock + j)).said = (u.env (u.clock + j)).said
    rw [henv, hclock, hv'.env, hc, hu'.env, hu'.clock, hq]
    exact hj.symm
  rw [hv, hu, rest, rest, bind_run, bind_run, htv, htu]
  exact (Respects.out (m := finish_loop fuel target) _ _ ha).2

theorem take_fix_valid {v : World}
    (h : (Replies.get_gnss_position (v.env v.clock).answer {}).2.fix.valid = true) :
    ∃ u, take_fix v = (some (.fix true), u) ∧ u.net.state_ = v.net.state_ ∧ u.net.modem_action_ = .leave_gnss_fix := by
  let pos := (Replies.get_gnss_position (v.env v.clock).answer {}).2
  have hm : ((v.env v.clock).moves.foldl Net.move v.net).Like v.net := Net.moves_bare _ _
  have hr : take_fix v = (do
      updateData fun d => { d with gnssPosition := pos }
      call_action .leave_gnss_fix
      pure (.fix true) : Prog World Heard) (exchange (.other .get_gnss_position) v).2 := by
    unfold take_fix
    rw [bind_run]
    change (if _ then _ else _ : Prog World Heard) _ = _
    rw [if_pos h]
    rfl
  rw [hr]
  exact ⟨_, rfl, hm.state_, rfl⟩

/-- In this state, with this action pending. -/
def At (s : NetworkLteState) (a : ModemAction) (n : Net) (_ : List Entry) : Prop :=
  n.state_ = s ∧ n.modem_action_ = a

theorem end_loop_at {s : NetworkLteState} {a : ModemAction} {X : World → Prop} :
    Triple (Under Always (At s a)) end_loop (fun _ => Under Always (At s a)) X := by
  refine Triple.bind (triple_tick fun n l m h => ?_) fun _ => Triple.bind triple_net fun n => ?_
  · simpa [At] using h
  · refine Triple.bind (Q := fun _ => Under Always (At s a)) ?_ fun _ => Triple.pure fun _ hw => hw
    exact triple_record fun _ _ _ h => h.2

theorem leave_gnss_fix_at {X : World → Prop} :
    Triple (Under Always Whatever) leave_gnss_fix
      (fun _ => Under Always (At .idle_mode .query_network_status)) X := by
  refine Triple.bind (Preserves.out (m := xE310.set_gnss_power false)) fun _ => ?_
  refine Triple.bind (Preserves.out (m := xE310.send (.other (.set_gnss_urc false)))) fun _ => ?_
  refine Triple.bind (triple_change_state_in (P := Whatever) (fun _ _ h => h) fun _ _ _ h => h) fun _ => ?_
  refine Triple.bind (Q := fun _ => Under Always (At .idle_mode .query_network_status)) ?_ fun _ => ?_
  · exact triple_updateNet fun _ _ h => ⟨h.1, rfl⟩
  · exact Triple.pure fun _ hw => hw

/-- Where a loop from `s` ends that took a fix: in its target, or else behind the stop commands. -/
def Leaving (s target : NetworkLteState) : Net → List Entry → Prop :=
  if s = target ∧ target ≠ .none then At s .leave_gnss_fix else At .idle_mode .query_network_status

theorem finish_loop_at (s : NetworkLteState) :
    Triple (Under Always (At s .leave_gnss_fix)) (finish_loop fuel target)
      (fun _ => Under Always (Leaving s target)) (Under Always (Leaving s target)) := by
  refine Triple.bind triple_net fun n => ?_
  refine triple_pre (P := fun m l => n.state_ = s ∧ At s .leave_gnss_fix m l) ?_ (triple_fact ?_)
  · rintro m l ⟨rfl, h⟩
    exact ⟨h.1, h⟩
  rintro rfl
  apply Triple.ite
  · intro ht
    rw [Leaving, if_pos ht]
    exact end_loop_at
  · intro ht
    rw [Leaving, if_neg ht]
    refine Triple.bind (Q := fun _ => Under Always (At .idle_mode .query_network_status)) ?_ fun _ => end_loop_at
    refine Triple.bind (triple_get_action (R := fun a n l => a = .leave_gnss_fix ∧ Whatever n l) ?_) fun a => ?_
    · exact fun _ _ h => ⟨h.2, trivial⟩
    refine triple_fact ?_
    rintro rfl
    refine Triple.bind (Preserves.out (m := net)) fun _ => ?_
    refine Triple.bind leave_gnss_fix_at fun _ => ?_
    exact triple_record fun _ _ _ h => h

theorem loop_leaves (hs : w.net.state_ ≠ .transparent_mode) (hn : batch w ≠ []) (hb : ∀ urc ∈ batch w, Nmea urc)
    (hl : Listens w) (ho : offered w = true) :
    Under Always (Leaving w.net.state_ target) (loop fuel target w).2 := by
  obtain ⟨t, v, hv, ht, hv'⟩ := loop_taken fuel target hs hb
  have hk : ticks w = (batch w).length + 1 := by rw [ticks, if_neg hl.1]
  have hc : v.clock = w.clock + (batch w).length + 3 := by rw [hv'.clock, hk]; omega
  have hf : (Replies.get_gnss_position (v.env v.clock).answer {}).2.fix.valid = true := by
    rw [hv'.env, hc]
    exact ho
  obtain ⟨u, hfix, hstate, haction⟩ := take_fix_valid hf
  have htv : take_event t v = (some (), { u with log := .handled t (.fix true) :: u.log }) := by
    unfold take_event
    rw [ht, taken_of_listens hl hn]
    change (take_fix >>= fun h => record (.handled t h)) v = _
    rw [bind_run, hfix]
    rfl
  rw [hv, rest, bind_run, htv]
  have hu : Under Always (At w.net.state_ .leave_gnss_fix) { u with log := .handled t (.fix true) :: u.log } :=
    fun _ => ⟨hstate.trans hv'.net.state_, haction⟩
  exact (finish_loop_at w.net.state_).final hu

end Compare

/-- A loop that handles late sentences ends in the state, and with the action pending, of the loop without
them, where they are harmless. Where a fix hangs on them, it carries out `leave_gnss_fix` instead. -/
theorem late_nmea_harmless (w : World) (fuel : Nat) (target : NetworkLteState) :
    w.net.state_ ≠ .gnss_fix_mode → w.net.event_ = .none → (∀ urc ∈ batch w, Nmea urc) →
      let n := (loop fuel target w).2.net
      let m := (loop fuel target (unheard w)).2.net
      (Harmless w → n.state_ = m.state_ ∧ n.modem_action_ = m.modem_action_) ∧
        (¬ Harmless w → offered w = true →
          (w.net.state_ = target ∧ target ≠ .none → n.state_ = target ∧ n.modem_action_ = .leave_gnss_fix) ∧
          (¬ (w.net.state_ = target ∧ target ≠ .none) →
            n.state_ = .idle_mode ∧ n.modem_action_ = .query_network_status)) := by
  intro _ he hb n m
  constructor
  · intro hw
    by_cases hu : w.net.state_ = .transparent_mode ∨ batch w = []
    · have hm : unheard w = w := if_pos hu
      dsimp only [n, m]
      rw [hm]
      exact ⟨rfl, rfl⟩
    · have hm : unheard w = quiet w := if_neg hu
      rw [not_or] at hu
      have ha : Alike (loop fuel target w).2 (loop fuel target (quiet w)).2 := by
        rcases hw with hs | hn | hl | ⟨ho, hx⟩
        · exact absurd hs hu.1
        · exact absurd hn hu.2
        · exact loop_deaf hu.1 hb hl
        · by_cases hl : Listens w
          · exact loop_listening hu.1 he hu.2 hb hl ho hx
          · exact loop_deaf hu.1 hb hl
      dsimp only [n, m]
      rw [hm]
      exact ⟨ha.net.state_, ha.net.modem_action_⟩
  · intro hw ho
    rw [Harmless, not_or, not_or, not_or, not_not] at hw
    have hl : Leaving w.net.state_ target n (loop fuel target w).2.log :=
      loop_leaves hw.1 hw.2.1 hb hw.2.2.1 ho fun _ _ => trivial
    constructor
    · intro ht
      rw [Leaving, if_pos ht] at hl
      exact ⟨hl.1.trans ht.1, hl.2⟩
    · intro ht
      rw [Leaving, if_neg ht] at hl
      exact hl

def fixed : String := "$GPSACP: 120000.000,4830.0000N,00230.0000W,1.0,50.0,3,0.0,0.0,0.0,010125,08"

def sentence : String := "$GPGSA,A,3,04,05,,09,12,,,24,,,,,2.5,1.3,2.1*39"

/-- A position is acquired, and one more sentence comes in the loop after that. -/
def afterFix (answer : String) : World :=
  (run 9 [.acquire_gnss_position] (initial {} false (script [(18, "$GPSP: 0"), (29, fixed), (41, answer)]
    [(25, sentence), (37, sentence)]))).2

theorem late_nmea_harmless_after_fix :
    let w := afterFix "$GPSACP: ,,,,,1,,,,,"
    let v := afterFix fixed
    (Harmless w ∧ (loop 9 .none w).2.net.state_ = (loop 9 .none (unheard w)).2.net.state_ ∧
        (loop 9 .none w).2.net.modem_action_ = (loop 9 .none (unheard w)).2.net.modem_action_) ∧
      (¬ Harmless v ∧ offered v = true ∧
        (loop 9 .none v).2.net.state_ = .idle_mode ∧
        (loop 9 .none v).2.net.modem_action_ = .query_network_status) := by
  intro w v
  obtain ⟨hw, hws, hwe, hwb⟩ : Harmless w ∧ w.net.state_ ≠ .gnss_fix_mode ∧ w.net.event_ = .none ∧
      ∀ urc ∈ batch w, Nmea urc := by decide +kernel
  obtain ⟨hv, ho, hvs, hve, hvb⟩ : ¬ Harmless v ∧ offered v = true ∧ v.net.state_ ≠ .gnss_fix_mode ∧
      v.net.event_ = .none ∧ ∀ urc ∈ batch v, Nmea urc := by decide +kernel
  refine ⟨⟨hw, ?_⟩, hv, ho, ?_⟩
  · exact (late_nmea_harmless w 9 .none hws hwe hwb).1 hw
  · have h := (late_nmea_harmless v 9 .none hvs hve hvb).2 hv ho
    exact h.2 fun ht => ht.2 rfl

/-- The modem still reports the position, so the machine stops the receiver once more, and the network
is not asked about. -/
theorem late_sentence_stops_again :
    let w := afterFix fixed
    (w.net.state_ = .idle_mode ∧ w.net.event_ = .none ∧ ∀ urc ∈ batch w, Nmea urc) ∧
      ¬ ((loop 9 .none w).2.net.state_ = (loop 9 .none (unheard w)).2.net.state_ ∧
        (loop 9 .none w).2.net.modem_action_ = (loop 9 .none (unheard w)).2.net.modem_action_) := by
  decide +kernel

end LteModem.NetworkLte.LateNmea
