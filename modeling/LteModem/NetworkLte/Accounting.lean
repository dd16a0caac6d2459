import LteModem.NetworkLte.Frame
import Mathlib.Algebra.GroupWithZero.Nat

/-!
# The time spent in a state

One timer measures the visits to all timed states. It is started some time after the state is entered, by a
`start` that may be refused, and `force_psm` starts it again in the middle of a visit. What it measures is the
length of the visit only where none of this happens.
-/

open Prog Strings

set_option synthInstance.maxSize 100000

namespace LteModem.NetworkLte.Accounting

/-- The counter of a timed state. -/
def counter (t : StateTimers) : NetworkLteState → Nat
  | .network_attaching => t.network_attaching_ms
  | .pdp_context_opening => t.pdp_context_opening_ms
  | .data_ready => t.data_ready_ms
  | .transparent_mode => t.transparent_mode_ms
  | .gnss_fix_mode => t.gnss_fix_mode_ms
  | .sleep_mode => t.sleep_mode_ms
  | .off_mode => t.off_mode_ms
  | _ => 0

theorem counter_add (t : StateTimers) (ms : Nat) (s : NetworkLteState) (hs : s.timed = true) :
    counter (t.add ms s) s = (counter t s + ms) % 2 ^ 32 := by
  cases s <;> first | rfl | cases hs

theorem counter_add_of_ne (t : StateTimers) (ms : Nat) {r s : NetworkLteState} (h : r ≠ s) :
    counter (t.add ms s) r = counter t r := by
  cases s <;> first | rfl | (cases r <;> first | rfl | exact absurd rfl h)

/-- The time of the finished visits to a state. -/
def spent (s : NetworkLteState) (visits : List Visit) : Nat :=
  ((visits.filter (·.state = s)).map fun v => v.left - v.entered).sum

/-- The machine that leaves the state has a timer that was started when it entered the state, and reads the clock
when it leaves. -/
def onTime (n : Net) : Bool :=
  n.data.timing.measured = n.data.timing.entered &&
    n.data.timing.visits.head?.map (·.entered) = n.st_timer.start_

/-- The end of a visit to `s` is on time. -/
def punctual (s : NetworkLteState) : Entry → Bool
  | .left n => n.prev_state_ ≠ s || onTime n
  | _ => true

/-- The counters of the states whose visits were measured on time hold the time of the finished visits. -/
def Tally (l : List Entry) (t : StateTimers) (visits : List Visit) : Prop :=
  ∀ s : NetworkLteState, s.timed = true → (∀ e ∈ l, punctual s e = true) → counter t s = spent s visits % 2 ^ 32

def timersOf : Entry → Option StateTimers
  | .left n => some n.data.stateTimers_
  | _ => none

/-- The counters at the last change of state. -/
def lastTimers : List Entry → StateTimers
  | [] => {}
  | e :: l => (timersOf e).getD (lastTimers l)

/-- A change of state changes the counter of the old state only. -/
def Sole : List Entry → Prop
  | [] => True
  | e :: l => (∀ n, e = .left n → ∀ s, s ≠ n.prev_state_ → counter n.data.stateTimers_ s = counter (lastTimers l) s) ∧
      Sole l

theorem Sole.append {l : List Entry} (newer : List Entry) (h : Sole (newer ++ l)) : Sole l := by
  induction newer with
  | nil => exact h
  | cons e newer ih => exact ih h.2

structure Books (n : Net) (l : List Entry) : Prop where
  last : n.data.stateTimers_ = lastTimers l
  sole : Sole l
  tally : Tally l n.data.stateTimers_ n.data.timing.visits

theorem Books.note {n : Net} {l : List Entry} {e : Entry} (h : Books n l) (he : timersOf e = none) :
    Books n (e :: l) where
  last := by
    unfold lastTimers
    rw [he]
    exact h.last
  sole := by
    refine ⟨?_, h.sole⟩
    rintro m rfl
    cases he
  tally s hs hp := h.tally s hs fun f hf => hp f (List.mem_cons_of_mem e hf)

theorem Books.same {n m : Net} {l : List Entry} (h : Books n l) (hd : Same n.data m.data) : Books m l where
  last := hd.stateTimers_.trans h.last
  sole := h.sole
  tally := by
    rw [hd.stateTimers_, hd.timing]
    exact h.tally

section Steps

variable {G : Entry → Prop} {X : World → Prop}

instance : Uncounted Books := ⟨fun _ _ _ h => ⟨h.last, h.sole, h.tally⟩⟩
instance : Unqueued Books := ⟨fun _ _ _ h => ⟨h.last, h.sole, h.tally⟩⟩
instance : Addressless Books := ⟨fun _ _ _ h => ⟨h.last, h.sole, h.tally⟩, fun _ _ h => ⟨h.last, h.sole, h.tally⟩⟩
instance : Unflagged Books := ⟨fun _ _ _ _ h => ⟨h.last, h.sole, h.tally⟩⟩
instance : Fixless Books := ⟨fun _ _ _ h => ⟨h.last, h.sole, h.tally⟩⟩
instance : Restarting Books := ⟨fun _ _ h => h.same {}⟩

instance : Free G Books where
  move n _ m h := h.same (move_same n m)
  data _ _ _ hd h := h.same hd
  last_status _ _ _ h := h.same {}
  other _ _ _ _ _ _ h := (h.note rfl).same {}
  prompt _ _ _ _ _ _ h := h.note rfl
  cold _ _ _ h := h.same {}
  warm _ _ _ h := h.same {}
  config _ _ _ h := h.same {}
  reset _ _ h := h.same {}
  action _ _ _ _ h := h.same {}
  event _ _ _ _ h := h.same {}
  urc _ _ _ _ _ _ h := (h.note rfl).same {}
  cfun _ _ _ _ _ _ h := (h.note rfl).same {}
  ran _ _ _ _ _ _ h := h.note rfl
  polled _ _ _ _ h := h.note rfl
  loopEnd _ _ _ _ h := h.note rfl
  called _ _ _ _ _ h := h.note rfl

instance : Timeless G Books where
  st_timer _ _ _ h := h.same {}
  timer _ _ _ h := h.same {}
  started _ _ _ _ h := h.note rfl

instance (cmd : AtCmd) : Preserves (Under G Books) (exchange cmd) X :=
  exchange_preserves fun _ _ _ _ h => (h.note rfl).same {}
instance (t : Taken) (h : Heard) : Preserves (Under G Books) (record (.handled t h)) X :=
  ⟨triple_record fun _ _ _ h => h.note rfl⟩
instance (offers : List Offer) (n : Net) : Preserves (Under G Books) (record (.searched offers n)) X :=
  ⟨triple_record fun _ _ _ h => h.note rfl⟩
instance (opened : Option ModemStatus) : Preserves (Under G Books) (record (.resumed opened)) X :=
  ⟨triple_record fun _ _ _ h => h.note rfl⟩
instance (k : Conn) (f : ServerInfo → ServerInfo) : Preserves (Under G Books) (update_server k f) X :=
  ⟨triple_updateNet fun _ _ h => h.same {}⟩

/-! ## change_state -/

/-- The books before the visit `v` to the old state is entered, with `ms` more for the old state. -/
structure Open (prev : NetworkLteState) (ms : Nat) (n : Net) (l : List Entry) : Prop where
  prev_state : n.prev_state_ = prev
  sole : Sole l
  other : ∀ s, s ≠ prev → counter n.data.stateTimers_ s = counter (lastTimers l) s
  visit : ∃ v vs, n.data.timing.visits = v :: vs ∧ v.state = prev ∧ v.left = n.data.timing.entered ∧
    ∀ s : NetworkLteState, s.timed = true → (∀ e ∈ l, punctual s e = true) →
      counter n.data.stateTimers_ s = (spent s vs + if s = prev then ms else 0) % 2 ^ 32

/-- What the state timer measured. -/
def elapsed (n : Net) : Nat := n.st_timer.elapsed_ms n.data.timing.measured

/-- The old state has been charged with what the timer measured. -/
def Paid (prev : NetworkLteState) (n : Net) (l : List Entry) : Prop := Open prev (elapsed n) n l

variable {prev : NetworkLteState} {ms : Nat}

theorem Open.same {n m : Net} {l : List Entry} (h : Open prev ms n l) (hp : m.prev_state_ = n.prev_state_)
    (hd : Same n.data m.data) : Open prev ms m l where
  prev_state := hp.trans h.prev_state
  sole := h.sole
  other s hs := by
    rw [hd.stateTimers_]
    exact h.other s hs
  visit := by
    rw [hd.stateTimers_, hd.timing]
    exact h.visit

theorem Open.move {n : Net} {l : List Entry} (h : Open prev ms n l) (m : Net.Move) : Open prev ms (n.move m) l :=
  h.same (n.move_prev_state_ m) (move_same n m)

theorem elapsed_congr {n m : Net} (ht : m.st_timer.start_ = n.st_timer.start_)
    (hd : m.data.timing = n.data.timing) : elapsed m = elapsed n := by
  unfold elapsed Timer.elapsed_ms
  rw [ht, hd]

theorem move_start (n : Net) (m : Net.Move) : (n.move m).st_timer.start_ = n.st_timer.start_ := by
  unfold Net.move Net.put
  split
  · dsimp only
    unfold Timer.expire
    split <;> rfl
  · split <;> rfl
  · split <;> rfl

theorem Paid.move {n : Net} {l : List Entry} (h : Paid prev n l) (m : Net.Move) : Paid prev (n.move m) l := by
  unfold Paid
  rw [elapsed_congr (move_start n m) (move_same n m).timing]
  exact Open.move h m

theorem stop_start (t : Timer Callback) : t.stop.2.start_ = t.start_ := by
  unfold Timer.stop
  split <;> rfl

instance : Still G (Open prev ms) where
  move _ _ m h := h.move m
  data _ _ _ hd h := h.same rfl hd

theorem set_state_spec {s : NetworkLteState} :
    Triple (Under G fun n l => n.state_ = prev ∧ Books n l) (set_state s) (fun _ => Under G (Open prev 0)) X := by
  refine Triple.bind (triple_tick fun n l m h => ?_) fun t => ?_
  · exact ⟨(n.move_state_ m).trans h.1, h.2.same (move_same n m)⟩
  · refine Triple.bind (Q := fun _ => Under G fun n l => n.state_ = prev ∧ Sole l ∧ n.data.stateTimers_ = lastTimers l ∧
      ∃ v vs, n.data.timing.visits = v :: vs ∧ v.state = prev ∧ v.left = n.data.timing.entered ∧
        Tally l n.data.stateTimers_ vs) (triple_updateNet ?_) fun _ => triple_updateNet ?_
    · rintro n l ⟨rfl, h⟩
      exact ⟨rfl, h.sole, h.last, _, _, rfl, rfl, rfl, h.tally⟩
    · rintro n l ⟨rfl, hs, ht, v, vs, hv, hp, he, h⟩
      refine ⟨rfl, hs, fun s _ => congrArg (counter · s) ht, v, vs, hv, hp, he, fun s hs hl => ?_⟩
      rw [ite_self, Nat.add_zero]
      exact h s hs hl

theorem Open.add {n : Net} {l : List Entry} (h : Open prev 0 n l) (hp : prev.timed = true) :
    Open prev ms { n with data := { n.data with stateTimers_ := n.data.stateTimers_.add ms prev } } l where
  prev_state := h.prev_state
  sole := h.sole
  other s hs := (counter_add_of_ne _ _ hs).trans (h.other s hs)
  visit := by
    obtain ⟨v, vs, hv, hs, he, ht⟩ := h.visit
    refine ⟨v, vs, hv, hs, he, fun s hst hl => ?_⟩
    have hc := ht s hst hl
    by_cases h : s = prev
    · subst h
      simp only [counter_add _ _ _ hp, hc, if_true]
      omega
    · simpa [counter_add_of_ne _ _ h, h] using hc

theorem leave_state_spec :
    Triple (Under G (Open prev 0)) (leave_state prev) (fun _ => Under G (Paid prev)) X := by
  refine Triple.ite (fun hp => ?_) fun hp => triple_pure fun n l h => ?_
  · refine Triple.bind (Q := fun ms => Under G fun n l => Open prev 0 n l ∧ ms = elapsed n) ?_ fun ms => ?_
    · refine Triple.bind (Preserves.out (m := tick)) fun t => ?_
      refine Triple.bind (Q := fun _ => Under G fun n l => Open prev 0 n l ∧ n.data.timing.measured = t.now) ?_ fun _ => ?_
      · exact triple_updateNet fun _ _ h => ⟨⟨h.prev_state, h.sole, h.other, h.visit⟩, rfl⟩
      · refine Triple.bind triple_net fun n => triple_pure ?_
        rintro m l ⟨rfl, h, hm⟩
        refine ⟨h, ?_⟩
        unfold elapsed
        rw [hm]
    · refine Triple.bind (Q := fun _ => Under G (Paid prev)) (triple_updateNet ?_) fun _ => ?_
      · rintro n l ⟨h, rfl⟩
        exact h.add hp
      · refine triple_stop_state_timer (fun _ _ m h => h.move m) fun n l h => ?_
        have he : elapsed { n with st_timer := n.st_timer.stop.2 } = elapsed n := elapsed_congr (stop_start _) rfl
        unfold Paid
        rw [he]
        exact Open.same h rfl {}
  · obtain ⟨v, vs, hv, hs, he, ht⟩ := h.visit
    refine ⟨h.prev_state, h.sole, h.other, v, vs, hv, hs, he, fun s hst hl => ?_⟩
    have hn : s ≠ prev := by
      rintro rfl
      exact hp hst
    simpa [hn] using ht s hst hl

theorem spent_cons (s : NetworkLteState) (v : Visit) (vs : List Visit) :
    spent s (v :: vs) = (if v.state = s then v.left - v.entered else 0) + spent s vs := by
  unfold spent
  by_cases h : v.state = s <;> simp [h]

theorem Paid.books {n : Net} {l : List Entry} (h : Paid prev n l) : Books n (.left n :: l) where
  last := rfl
  sole := by
    refine ⟨?_, h.sole⟩
    rintro m ⟨⟩ s hs
    exact h.other s (h.prev_state ▸ hs)
  tally s hst hp := by
    obtain ⟨v, vs, hv, hs, he, ht⟩ := h.visit
    rw [ht s hst fun e hm => hp e (List.mem_cons_of_mem _ hm), hv, spent_cons, hs]
    by_cases hsp : s = prev
    · subst hsp
      have ho : punctual s (.left n) = true := hp _ List.mem_cons_self
      obtain ⟨hm, hst⟩ : n.data.timing.measured = n.data.timing.entered ∧ some v.entered = n.st_timer.start_ := by
        simpa [punctual, onTime, h.prev_state, hv] using ho
      have hel : elapsed n = (v.left - v.entered) % 2 ^ 32 := by
        unfold elapsed Timer.elapsed_ms
        rw [← hst, hm, he]
      rw [if_pos rfl, if_pos rfl, hel]
      omega
    · simp [hsp, Ne.symm hsp]

instance (s : NetworkLteState) : Preserves (Under G Books) (change_state s) X := by
  refine ⟨Triple.bind triple_net fun n => Triple.ite (fun _ => triple_pure fun _ _ h => h.2) fun _ => ?_⟩
  refine Triple.bind (Q := fun _ => Under G (Open n.state_ 0)) ?_ fun _ => Triple.bind leave_state_spec fun _ => ?_
  · refine triple_pre ?_ set_state_spec
    rintro m l ⟨rfl, h⟩
    exact ⟨rfl, h⟩
  · refine Triple.bind triple_net fun m => Triple.bind (Q := fun _ => Under G Books) ?_ fun _ => Preserves.out
    refine triple_record ?_
    rintro _ l - ⟨rfl, h⟩
    exact h.books

instance : Preserves (Under G Books) force_psm X := by
  unfold force_psm
  infer_instance

end Steps

/-! ## Runs -/

theorem exec_books (fuel : Nat) (c : Call) : Preserves (Under Always Books) (c.exec fuel) :=
  exec_preserves fuel c (fun _ _ => inferInstance) (fun _ _ => inferInstance) (fun _ => inferInstance)
    (fun _ _ => inferInstance) fun _ _ => inferInstance

theorem run_books (fuel : Nat) (calls : List Call) : Preserves (Under Always Books) (run fuel calls) := by
  refine run_preserves fuel (fun c => ?_) calls
  have := exec_books fuel c
  infer_instance

/-- For every run and every clock: if every visit to a timed state is measured from its beginning to its end, the
counter is the sum of the visits. In any case a change of state leaves the counters of the other states alone. -/
theorem state_time_accounting (config : NetworkLteConfig) (with_timer : Bool) (env : Nat → Tick) (fuel : Nat)
    (calls : List Call) :
    let w := (run fuel calls (initial config with_timer env)).2
    (∀ s : NetworkLteState, s.timed = true → (∀ e ∈ w.log, punctual s e = true) →
      counter w.net.data.stateTimers_ s = spent s w.net.data.timing.visits % 2 ^ 32) ∧
    ∀ newer n l, w.log = newer ++ .left n :: l → ∀ s, s ≠ n.prev_state_ →
      counter n.data.stateTimers_ s = counter (lastTimers l) s := by
  intro w
  have h : Books w.net w.log := (run_books fuel calls).final (s := initial config with_timer env)
    (fun _ => ⟨rfl, trivial, fun s _ _ => by cases s <;> rfl⟩) fun _ _ => trivial
  refine ⟨h.tally, fun newer n l hl => ?_⟩
  have hs := h.sole
  rw [hl] at hs
  exact (hs.append newer).1 n rfl

theorem state_time_accounting_transparent :
    let w := (run 6 [.call_action .enter_transparent_mode, .loop, .leave_transparent_mode]
      (initial {} false fun i => { now := if i < 10 then 1000 else 5000 })).2
    counter w.net.data.stateTimers_ .transparent_mode = spent .transparent_mode w.net.data.timing.visits % 2 ^ 32 ∧
      spent .transparent_mode w.net.data.timing.visits = 4000 :=
  ⟨(state_time_accounting {} false (fun i => { now := if i < 10 then 1000 else 5000 }) 6
    [.call_action .enter_transparent_mode, .loop, .leave_transparent_mode]).1 .transparent_mode rfl
      (by decide +kernel), by decide +kernel⟩

/-- A connection whose commands on entry to `data_ready` take three seconds. -/
def slowEntry : Nat → Tick := fun i =>
  { script [(25, "+CEREG: 0,1"), (31, "#SGACT: 1,1"), (32, "+CGPADDR: 1,\"10.0.0.7\"")] [] i with
    now := if i < 36 then 1000 else if i < 43 then 4000 else 9000 }

theorem entry_commands_not_counted :
    let w := (run 6 [.network_connect, .network_disconnect] (initial {} false slowEntry)).2
    w.net.data.timing.visits.head? = some ⟨.data_ready, 1000, 9000⟩ ∧
      spent .data_ready w.net.data.timing.visits = 8000 ∧ counter w.net.data.stateTimers_ .data_ready = 5000 := by
  decide +kernel

end LteModem.NetworkLte.Accounting
