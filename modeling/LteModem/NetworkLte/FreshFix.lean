import LteModem.NetworkLte.Frame

/-!
# The age of a position

`acquire_gnss_position` waits until the machine has left `gnss_fix_mode` and then looks at the cached
position. A position that an earlier call cached is still there when the receiver found none.
-/

open Prog Strings

set_option synthInstance.maxSize 100000

namespace LteModem.NetworkLte.FreshFix

/-- The position of an answer that the machine takes for a fix. -/
def fixOf : Entry → Option GnssPosition
  | .exchange (.other .get_gnss_position) a =>
    let pos := (Replies.get_gnss_position a {}).2
    if pos.fix.valid then some pos else none
  | _ => none

def fixes (l : List Entry) : List GnssPosition := l.filterMap fixOf

/-- A fix in two or three dimensions. The machine takes every type above 1 for a fix. -/
def twoOrThree (pos : GnssPosition) : Bool := pos.fix.value = 2 ∨ pos.fix.value = 3

/-- What a call returned is the last such position that the modem reported meanwhile. -/
def Fresh (r : Option GnssPosition) (l : List Entry) : Prop :=
  ∀ pos, r = some pos → ((fixes l).filter twoOrThree).head? = some pos

/-- The cache holds the last fix, or what it held before. -/
def Cached (old : GnssPosition) (n : Net) (l : List Entry) : Prop := n.data.gnssPosition = (fixes l).headD old

section Steps

variable {G : Entry → Prop} {X : World → Prop} {old : GnssPosition}

theorem Cached.note {n : Net} {l : List Entry} {e : Entry} (h : Cached old n l) (he : fixOf e = none) :
    Cached old n (e :: l) := by
  unfold Cached fixes
  rw [List.filterMap_cons_none he]
  exact h

theorem Cached.same {n m : Net} {l : List Entry} (h : Cached old n l) (hd : Same n.data m.data) : Cached old m l :=
  hd.gnssPosition.trans h

theorem fixOf_plain {c : Command} (hc : plain c = true) (a : Answer) : fixOf (.exchange (.other c) a) = none := by
  cases c <;> first | rfl | cases hc

instance : Uncounted (Cached old) := ⟨fun _ _ _ h => h⟩
instance : Unqueued (Cached old) := ⟨fun _ _ _ h => h⟩
instance : Addressless (Cached old) := ⟨fun _ _ _ h => h, fun _ _ h => h⟩
instance : Unflagged (Cached old) := ⟨fun _ _ _ _ h => h⟩
instance : Untimed (Cached old) := ⟨fun _ _ _ _ h => h⟩
instance : Restarting (Cached old) := ⟨fun _ _ h => h⟩

instance : Free G (Cached old) where
  move n _ m h := h.same (move_same n m)
  data _ _ _ hd h := h.same hd
  last_status _ _ _ h := h
  other _ _ _ a hc _ h := h.note (fixOf_plain hc a)
  prompt _ _ _ a hc _ h := h.note (fixOf_plain hc a)
  cold _ _ _ h := h
  warm _ _ _ h := h
  config _ _ _ h := h
  reset _ _ h := h
  action _ _ _ _ h := h
  event _ _ _ _ h := h
  urc _ _ _ _ _ _ h := h.note rfl
  cfun _ _ _ _ _ _ h := h.note rfl
  ran _ _ _ _ _ _ h := h.note rfl
  polled _ _ _ _ h := h.note rfl
  loopEnd _ _ _ _ h := h.note rfl
  called _ _ _ _ _ h := h.note rfl

instance : Timeless G (Cached old) where
  st_timer _ _ _ h := h
  timer _ _ _ h := h
  started _ _ _ _ h := h.note rfl

instance : Preserves (Under G (Cached old)) (exchange .reboot) X := exchange_preserves fun _ _ _ _ h => h.note rfl
instance : Preserves (Under G (Cached old)) (exchange (.cfun 11)) X := exchange_preserves fun _ _ _ _ h => h.note rfl
instance (conn_id size : Nat) : Preserves (Under G (Cached old)) (exchange (.other (.udp_receive conn_id size))) X :=
  exchange_preserves fun _ _ _ _ h => h.note rfl
instance (b : Bool) : Preserves (Under G (Cached old)) (exchange (.other (.set_gnss_power b))) X :=
  exchange_preserves fun _ _ _ _ h => h.note rfl
instance (t : Taken) (h : Heard) : Preserves (Under G (Cached old)) (record (.handled t h)) X :=
  ⟨triple_record fun _ _ _ h => h.note rfl⟩

instance (s : NetworkLteState) : Preserves (Under G (Cached old)) (change_state s) X :=
  ⟨triple_post (fun _ _ _ h => h.2) (triple_change_state_in (fun _ _ h => h) fun _ _ _ h => h.note rfl)⟩

/-- The answer to `AT$GPSACP` is in the log before the cache has it. -/
def Taking (old : GnssPosition) (pos : GnssPosition) (n : Net) (l : List Entry) : Prop :=
  ∃ a l', l = .exchange (.other .get_gnss_position) a :: l' ∧ pos = (Replies.get_gnss_position a {}).2 ∧
    Cached old n l'

instance : Preserves (Under G (Cached old)) take_fix X := by
  refine ⟨Triple.bind (triple_ask (R := fun r => Taking old r.2) fun n l a _ h => ?_) fun pos => ?_⟩
  · exact ⟨a, l, rfl, rfl, h⟩
  · refine Triple.ite (fun hv => ?_) fun hv => triple_pure ?_
    · refine Triple.bind (Q := fun _ => Under G (Cached old)) (triple_updateNet ?_) fun _ => Preserves.out
      rintro n _ ⟨a, l, rfl, hp, h⟩
      have hf : fixOf (.exchange (.other .get_gnss_position) a) = some pos.2 := by
        rw [hp] at hv ⊢
        exact if_pos hv
      unfold Cached fixes
      rw [List.filterMap_cons_some hf]
      rfl
    · rintro n _ ⟨a, l, rfl, hp, h⟩
      refine h.note (if_neg ?_)
      rwa [← hp]

end Steps

/-! ## acquire_gnss_position -/

/-- The first part of the call: the way to `gnss_fix_mode`. -/
def seek (fuel : Nat) : Prog World Unit := do
  let n ← net
  .when (n.state_ ≠ .gnss_fix_mode) do
    let _ ← go_to_state .gnss_fix_mode fuel

/-- The receiver is on after the first part of the call. -/
def entered (fuel : Nat) (w : World) : Prop := (seek fuel w).2.net.state_ = .gnss_fix_mode

def result (n : Net) : Option GnssPosition :=
  if n.data.gnssPosition.fix.valid then some n.data.gnssPosition else none

theorem acquire_gnss_position_eq (fuel : Nat) :
    acquire_gnss_position fuel = (do
      seek fuel
      let n ← net
      if n.state_ ≠ .gnss_fix_mode then pure none
      else do
        wait_for_fix fuel
        let n ← net
        pure (result n)) := by
  funext w
  simp only [acquire_gnss_position, seek, net, bind_run, gets_run]
  rcases Prog.when (w.net.state_ ≠ .gnss_fix_mode) (do let _ ← go_to_state .gnss_fix_mode fuel) w with ⟨_ | _, v⟩ <;> rfl

theorem acquire_result {fuel : Nat} {w v : World} {r : Option GnssPosition}
    (h : acquire_gnss_position fuel w = (some r, v)) :
    (entered fuel w → r = result v.net) ∧ (¬ entered fuel w → r = none) := by
  rw [acquire_gnss_position_eq, bind_run] at h
  unfold entered
  rcases hs : seek fuel w with ⟨_ | _, u⟩
  · simp [hs] at h
  · simp only [hs, net, bind_run, gets_run] at h
    by_cases hu : u.net.state_ = .gnss_fix_mode
    · simp only [hu, ne_eq, not_true_eq_false, if_false] at h
      rcases hw : wait_for_fix fuel u with ⟨_ | _, t⟩
      · simp [bind_run, hw] at h
      · simp only [bind_run, hw, gets_run, pure_run, Prod.mk.injEq, Option.some.injEq] at h
        obtain ⟨rfl, rfl⟩ := h
        simp [hu]
    · simp only [hu, ne_eq, not_false_eq_true, if_true, pure_run, Prod.mk.injEq, Option.some.injEq] at h
      obtain ⟨rfl, rfl⟩ := h
      simp [hu]

theorem acquire_cached (fuel : Nat) {w : World} (hw : w.log = []) :
    Cached w.net.data.gnssPosition (acquire_gnss_position fuel w).2.net (acquire_gnss_position fuel w).2.log := by
  have h : Preserves (Under Always (Cached w.net.data.gnssPosition)) (acquire_gnss_position fuel) := inferInstance
  refine h.final (s := w) (fun _ => ?_) fun _ _ => trivial
  rw [hw]
  rfl

/-- No fix came and none was cached, or the last one that came is of a known type. -/
def settled (old : GnssPosition) : List GnssPosition → Bool
  | [] => !old.fix.valid
  | pos :: _ => twoOrThree pos

theorem valid_of_mem_fixes {l : List Entry} {pos : GnssPosition} (h : pos ∈ fixes l) : pos.fix.valid = true := by
  obtain ⟨e, -, he⟩ := List.mem_filterMap.mp h
  unfold fixOf at he
  split at he
  · dsimp only at he
    split_ifs at he with hv
    cases he
    exact hv
  · cases he

theorem fresh_iff {old : GnssPosition} {n : Net} {l : List Entry} (h : Cached old n l) :
    Fresh (result n) l ↔ settled old (fixes l) = true := by
  unfold Fresh result
  rw [h]
  cases hf : fixes l with
  | nil => cases hv : old.fix.valid <;> simp [settled, hv]
  | cons pos ps =>
    have hv : pos.fix.valid = true := valid_of_mem_fixes (l := l) (by simp [hf])
    simp only [List.headD_cons, hv, if_true, Option.some.injEq, forall_eq', settled]
    constructor
    · intro hh
      have hm := List.mem_of_mem_head? (Option.mem_def.mpr hh)
      exact (List.mem_filter.mp hm).2
    · intro ht
      simp [List.filter_cons_of_pos ht]

/-- For every run: the result of a call is fresh exactly where the receiver is not switched on, the last fix
of the call has a known type, or there is none and no earlier one is cached. -/
theorem gnss_result_fresh (config : NetworkLteConfig) (with_timer : Bool) (env : Nat → Tick) (fuel : Nat)
    (before : List Call) :
    let w := { (run fuel before (initial config with_timer env)).2 with log := [] }
    ∀ steps r v, acquire_gnss_position steps w = (some r, v) →
      (Fresh r v.log ↔ (entered steps w → settled w.net.data.gnssPosition (fixes v.log) = true)) := by
  intro w steps r v h
  have hv : v = (acquire_gnss_position steps w).2 := by rw [h]
  have hc := acquire_cached steps (w := w) rfl
  rw [← hv] at hc
  by_cases he : entered steps w
  · rw [(acquire_result h).1 he, fresh_iff hc]
    simp [he]
  · rw [(acquire_result h).2 he]
    simp [he, Fresh]

/-- A receiver that finds a position in the first call, and is not done in the second when its time is up. -/
def oneFix : Nat → Tick := fun i =>
  { script [(18, "$GPSP: 0"), (29, "$GPSACP: 120000.000,4830.0000N,00230.0000W,1.0,50.0,3,0.0,0.0,0.0,010125,08"),
      (45, "$GPSP: 0")] [(25, "$GPGSA,A,3,04,05,,09,12,,,24,,,,,2.5,1.3,2.1*39")] i with
    moves := if i = 60 then [.expire_state_timer, .callback 0] else [] }

/-- The world after some calls, with nothing in its log. -/
def before (calls : List Call) : World := { (run 9 calls (initial {} false oneFix)).2 with log := [] }

theorem gnss_result_fresh_first :
    ∃ pos v, acquire_gnss_position 9 (before []) = (some (some pos), v) ∧
      ((fixes v.log).filter twoOrThree).head? = some pos := by
  obtain ⟨hs, hf⟩ : ((acquire_gnss_position 9 (before [])).1.bind id).isSome = true ∧
      settled (before []).net.data.gnssPosition (fixes (acquire_gnss_position 9 (before [])).2.log) = true := by
    decide +kernel
  rcases hr : acquire_gnss_position 9 (before []) with ⟨_ | _ | pos, v⟩
  · simp [hr] at hs
  · simp [hr] at hs
  · rw [hr] at hf
    exact ⟨pos, v, rfl, (gnss_result_fresh {} false oneFix 9 [] 9 (some pos) v hr).mpr (fun _ => hf) pos rfl⟩

/-- The second call hears of no position and returns the one of the first. -/
theorem stale_position :
    ∃ pos v, acquire_gnss_position 9 (before [.acquire_gnss_position]) = (some (some pos), v) ∧ fixes v.log = [] := by
  obtain ⟨hs, hf⟩ : ((acquire_gnss_position 9 (before [.acquire_gnss_position])).1.bind id).isSome = true ∧
      (fixes (acquire_gnss_position 9 (before [.acquire_gnss_position])).2.log).length = 0 := by
    decide +kernel
  rcases hr : acquire_gnss_position 9 (before [.acquire_gnss_position]) with ⟨_ | _ | pos, v⟩
  · simp [hr] at hs
  · simp [hr] at hs
  · rw [hr] at hf
    exact ⟨pos, v, rfl, List.length_eq_zero_iff.mp hf⟩

end LteModem.NetworkLte.FreshFix
