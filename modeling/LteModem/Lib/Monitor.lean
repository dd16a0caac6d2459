import LteModem.Lib.Machine
import LteModem.Lib.Mailbox

/-!
# Objects behind a mutex, with calls that wait

A call locks the mutex and runs when it is ready. One that is not ready fails at once, or sleeps on a condition
variable until it is ready after a signal, or until its time is up. Each step is one critical section of one thread. A
sleeping thread may also wake up without a signal.
-/

open Machine

namespace Monitor

variable {τ κ ρ σ ν : Type}

inductive Signal (ν : Type) where
  | none
  | one (q : ν)
  | all (q : ν)

structure Object (κ σ ρ ν : Type) where
  ready : κ → σ → Bool
  act : κ → σ → ρ × σ
  /-- The answer to a call that is not ready and is not to wait. -/
  busy : κ → ρ
  /-- The answer to a call that waited in vain. -/
  late : κ → ρ
  /-- Where a call waits; none for one that is always ready. -/
  on : κ → Option ν
  /-- What a call signals under the mutex. -/
  inside : κ → Signal ν
  /-- What it signals when it has left the mutex. -/
  outside : κ → Signal ν

structure Request (κ : Type) where
  call : κ
  waits : Bool

inductive Caller (κ ρ : Type) where
  | idle
  | entering (c : Request κ)
  | asleep (call : κ) (notified : Bool)
  /-- Past the mutex, in front of the signal. -/
  | acted (c : Request κ) (r : ρ)
  | left (c : Request κ) (r : ρ)

/-- The call that is still to run. -/
def Caller.request : Caller κ ρ → Option (Request κ)
  | .entering c => some c
  | .asleep call _ => some ⟨call, true⟩
  | _ => none

structure State (τ κ ρ σ : Type) where
  object : σ
  callers : τ → Caller κ ρ := fun _ => .idle
  trace : List (Mailbox.Event τ (Request κ) ρ) := []

section Steps

variable [DecidableEq τ] [DecidableEq ν] (O : Object κ σ ρ ν)

def Caller.notify (q : ν) : Caller κ ρ → Caller κ ρ
  | .asleep call notified => .asleep call (notified || O.on call = some q)
  | x => x

/-- What a signal does to the callers. -/
inductive Signals : Signal ν → (τ → Caller κ ρ) → (τ → Caller κ ρ) → Prop
  | none {f} : Signals .none f f
  | nobody {f q} (h : ∀ t call, f t = .asleep call false → O.on call ≠ some q) : Signals (.one q) f f
  | one {f q} (t : τ) (call : κ) (h : f t = .asleep call false) (hq : O.on call = some q) :
      Signals (.one q) f (Function.update f t (.asleep call true))
  | all {f q} : Signals (.all q) f fun t => (f t).notify O q

inductive Step : State τ κ ρ σ → State τ κ ρ σ → Prop
  | call {s} (t : τ) (c : Request κ) (h : s.callers t = .idle) :
      Step s { s with callers := Function.update s.callers t (.entering c), trace := s.trace ++ [.called t c] }
  | act {s} (t : τ) (c : Request κ) (callers : τ → Caller κ ρ) (h : (s.callers t).request = some c)
      (hr : O.ready c.call s.object = true)
      (hs : Signals O (O.inside c.call) (Function.update s.callers t (.acted c (O.act c.call s.object).1)) callers) :
      Step s {
        object := (O.act c.call s.object).2
        callers
        trace := s.trace ++ [.ran false ⟨t, c, true⟩ (O.act c.call s.object).1] }
  | refuse {s} (t : τ) (call : κ) (h : s.callers t = .entering ⟨call, false⟩) (hr : O.ready call s.object = false) :
      Step s { s with
        callers := Function.update s.callers t (.left ⟨call, false⟩ (O.busy call))
        trace := s.trace ++ [.ran false ⟨t, ⟨call, false⟩, true⟩ (O.busy call)] }
  | sleep {s} (t : τ) (call : κ) (h : s.callers t = .entering ⟨call, true⟩) (hr : O.ready call s.object = false) :
      Step s { s with callers := Function.update s.callers t (.asleep call false) }
  | again {s} (t : τ) (call : κ) (notified : Bool) (h : s.callers t = .asleep call notified)
      (hr : O.ready call s.object = false) :
      Step s { s with callers := Function.update s.callers t (.asleep call false) }
  | expire {s} (t : τ) (call : κ) (notified : Bool) (h : s.callers t = .asleep call notified)
      (hr : O.ready call s.object = false) :
      Step s { s with
        callers := Function.update s.callers t (.left ⟨call, true⟩ (O.late call))
        trace := s.trace ++ [.ran false ⟨t, ⟨call, true⟩, true⟩ (O.late call)] }
  | signal {s} (t : τ) (c : Request κ) (r : ρ) (callers : τ → Caller κ ρ) (h : s.callers t = .acted c r)
      (hs : Signals O (O.outside c.call) (Function.update s.callers t (.left c r)) callers) :
      Step s { s with callers }
  | return {s} (t : τ) (c : Request κ) (r : ρ) (h : s.callers t = .left c r) :
      Step s { s with callers := Function.update s.callers t .idle, trace := s.trace ++ [.returned t r] }

def Reachable (w₀ : σ) (s : State τ κ ρ σ) : Prop := Relation.ReflTransGen (Step O) { object := w₀ } s

end Steps

/-! ## One call at a time -/

/-- What a call does that runs alone. -/
def Object.exec (O : Object κ σ ρ ν) (c : Request κ) (s : σ) : ρ × σ :=
  if O.ready c.call s then O.act c.call s else (if c.waits then O.late c.call else O.busy c.call, s)

/-- The object as the owner of its state. -/
def Object.owner (O : Object κ σ ρ ν) : Mailbox.Owner σ (Request κ) ρ where
  runs c s r s' := (r, s') = O.exec c s
  pass _ _ := False

def Caller.client : Caller κ ρ → Mailbox.Client (Request κ) ρ
  | .idle => .idle
  | .entering c => .direct c
  | .asleep call _ => .direct ⟨call, true⟩
  | .acted c r | .left c r => .served c r

def State.mailbox (s : State τ κ ρ σ) : Mailbox.State τ (Request κ) ρ σ where
  world := s.object
  clients t := (s.callers t).client
  trace := s.trace

section Refinement

variable {O : Object κ σ ρ ν} {w₀ : σ} {s s' : State τ κ ρ σ}

theorem client_of {t : τ} {x : Caller κ ρ} (h : s.callers t = x) : s.mailbox.clients t = x.client :=
  congrArg Caller.client h

/-- The calls in the order in which they ran. -/
def ran (trace : List (Mailbox.Event τ (Request κ) ρ)) : List (Request κ) :=
  trace.filterMap fun
    | .ran _ i _ => some i.command
    | _ => none

/-- What they returned. -/
def answered (trace : List (Mailbox.Event τ (Request κ) ρ)) : List ρ :=
  trace.filterMap fun
    | .ran _ _ r => some r
    | _ => none

theorem explains_exec {l : List (Mailbox.Event τ (Request κ) ρ)} {w : σ} (h : Mailbox.Explains O.owner w₀ l w) :
    answered l = answers O.exec (ran l) w₀ ∧ w = final O.exec (ran l) w₀ := by
  induction h with
  | none => exact ⟨rfl, rfl⟩
  | called t c _ ih | put i _ ih | returned t r _ ih => simpa [ran, answered] using ih
  | @ran l _ q i r w' hr _ ih =>
    obtain ⟨ha, rfl⟩ := ih
    have hr : (r, w') = O.exec i.command _ := hr
    have hran : ran (l ++ [.ran q i r]) = ran l ++ [i.command] := List.filterMap_append ..
    have hanswered : answered (l ++ [.ran q i r]) = answered l ++ [r] := List.filterMap_append ..
    rw [hran, hanswered, answers_append, final_append, ha]
    simp [answers, final, ← hr]
  | passed _ hp => exact hp.elim

variable [DecidableEq τ]

theorem client_update (f : τ → Caller κ ρ) (t : τ) (x : Caller κ ρ) :
    (fun u => (Function.update f t x u).client) = Function.update (fun u => (f u).client) t x.client := by
  funext u
  exact Function.apply_update (fun _ x => Caller.client x) f t x u

theorem Step.direct {t : τ} {c : Request κ} {r : ρ} {w : σ} {x : Caller κ ρ} {f : τ → Caller κ ρ}
    (hc : s.mailbox.clients t = .direct c) (hr : (r, w) = O.exec c s.object) (hx : x.client = .served c r)
    (hf : (fun u => (f u).client) = fun u => (Function.update s.callers t x u).client) :
    Mailbox.Step O.owner s.mailbox
      (⟨w, f, s.trace ++ [.ran false ⟨t, c, true⟩ r]⟩ : State τ κ ρ σ).mailbox := by
  have := Mailbox.Step.direct (o := O.owner) (s := s.mailbox) t c r w hc rfl hr
  unfold State.mailbox at this ⊢
  rw [hf, client_update, hx]
  exact this

variable [DecidableEq ν]

theorem Signals.client {q : Signal ν} {f g : τ → Caller κ ρ} (h : Signals O q f g) :
    (fun t => (g t).client) = fun t => (f t).client := by
  cases h with
  | none | nobody => rfl
  | one t call hf =>
    rw [client_update]
    exact Function.update_eq_self_iff.mpr (by rw [hf]; rfl)
  | all =>
    funext t
    dsimp only
    cases f t <;> rfl

theorem Step.mailbox (h : Step O s s') : s'.mailbox = s.mailbox ∨ Mailbox.Step O.owner s.mailbox s'.mailbox := by
  cases h with
  | call t c hc =>
    right
    have := Mailbox.Step.call (o := O.owner) (s := s.mailbox) t c (client_of hc)
    unfold State.mailbox at this ⊢
    rw [client_update]
    exact this
  | act t c callers hc hr hs =>
    have hdirect : s.mailbox.clients t = .direct c := by
      change (s.callers t).client = _
      cases hx : s.callers t <;> rw [hx] at hc <;> cases hc <;> rfl
    exact .inr (Step.direct hdirect (by rw [Object.exec, if_pos hr]) rfl hs.client)
  | refuse t call hc hr => exact .inr (Step.direct (client_of hc) (by simp [Object.exec, hr]) rfl rfl)
  | expire t call n hc hr => exact .inr (Step.direct (client_of hc) (by simp [Object.exec, hr]) rfl rfl)
  | «return» t c r hc =>
    right
    have := Mailbox.Step.return (o := O.owner) (s := s.mailbox) t c r (client_of hc)
    unfold State.mailbox at this ⊢
    rw [client_update]
    exact this
  | sleep t call hc | again t call n hc =>
    left
    unfold State.mailbox
    rw [client_update]
    congr 1
    exact Function.update_eq_self_iff.mpr (by rw [hc]; rfl)
  | signal t c r callers hc hs =>
    left
    unfold State.mailbox
    rw [hs.client, client_update]
    congr 1
    exact Function.update_eq_self_iff.mpr (by rw [hc]; rfl)

theorem Reachable.mailbox (h : Reachable O w₀ s) : Mailbox.Reachable O.owner w₀ s.mailbox := by
  induction h with
  | refl => exact .refl
  | tail _ hstep ih =>
    rcases hstep.mailbox with heq | hstep
    · rwa [heq]
    · exact ih.tail hstep

/-- A call that returned ran at one moment before it did, after the calls that had run by then, and its answer is
what a call that runs alone has there. -/
theorem Reachable.linearized (h : Reachable O w₀ s) {t : τ} {c : Request κ} {r : ρ}
    {before during after : List (Mailbox.Event τ (Request κ) ρ)}
    (htrace : s.trace = before ++ .called t c :: during ++ .returned t r :: after) (hd : ∀ c', .called t c' ∉ during) :
    ∃ d₁ d₂ q, during = d₁ ++ .ran q ⟨t, c, true⟩ r :: d₂ ∧
      r = (O.exec c (final O.exec (ran (before ++ d₁)) w₀)).1 := by
  obtain ⟨d₁, d₂, q, v, w, hsplit, hv, hr⟩ := h.mailbox.inv.linearized htrace hd
  refine ⟨d₁, d₂, q, hsplit, ?_⟩
  have hran : ran (before ++ Mailbox.Event.called t c :: d₁) = ran (before ++ d₁) := by simp [ran]
  rw [(explains_exec hv).2, hran] at hr
  exact congrArg Prod.fst hr

theorem Reachable.exec (h : Reachable O w₀ s) :
    answered s.trace = answers O.exec (ran s.trace) w₀ ∧ s.object = final O.exec (ran s.trace) w₀ :=
  explains_exec h.mailbox.inv.world

end Refinement

/-! ## Signals and sleepers -/

section Progress

variable {O : Object κ σ ρ ν} {q : ν} {level : σ → Nat} {w₀ : σ} {f g : τ → Caller κ ρ} {s s' : State τ κ ρ σ}

/-- A caller that sleeps on `q` and was signalled. -/
def Awake (O : Object κ σ ρ ν) (q : ν) (x : Caller κ ρ) : Prop := ∃ call, x = .asleep call true ∧ O.on call = some q

/-- A caller that sleeps on `q` and was not. -/
def Sleeps (O : Object κ σ ρ ν) (q : ν) (call : κ) (x : Caller κ ρ) : Prop := x = .asleep call false ∧ O.on call = some q

/-- At least `n` callers were signalled and did not run since. -/
def Woken (O : Object κ σ ρ ν) (q : ν) (n : Nat) (f : τ → Caller κ ρ) : Prop :=
  ∃ ts : List τ, ts.Nodup ∧ (∀ t ∈ ts, Awake O q (f t)) ∧ n ≤ ts.length

/-- The calls that wait on `q` are ready while there is something to take and take one of it, and a call that adds
one signals one of them. -/
structure Object.Counts (O : Object κ σ ρ ν) (q : ν) (level : σ → Nat) : Prop where
  ready : ∀ call s, O.on call = some q → (O.ready call s = true ↔ 0 < level s)
  take : ∀ call s, O.on call = some q → O.ready call s = true → level (O.act call s).2 + 1 = level s
  give : ∀ call s, O.ready call s = true → level (O.act call s).2 ≤ level s ∨
    O.inside call = .one q ∧ level (O.act call s).2 ≤ level s + 1

/-- While a caller sleeps, there are as many woken ones as there is to take. -/
def Covered (O : Object κ σ ρ ν) (q : ν) (n : Nat) (f : τ → Caller κ ρ) : Prop :=
  ∀ t call, Sleeps O q call (f t) → Woken O q n f

theorem Woken.le {n m : Nat} (h : Woken O q n f) (hm : m ≤ n) : Woken O q m f := by
  obtain ⟨ts, hnodup, ha, hn⟩ := h
  exact ⟨ts, hnodup, ha, Nat.le_trans hm hn⟩

theorem Woken.zero : Woken O q 0 f := ⟨[], List.nodup_nil, by simp, Nat.le_refl _⟩

variable [DecidableEq τ]

theorem Woken.update {n : Nat} (h : Woken O q n f) {t : τ} (ht : ¬ Awake O q (f t)) (x : Caller κ ρ) :
    Woken O q n (Function.update f t x) := by
  obtain ⟨ts, hnodup, ha, hn⟩ := h
  refine ⟨ts, hnodup, fun u hu => ?_, hn⟩
  have hne : u ≠ t := by
    rintro rfl
    exact ht (ha u hu)
  rw [Function.update_of_ne hne]
  exact ha u hu

theorem Woken.erase {n : Nat} (h : Woken O q (n + 1) f) (t : τ) (x : Caller κ ρ) :
    Woken O q n (Function.update f t x) := by
  obtain ⟨ts, hnodup, ha, hn⟩ := h
  refine ⟨ts.erase t, hnodup.erase t, fun u hu => ?_, ?_⟩
  · obtain ⟨hne, hu⟩ := (hnodup.mem_erase_iff).mp hu
    rw [Function.update_of_ne hne]
    exact ha u hu
  · have := List.le_length_erase (a := t) (l := ts)
    omega

theorem Covered.update {n : Nat} (h : Covered O q n f) {t : τ} {x : Caller κ ρ}
    (hx : ∀ call, Sleeps O q call x → n = 0) (ht : Awake O q (f t) → n = 0) :
    Covered O q n (Function.update f t x) := by
  intro u call hu
  by_cases hzero : n = 0
  · rw [hzero]
    exact Woken.zero
  · have hne : u ≠ t := by
      rintro rfl
      rw [Function.update_self] at hu
      exact hzero (hx call hu)
    rw [Function.update_of_ne hne] at hu
    exact (h u call hu).update (fun ha => hzero (ht ha)) x

variable [DecidableEq ν]

theorem Signals.sleeps {sig : Signal ν} (h : Signals O sig f g) {t : τ} {call : κ} (hs : Sleeps O q call (g t)) :
    Sleeps O q call (f t) ∧ sig ≠ .all q := by
  obtain ⟨hs, hq⟩ := hs
  cases h with
  | none => exact ⟨⟨hs, hq⟩, by rintro ⟨⟩⟩
  | nobody h => exact ⟨⟨hs, hq⟩, by rintro ⟨⟩⟩
  | @one f' q' u call' hu hq' =>
    by_cases ht : t = u
    · subst ht
      rw [Function.update_self] at hs
      cases hs
    · rw [Function.update_of_ne ht] at hs
      exact ⟨⟨hs, hq⟩, by rintro ⟨⟩⟩
  | @all f' q' =>
    dsimp only at hs
    cases hx : f t with
    | asleep call' n =>
      rw [hx, Caller.notify, Caller.asleep.injEq, Bool.or_eq_false_iff] at hs
      obtain ⟨rfl, rfl, hne⟩ := hs
      refine ⟨⟨rfl, hq⟩, ?_⟩
      rintro ⟨⟩
      exact of_decide_eq_false hne hq
    | idle | entering | acted | left => rw [hx] at hs; cases hs

theorem Signals.awake {sig : Signal ν} (h : Signals O sig f g) {t : τ} (ha : Awake O q (f t)) : Awake O q (g t) := by
  obtain ⟨call, hf, hq⟩ := ha
  cases h with
  | none => exact ⟨call, hf, hq⟩
  | nobody => exact ⟨call, hf, hq⟩
  | one u call' hu =>
    have ht : t ≠ u := by
      rintro rfl
      rw [hf] at hu
      cases hu
    exact ⟨call, by rw [Function.update_of_ne ht, hf], hq⟩
  | all =>
    dsimp only
    exact ⟨call, by rw [hf]; rfl, hq⟩

theorem Signals.acted {sig : Signal ν} (h : Signals O sig f g) {t : τ} {c : Request κ} {r : ρ}
    (ha : f t = .acted c r) : g t = .acted c r := by
  cases h with
  | none => exact ha
  | nobody => exact ha
  | one u call' hu =>
    have ht : t ≠ u := by
      rintro rfl
      rw [ha] at hu
      cases hu
    rw [Function.update_of_ne ht, ha]
  | all =>
    dsimp only
    rw [ha]
    rfl

theorem Signals.woken {sig : Signal ν} {n : Nat} (hs : Signals O sig f g) (h : Woken O q n f) : Woken O q n g := by
  obtain ⟨ts, hnodup, ha, hn⟩ := h
  exact ⟨ts, hnodup, fun t ht => hs.awake (ha t ht), hn⟩

theorem Signals.woken_one {n : Nat} (hs : Signals O (.one q) f g) (h : Woken O q n f) {t : τ} {call : κ}
    (ht : Sleeps O q call (g t)) : Woken O q (n + 1) g := by
  cases hs with
  | nobody hnone => exact absurd ht.2 (hnone t call ht.1)
  | one u call' hu hq =>
    obtain ⟨ts, hnodup, ha, hn⟩ := h
    have hmem : u ∉ ts := by
      intro hm
      obtain ⟨c, hc, -⟩ := ha u hm
      rw [hu] at hc
      cases hc
    refine ⟨u :: ts, List.nodup_cons.mpr ⟨hmem, hnodup⟩, fun v hv => ?_, Nat.succ_le_succ hn⟩
    rcases List.mem_cons.mp hv with rfl | hv
    · exact ⟨call', Function.update_self .., hq⟩
    · rw [Function.update_of_ne (ne_of_mem_of_not_mem hv hmem)]
      exact ha v hv

/-! ### One signal for each thing to take -/

theorem Step.covered (hO : O.Counts q level) (h : Covered O q (level s.object) s.callers) (hstep : Step O s s') :
    Covered O q (level s'.object) s'.callers := by
  have hzero {call : κ} (hq : O.on call = some q) (hr : O.ready call s.object = false) : level s.object = 0 := by
    by_contra hne
    rw [(hO.ready call s.object hq).mpr (Nat.pos_of_ne_zero hne)] at hr
    cases hr
  have hother {t : τ} {x : Caller κ ρ} (hx : s.callers t = x) (hn : ∀ call n, x ≠ .asleep call n) :
      Awake O q (s.callers t) → level s.object = 0 := by
    rintro ⟨call, hc, -⟩
    exact absurd (hx.symm.trans hc) (hn call true)
  have hasleep {t : τ} {call : κ} {n : Bool} (hc : s.callers t = .asleep call n) (hr : O.ready call s.object = false) :
      Awake O q (s.callers t) → level s.object = 0 := by
    rintro ⟨call', hc', hq⟩
    obtain ⟨rfl, -⟩ := Caller.asleep.inj (hc.symm.trans hc')
    exact hzero hq hr
  cases hstep with
  | call t c hc => exact h.update (by rintro _ ⟨⟨⟩, -⟩) (hother hc (by rintro _ _ ⟨⟩))
  | refuse t call hc hr => exact h.update (by rintro _ ⟨⟨⟩, -⟩) (hother hc (by rintro _ _ ⟨⟩))
  | «return» t c r hc => exact h.update (by rintro _ ⟨⟨⟩, -⟩) (hother hc (by rintro _ _ ⟨⟩))
  | sleep t call hc hr =>
    exact h.update (by rintro _ ⟨⟨⟩, hq⟩; exact hzero hq hr) (hother hc (by rintro _ _ ⟨⟩))
  | again t call n hc hr =>
    exact h.update (by rintro _ ⟨⟨⟩, hq⟩; exact hzero hq hr) (hasleep hc hr)
  | expire t call n hc hr => exact h.update (by rintro _ ⟨⟨⟩, -⟩) (hasleep hc hr)
  | signal t c r callers hc hs =>
    intro u call hu
    have hleft : Covered O q _ (Function.update s.callers t (.left c r)) :=
      h.update (by rintro _ ⟨⟨⟩, -⟩) (hother hc (by rintro _ _ ⟨⟩))
    exact hs.woken (hleft u call (hs.sleeps hu).1)
  | act t c callers hc hr hs =>
    intro u call hu
    dsimp only at hu ⊢
    obtain ⟨hbefore, -⟩ := hs.sleeps hu
    have hne : u ≠ t := by
      rintro rfl
      rw [Function.update_self] at hbefore
      cases hbefore.1
    rw [Function.update_of_ne hne] at hbefore
    have hcovered := h u call hbefore
    by_cases hq : O.on c.call = some q
    · rw [← hO.take c.call s.object hq hr] at hcovered
      exact hs.woken (hcovered.erase t _)
    · have hsame := hcovered.update (t := t) (x := .acted c (O.act c.call s.object).1) (by
        rintro ⟨call', hc', hq'⟩
        rw [hc'] at hc
        cases hc
        exact hq hq')
      rcases hO.give c.call s.object hr with hle | ⟨hone, hle⟩
      · exact (hs.woken hsame).le hle
      · rw [hone] at hs
        exact (hs.woken_one hsame hu).le hle

/-- No wake-up is lost: a caller sleeps only while a woken one is on its way for each thing that there is to take. -/
theorem Reachable.covered (hO : O.Counts q level) (h : Reachable O w₀ s) :
    Covered O q (level s.object) s.callers := by
  induction h with
  | refl => exact fun t call hs => by cases hs.1
  | tail _ hstep ih => exact hstep.covered hO ih

/-! ### A signal for all -/

/-- A call that makes another one ready signals all that wait on `q`. -/
def Object.Broadcasts (O : Object κ σ ρ ν) (q : ν) : Prop :=
  ∀ call call' s, O.on call' = some q → O.ready call s = true → O.ready call' s = false →
    O.ready call' (O.act call s).2 = true → O.inside call = .all q ∨ O.outside call = .all q

/-- A caller sleeps although it is ready only while another one is on its way to the signal. -/
def Announced (O : Object κ σ ρ ν) (q : ν) (w : σ) (f : τ → Caller κ ρ) : Prop :=
  ∀ t call, Sleeps O q call (f t) → O.ready call w = true → ∃ u c r, f u = .acted c r ∧ O.outside c.call = .all q

omit [DecidableEq ν] in
theorem Announced.update {w : σ} (h : Announced O q w f) {t : τ} {x : Caller κ ρ}
    (hx : ∀ call, Sleeps O q call x → O.ready call w = false) (ht : ∀ c r, f t ≠ .acted c r) :
    Announced O q w (Function.update f t x) := by
  intro u call hu hr
  have hne : u ≠ t := by
    rintro rfl
    rw [Function.update_self] at hu
    rw [hx call hu] at hr
    cases hr
  rw [Function.update_of_ne hne] at hu
  obtain ⟨v, c, r, hv, hall⟩ := h u call hu hr
  have hvt : v ≠ t := by
    rintro rfl
    exact ht c r hv
  exact ⟨v, c, r, by rw [Function.update_of_ne hvt, hv], hall⟩

theorem Step.announced (hO : O.Broadcasts q) (h : Announced O q s.object s.callers) (hstep : Step O s s') :
    Announced O q s'.object s'.callers := by
  have hother {t : τ} {x : Caller κ ρ} (hx : s.callers t = x) (hn : ∀ c r, x ≠ .acted c r) :
      ∀ c r, s.callers t ≠ .acted c r := by
    rw [hx]
    exact hn
  cases hstep with
  | call t c hc => exact h.update (by rintro _ ⟨⟨⟩, -⟩) (hother hc (by rintro _ _ ⟨⟩))
  | refuse t call hc hr => exact h.update (by rintro _ ⟨⟨⟩, -⟩) (hother hc (by rintro _ _ ⟨⟩))
  | «return» t c r hc => exact h.update (by rintro _ ⟨⟨⟩, -⟩) (hother hc (by rintro _ _ ⟨⟩))
  | sleep t call hc hr =>
    exact h.update (by rintro _ ⟨⟨⟩, -⟩; exact hr) (hother hc (by rintro _ _ ⟨⟩))
  | again t call n hc hr =>
    exact h.update (by rintro _ ⟨⟨⟩, -⟩; exact hr) (hother hc (by rintro _ _ ⟨⟩))
  | expire t call n hc hr => exact h.update (by rintro _ ⟨⟨⟩, -⟩) (hother hc (by rintro _ _ ⟨⟩))
  | signal t c r callers hc hs =>
    intro u call hu hr
    obtain ⟨hbefore, hall⟩ := hs.sleeps hu
    have hut : u ≠ t := by
      rintro rfl
      rw [Function.update_self] at hbefore
      cases hbefore.1
    rw [Function.update_of_ne hut] at hbefore
    obtain ⟨v, c', r', hv, hsignal⟩ := h u call hbefore hr
    -- The caller that signals now is not the one that is still to signal all.
    have hvt : v ≠ t := by
      rintro rfl
      rw [hc] at hv
      cases hv
      exact hall hsignal
    exact ⟨v, c', r', hs.acted (by rw [Function.update_of_ne hvt, hv]), hsignal⟩
  | act t c callers hc hr hs =>
    intro u call hu hready
    dsimp only at hu hready ⊢
    obtain ⟨hbefore, hinside⟩ := hs.sleeps hu
    have hut : u ≠ t := by
      rintro rfl
      rw [Function.update_self] at hbefore
      cases hbefore.1
    rw [Function.update_of_ne hut] at hbefore
    cases hwas : O.ready call s.object with
    | true =>
      obtain ⟨v, c', r', hv, hsignal⟩ := h u call hbefore hwas
      have hvt : v ≠ t := by
        rintro rfl
        rw [hv] at hc
        cases hc
      exact ⟨v, c', r', hs.acted (by rw [Function.update_of_ne hvt, hv]), hsignal⟩
    | false =>
      have hsignal := (hO c.call call s.object hbefore.2 hr hwas hready).resolve_left hinside
      exact ⟨t, c, _, hs.acted (Function.update_self ..), hsignal⟩

theorem Reachable.announced (hO : O.Broadcasts q) (h : Reachable O w₀ s) : Announced O q s.object s.callers := by
  induction h with
  | refl => exact fun t call hs => by cases hs.1
  | tail _ hstep ih => exact hstep.announced hO ih

end Progress

end Monitor
