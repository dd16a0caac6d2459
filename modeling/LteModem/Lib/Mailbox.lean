import Mathlib.Data.List.Basic
import Mathlib.Data.List.Induction
import Mathlib.Logic.Function.Basic
import Mathlib.Logic.Relation

/-!
# Commands for the owner of a state

Threads put commands into a queue. A worker takes the whole queue at once and runs the commands in order on
a state that only it touches. A thread may wait for the result of its command. While there is no worker
yet, a thread that waits runs its command itself.

Each step is one critical section of one thread. The lock of the state is held from `lock` to `pass`.
-/

namespace Mailbox

variable {τ κ ρ σ : Type}

structure Item (τ κ : Type) where
  thread : τ
  command : κ
  waits : Bool
deriving DecidableEq

/-- Where a thread is in a call that waits: it saw a worker or none, its command is in the queue or being
run, its result is there. -/
inductive Client (κ ρ : Type) where
  | idle
  | sending (c : κ)
  | direct (c : κ)
  | waiting (c : κ)
  | served (c : κ) (r : ρ)

inductive Worker (τ κ : Type) where
  | out
  | holding
  | running (pending : List (Item τ κ))

def Worker.pending : Worker τ κ → List (Item τ κ)
  | .running pending => pending
  | _ => []

inductive Event (τ κ ρ : Type) where
  | called (t : τ) (c : κ)
  | put (i : Item τ κ)
  | ran (queued : Bool) (i : Item τ κ) (r : ρ)
  | returned (t : τ) (r : ρ)
  | passed

/-- The events of the calls of `t` that wait. -/
def Event.of [DecidableEq τ] (t : τ) : Event τ κ ρ → Bool
  | .called u _ => u = t
  | .ran _ i _ => i.waits && i.thread = t
  | .returned u _ => u = t
  | .put _ | .passed => false

/-- What an event puts into the queue. -/
def Event.put? : Event τ κ ρ → Option (Item τ κ)
  | .put i => some i
  | _ => none

/-- What the worker runs in an event. -/
def Event.run? : Event τ κ ρ → Option (Item τ κ)
  | .ran true i _ => some i
  | _ => none

def puts (trace : List (Event τ κ ρ)) : List (Item τ κ) := trace.filterMap Event.put?

def runs (trace : List (Event τ κ ρ)) : List (Item τ κ) := trace.filterMap Event.run?

theorem puts_snoc (l : List (Event τ κ ρ)) (e : Event τ κ ρ) : puts (l ++ [e]) = puts l ++ e.put?.toList := by
  rw [puts, List.filterMap_append]
  cases h : e.put? <;> simp [puts, h]

theorem runs_snoc (l : List (Event τ κ ρ)) (e : Event τ κ ρ) : runs (l ++ [e]) = runs l ++ e.run?.toList := by
  rw [runs, List.filterMap_append]
  cases h : e.run? <;> simp [runs, h]

/-- What a command may do to the state, and what the worker does after a batch of them. -/
structure Owner (σ κ ρ : Type) where
  runs : κ → σ → ρ → σ → Prop
  pass : σ → σ → Prop

structure State (τ κ ρ σ : Type) where
  world : σ
  started : Bool := false
  queue : List (Item τ κ) := []
  worker : Worker τ κ := .out
  clients : τ → Client κ ρ := fun _ => .idle
  trace : List (Event τ κ ρ) := []
  /-- What had been put in when the worker last took the queue. -/
  taken : List (Item τ κ) := []

variable [DecidableEq τ] (o : Owner σ κ ρ)

inductive Step : State τ κ ρ σ → State τ κ ρ σ → Prop
  | call {s} (t : τ) (c : κ) (h : s.clients t = .idle) :
      Step s { s with
        clients := Function.update s.clients t (if s.started then .sending c else .direct c)
        trace := s.trace ++ [.called t c] }
  | send {s} (t : τ) (c : κ) (h : s.clients t = .sending c) :
      Step s { s with
        queue := s.queue ++ [⟨t, c, true⟩]
        clients := Function.update s.clients t (.waiting c)
        trace := s.trace ++ [.put ⟨t, c, true⟩] }
  | post {s} (t : τ) (c : κ) (h : s.clients t = .idle) :
      Step s { s with queue := s.queue ++ [⟨t, c, false⟩], trace := s.trace ++ [.put ⟨t, c, false⟩] }
  | direct {s} (t : τ) (c : κ) (r : ρ) (w : σ) (h : s.clients t = .direct c) (hout : s.worker = .out)
      (hr : o.runs c s.world r w) :
      Step s { s with
        world := w
        clients := Function.update s.clients t (.served c r)
        trace := s.trace ++ [.ran false ⟨t, c, true⟩ r] }
  | return {s} (t : τ) (c : κ) (r : ρ) (h : s.clients t = .served c r) :
      Step s { s with clients := Function.update s.clients t .idle, trace := s.trace ++ [.returned t r] }
  | start {s} : Step s { s with started := true }
  | lock {s} (h : s.started) (hout : s.worker = .out) : Step s { s with worker := .holding }
  | swap {s} (h : s.worker = .holding) :
      Step s { s with
        worker := .running s.queue
        queue := []
        taken := puts s.trace }
  | run {s} (i : Item τ κ) (is : List (Item τ κ)) (r : ρ) (w : σ) (h : s.worker = .running (i :: is))
      (hr : o.runs i.command s.world r w) :
      Step s { s with
        world := w
        worker := .running is
        clients := if i.waits then Function.update s.clients i.thread (.served i.command r) else s.clients
        trace := s.trace ++ [.ran true i r] }
  | pass {s} (w : σ) (h : s.worker = .running []) (hp : o.pass s.world w) :
      Step s { s with world := w, worker := .out, trace := s.trace ++ [.passed] }

def Reachable (w₀ : σ) (s : State τ κ ρ σ) : Prop := Relation.ReflTransGen (Step o) { world := w₀ } s

/-! ## What a trace says -/

inductive Phase (κ ρ : Type) where
  | idle
  | asked (c : κ)
  | served (c : κ) (r : ρ)

def Client.phase : Client κ ρ → Phase κ ρ
  | .idle => .idle
  | .sending c | .direct c | .waiting c => .asked c
  | .served c r => .served c r

/-- The calls of a thread, one after the other: a call, its command run once, the result of that returned. -/
inductive Calls (t : τ) : List (Event τ κ ρ) → Phase κ ρ → Prop
  | none : Calls t [] .idle
  | called {l} (c : κ) : Calls t l .idle → Calls t (l ++ [.called t c]) (.asked c)
  | ran {l} (q : Bool) (c : κ) (r : ρ) : Calls t l (.asked c) → Calls t (l ++ [.ran q ⟨t, c, true⟩ r]) (.served c r)
  | returned {l} (c : κ) (r : ρ) : Calls t l (.served c r) → Calls t (l ++ [.returned t r]) .idle

/-- The state is what the commands and the worker's passes make of `w₀` one after the other, and each
command had the result in the trace. -/
inductive Explains (w₀ : σ) : List (Event τ κ ρ) → σ → Prop
  | none : Explains w₀ [] w₀
  | called {l w} (t : τ) (c : κ) : Explains w₀ l w → Explains w₀ (l ++ [.called t c]) w
  | put {l w} (i : Item τ κ) : Explains w₀ l w → Explains w₀ (l ++ [.put i]) w
  | ran {l w} (q : Bool) (i : Item τ κ) (r : ρ) (w' : σ) (h : o.runs i.command w r w') :
      Explains w₀ l w → Explains w₀ (l ++ [.ran q i r]) w'
  | returned {l w} (t : τ) (r : ρ) : Explains w₀ l w → Explains w₀ (l ++ [.returned t r]) w
  | passed {l w} (w' : σ) (h : o.pass w w') : Explains w₀ l w → Explains w₀ (l ++ [.passed]) w'

/-- The commands of `t` in a list that it waits for. -/
def waited (t : τ) (is : List (Item τ κ)) : List (Item τ κ) := is.filter fun i => i.waits && i.thread = t

def Client.items (t : τ) : Client κ ρ → List (Item τ κ)
  | .waiting c => [⟨t, c, true⟩]
  | _ => []

theorem waited_append (t : τ) (is js : List (Item τ κ)) : waited t (is ++ js) = waited t is ++ waited t js :=
  List.filter_append ..

theorem waited_self (t : τ) (c : κ) : waited t [(⟨t, c, true⟩ : Item τ κ)] = [⟨t, c, true⟩] := by
  simp [waited]

theorem waited_other {t : τ} {i : Item τ κ} (h : (i.waits && decide (i.thread = t)) = false) : waited t [i] = [] := by
  simp only [waited, List.filter_cons, h, Bool.false_eq_true, if_false, List.filter_nil]

/-! ## The invariant -/

structure Inv (w₀ : σ) (s : State τ κ ρ σ) : Prop where
  /-- Everything that was put in was run, or is being run, or is in the queue, once and in order. -/
  order : puts s.trace = runs s.trace ++ s.worker.pending ++ s.queue
  taken : s.taken = runs s.trace ++ s.worker.pending
  /-- A thread waits for exactly what is still to be run for it. -/
  waits : ∀ t, waited t (s.worker.pending ++ s.queue) = (s.clients t).items t
  calls : ∀ t, Calls t (s.trace.filter (Event.of t)) (s.clients t).phase
  world : Explains o w₀ s.trace s.world

variable {o} {w₀ : σ} {s s' : State τ κ ρ σ}

theorem Calls.of_other {t : τ} {l : List (Event τ κ ρ)} {e : Event τ κ ρ} {p : Phase κ ρ} (he : e.of t = false)
    (h : Calls t (l.filter (Event.of t)) p) : Calls t ((l ++ [e]).filter (Event.of t)) p := by
  rwa [List.filter_append, List.filter_cons_of_neg (by simp [he]), List.filter_nil, List.append_nil]

theorem filter_snoc {t : τ} (l : List (Event τ κ ρ)) {e : Event τ κ ρ} (he : e.of t = true) :
    (l ++ [e]).filter (Event.of t) = l.filter (Event.of t) ++ [e] := by
  rw [List.filter_append, List.filter_cons_of_pos he, List.filter_nil]

theorem Inv.initial (w₀ : σ) : Inv o w₀ ({ world := w₀ } : State τ κ ρ σ) where
  order := rfl
  taken := rfl
  waits _ := rfl
  calls _ := .none
  world := .none

theorem Calls.update {clients : τ → Client κ ρ} {trace : List (Event τ κ ρ)} {u : τ} {e : Event τ κ ρ} {x : Client κ ρ}
    (h : ∀ t, Calls t (trace.filter (Event.of t)) (clients t).phase) (he : ∀ t, e.of t = decide (u = t))
    (hu : Calls u (trace.filter (Event.of u) ++ [e]) x.phase) (t : τ) :
    Calls t ((trace ++ [e]).filter (Event.of t)) (Function.update clients u x t).phase := by
  by_cases ht : u = t
  · subst ht
    rw [Function.update_self, filter_snoc _ (by rw [he, decide_eq_true rfl])]
    exact hu
  · rw [Function.update_of_ne (Ne.symm ht)]
    exact Calls.of_other (by rw [he, decide_eq_false ht]) (h t)

theorem items_update {clients : τ → Client κ ρ} (l : List (Item τ κ)) {js : List (Item τ κ)} {u : τ} {x : Client κ ρ}
    (h : ∀ t, waited t l = (clients t).items t) (hu : waited u js = x.items u)
    (hother : ∀ t, u ≠ t → waited t js = waited t l) (t : τ) :
    waited t js = (Function.update clients u x t).items t := by
  by_cases ht : u = t
  · subst ht
    rw [Function.update_self, hu]
  · rw [Function.update_of_ne (Ne.symm ht), hother t ht, h t]

omit [DecidableEq τ] in
theorem items_cons {t : τ} {x : Client κ ρ} {i : Item τ κ} {l : List (Item τ κ)} (h : i :: l = x.items t) :
    l = [] ∧ x.phase = .asked i.command := by
  cases x with
  | waiting c =>
    obtain ⟨rfl, rfl⟩ := List.cons.inj h
    exact ⟨rfl, rfl⟩
  | idle | sending | direct | served => cases h

/-! ### One step -/

theorem Inv.call (hi : Inv o w₀ s) {t : τ} (c : κ) (h : s.clients t = .idle) :
    Inv o w₀ { s with
      clients := Function.update s.clients t (if s.started then .sending c else .direct c)
      trace := s.trace ++ [.called t c] } where
  order := by simpa [puts_snoc, runs_snoc, Event.put?, Event.run?] using hi.order
  taken := by simpa [runs_snoc, Event.run?] using hi.taken
  waits := by
    refine items_update _ hi.waits ?_ fun _ _ => rfl
    rw [hi.waits, h]
    split <;> rfl
  calls := by
    refine Calls.update hi.calls (fun _ => rfl) ?_
    have hidle := hi.calls t
    rw [h] at hidle
    split <;> exact .called c hidle
  world := .called t c hi.world

theorem Inv.send (hi : Inv o w₀ s) {t : τ} {c : κ} (h : s.clients t = .sending c) :
    Inv o w₀ { s with
      queue := s.queue ++ [⟨t, c, true⟩]
      clients := Function.update s.clients t (.waiting c)
      trace := s.trace ++ [.put ⟨t, c, true⟩] } where
  order := by simp [puts_snoc, runs_snoc, Event.put?, Event.run?, hi.order]
  taken := by simpa [runs_snoc, Event.run?] using hi.taken
  waits := by
    refine items_update _ hi.waits ?_ fun u hu => ?_
    · rw [← List.append_assoc, waited_append, hi.waits, h, waited_self]
      rfl
    · rw [← List.append_assoc, waited_append, waited_other (by simp [hu]), List.append_nil]
  calls u := by
    -- The thread has asked before and after.
    refine Calls.of_other rfl ?_
    change Calls u _ (Function.update s.clients t (.waiting c) u).phase
    by_cases hu : t = u
    · subst hu
      have hasked := hi.calls t
      rw [h] at hasked
      rwa [Function.update_self]
    · rw [Function.update_of_ne (Ne.symm hu)]
      exact hi.calls u
  world := .put _ hi.world

theorem Inv.post (hi : Inv o w₀ s) (t : τ) (c : κ) :
    Inv o w₀ { s with queue := s.queue ++ [⟨t, c, false⟩], trace := s.trace ++ [.put ⟨t, c, false⟩] } where
  order := by simp [puts_snoc, runs_snoc, Event.put?, Event.run?, hi.order]
  taken := by simpa [runs_snoc, Event.run?] using hi.taken
  waits u := by
    rw [← List.append_assoc, waited_append, waited_other (by simp), List.append_nil]
    exact hi.waits u
  calls u := Calls.of_other rfl (hi.calls u)
  world := .put _ hi.world

theorem Inv.direct (hi : Inv o w₀ s) {t : τ} {c : κ} {r : ρ} {w : σ} (h : s.clients t = .direct c)
    (hr : o.runs c s.world r w) :
    Inv o w₀ { s with
      world := w
      clients := Function.update s.clients t (.served c r)
      trace := s.trace ++ [.ran false ⟨t, c, true⟩ r] } where
  order := by simpa [puts_snoc, runs_snoc, Event.put?, Event.run?] using hi.order
  taken := by simpa [runs_snoc, Event.run?] using hi.taken
  waits := by
    refine items_update _ hi.waits ?_ fun _ _ => rfl
    rw [hi.waits, h]
    rfl
  calls := by
    refine Calls.update hi.calls (fun _ => by simp [Event.of]) ?_
    have hasked := hi.calls t
    rw [h] at hasked
    exact .ran false c r hasked
  world := .ran false ⟨t, c, true⟩ r w hr hi.world

theorem Inv.return (hi : Inv o w₀ s) {t : τ} {c : κ} {r : ρ} (h : s.clients t = .served c r) :
    Inv o w₀ { s with clients := Function.update s.clients t .idle, trace := s.trace ++ [.returned t r] } where
  order := by simpa [puts_snoc, runs_snoc, Event.put?, Event.run?] using hi.order
  taken := by simpa [runs_snoc, Event.run?] using hi.taken
  waits := by
    refine items_update _ hi.waits ?_ fun _ _ => rfl
    rw [hi.waits, h]
    rfl
  calls := by
    refine Calls.update hi.calls (fun _ => rfl) ?_
    have hserved := hi.calls t
    rw [h] at hserved
    exact .returned c r hserved
  world := .returned t r hi.world

theorem Inv.lock (hi : Inv o w₀ s) (h : s.worker = .out) : Inv o w₀ { s with worker := .holding } := by
  obtain ⟨horder, htaken, hwaits, hcalls, hworld⟩ := hi
  rw [h] at horder htaken hwaits
  exact ⟨horder, htaken, hwaits, hcalls, hworld⟩

theorem Inv.swap (hi : Inv o w₀ s) (h : s.worker = .holding) :
    Inv o w₀ { s with worker := .running s.queue, queue := [], taken := puts s.trace } := by
  obtain ⟨horder, -, hwaits, hcalls, hworld⟩ := hi
  rw [h] at horder hwaits
  have hpending : puts s.trace = runs s.trace ++ s.queue := by simpa [Worker.pending] using horder
  exact ⟨by simpa [Worker.pending] using hpending, hpending, by simpa [Worker.pending] using hwaits, hcalls, hworld⟩

theorem Inv.waits_next (hi : Inv o w₀ s) {i : Item τ κ} {is : List (Item τ κ)} (h : s.worker = .running (i :: is))
    (t : τ) : waited t [i] ++ waited t (is ++ s.queue) = (s.clients t).items t := by
  have hwaits := hi.waits t
  rw [h] at hwaits
  rw [← waited_append]
  exact hwaits

theorem Inv.run_waited (hi : Inv o w₀ s) {u : τ} {c : κ} {is : List (Item τ κ)} {r : ρ}
    (h : s.worker = .running (⟨u, c, true⟩ :: is)) :
    (∀ t, waited t (is ++ s.queue) = (Function.update s.clients u (.served c r) t).items t) ∧
      ∀ t, Calls t ((s.trace ++ [Event.ran true ⟨u, c, true⟩ r]).filter (Event.of t))
        (Function.update s.clients u (.served c r) t).phase := by
  have hu := hi.waits_next h u
  rw [waited_self] at hu
  obtain ⟨hrest, hphase⟩ := items_cons hu
  refine ⟨items_update ([⟨u, c, true⟩] ++ (is ++ s.queue)) ?_ hrest fun t ht => ?_, ?_⟩
  · intro t
    rw [waited_append]
    exact hi.waits_next h t
  · rw [waited_append t [_], waited_other (by simp [ht]), List.nil_append]
  · refine Calls.update hi.calls (fun _ => by simp [Event.of]) ?_
    have hasked := hi.calls u
    rw [hphase] at hasked
    exact .ran true c r hasked

theorem Inv.run (hi : Inv o w₀ s) {i : Item τ κ} {is : List (Item τ κ)} {r : ρ} {w : σ}
    (h : s.worker = .running (i :: is)) (hr : o.runs i.command s.world r w) :
    Inv o w₀ { s with
      world := w
      worker := .running is
      clients := if i.waits then Function.update s.clients i.thread (.served i.command r) else s.clients
      trace := s.trace ++ [.ran true i r] } := by
  have horder := hi.order
  have htaken := hi.taken
  rw [h] at horder htaken
  have hrest : (∀ t, waited t (is ++ s.queue) =
        ((if i.waits then Function.update s.clients i.thread (.served i.command r) else s.clients) t).items t) ∧
      ∀ t, Calls t ((s.trace ++ [Event.ran true i r]).filter (Event.of t))
        ((if i.waits then Function.update s.clients i.thread (.served i.command r) else s.clients) t).phase := by
    obtain ⟨u, c, waits⟩ := i
    cases waits with
    | true => exact hi.run_waited h
    | false =>
      refine ⟨fun t => ?_, fun t => Calls.of_other rfl (hi.calls t)⟩
      have hnext := hi.waits_next h t
      rwa [waited_other rfl, List.nil_append] at hnext
  exact ⟨by simpa [puts_snoc, runs_snoc, Event.put?, Event.run?, Worker.pending] using horder,
    by simpa [runs_snoc, Event.run?, Worker.pending] using htaken, hrest.1, hrest.2, .ran true i r w hr hi.world⟩

theorem Inv.pass (hi : Inv o w₀ s) {w : σ} (h : s.worker = .running []) (hp : o.pass s.world w) :
    Inv o w₀ { s with world := w, worker := .out, trace := s.trace ++ [.passed] } := by
  obtain ⟨horder, htaken, hwaits, hcalls, hworld⟩ := hi
  rw [h] at horder htaken hwaits
  exact ⟨by simpa [puts_snoc, runs_snoc, Event.put?, Event.run?, Worker.pending] using horder,
    by simpa [runs_snoc, Event.run?, Worker.pending] using htaken, hwaits,
    fun u => Calls.of_other rfl (hcalls u), .passed w hp hworld⟩

theorem Inv.step (hi : Inv o w₀ s) (h : Step o s s') : Inv o w₀ s' := by
  cases h with
  | call t c h => exact hi.call c h
  | send t c h => exact hi.send h
  | post t c h => exact hi.post t c
  | direct t c r w h hout hr => exact hi.direct h hr
  | «return» t c r h => exact hi.return h
  | start => exact ⟨hi.order, hi.taken, hi.waits, hi.calls, hi.world⟩
  | lock hstarted h => exact hi.lock h
  | swap h => exact hi.swap h
  | run i is r w h hr => exact hi.run h hr
  | pass w h hp => exact hi.pass h hp

theorem Reachable.inv (h : Reachable o w₀ s) : Inv o w₀ s := by
  induction h with
  | refl => exact .initial w₀
  | tail _ hstep ih => exact ih.step hstep

/-! ## Calls and their results -/

omit [DecidableEq τ]

/-- What an event does to the state. -/
def Event.Does (o : Owner σ κ ρ) (v w : σ) : Event τ κ ρ → Prop
  | .ran _ i r => o.runs i.command v r w
  | .passed => o.pass v w
  | _ => v = w

theorem Explains.last {l : List (Event τ κ ρ)} {e : Event τ κ ρ} {w : σ} (h : Explains o w₀ (l ++ [e]) w) :
    ∃ v, Explains o w₀ l v ∧ e.Does o v w := by
  generalize hl : l ++ [e] = l' at h
  cases h with
  | none => exact absurd (List.append_eq_nil_iff.mp hl).2 (List.cons_ne_nil e [])
  | ran q i r w' hr h =>
    obtain ⟨rfl, he⟩ := List.append_inj' hl rfl
    obtain rfl := List.singleton_injective he
    exact ⟨_, h, hr⟩
  | passed w' hp h =>
    obtain ⟨rfl, he⟩ := List.append_inj' hl rfl
    obtain rfl := List.singleton_injective he
    exact ⟨_, h, hp⟩
  | called t c h | put i h | returned t r h =>
    obtain ⟨rfl, he⟩ := List.append_inj' hl rfl
    obtain rfl := List.singleton_injective he
    exact ⟨_, h, rfl⟩

theorem Explains.before {l more : List (Event τ κ ρ)} {w : σ} (h : Explains o w₀ (l ++ more) w) :
    ∃ v, Explains o w₀ l v := by
  induction more using List.reverseRecOn generalizing w with
  | nil => exact ⟨w, by rwa [List.append_nil] at h⟩
  | append_singleton more e ih =>
    rw [← List.append_assoc] at h
    obtain ⟨v, hv, -⟩ := h.last
    exact ih hv

theorem Calls.last {t : τ} {l : List (Event τ κ ρ)} {e : Event τ κ ρ} {p : Phase κ ρ} (h : Calls t (l ++ [e]) p) :
    (∃ c, e = .called t c ∧ p = .asked c ∧ Calls t l .idle) ∨
      (∃ q c r, e = .ran q ⟨t, c, true⟩ r ∧ p = .served c r ∧ Calls t l (.asked c)) ∨
      ∃ c r, e = .returned t r ∧ p = .idle ∧ Calls t l (.served c r) := by
  generalize hl : l ++ [e] = l' at h
  cases h with
  | none => exact absurd (List.append_eq_nil_iff.mp hl).2 (List.cons_ne_nil e [])
  | called c h =>
    obtain ⟨rfl, he⟩ := List.append_inj' hl rfl
    exact .inl ⟨c, List.singleton_injective he, rfl, h⟩
  | ran q c r h =>
    obtain ⟨rfl, he⟩ := List.append_inj' hl rfl
    exact .inr (.inl ⟨q, c, r, List.singleton_injective he, rfl, h⟩)
  | returned c r h =>
    obtain ⟨rfl, he⟩ := List.append_inj' hl rfl
    exact .inr (.inr ⟨c, r, List.singleton_injective he, rfl, h⟩)

theorem Calls.before {t : τ} {l more : List (Event τ κ ρ)} {p : Phase κ ρ} (h : Calls t (l ++ more) p) :
    ∃ p', Calls t l p' := by
  induction more using List.reverseRecOn generalizing p with
  | nil => exact ⟨p, by rwa [List.append_nil] at h⟩
  | append_singleton more e ih =>
    rw [← List.append_assoc] at h
    obtain ⟨c, -, -, h⟩ | ⟨q, c, r, -, -, h⟩ | ⟨c, r, -, -, h⟩ := h.last <;> exact ih h

theorem Calls.between {t : τ} {c : κ} {r : ρ} {before during : List (Event τ κ ρ)} {p : Phase κ ρ}
    (h : Calls t (before ++ [.called t c] ++ during ++ [.returned t r]) p) (hd : ∀ c', .called t c' ∉ during) :
    ∃ q, during = [.ran q ⟨t, c, true⟩ r] := by
  obtain ⟨c', hserved⟩ : ∃ c', Calls t (before ++ [.called t c] ++ during) (.served c' r) := by
    obtain ⟨c', he, -, -⟩ | ⟨q, c', r', he, -, -⟩ | ⟨c', r', he, -, h⟩ := h.last
    · cases he
    · cases he
    · cases he
      exact ⟨c', h⟩
  rcases List.eq_nil_or_concat' during with rfl | ⟨during, e, rfl⟩
  · rw [List.append_nil] at hserved
    obtain ⟨_, -, hp, -⟩ | ⟨_, _, _, he, -, -⟩ | ⟨_, _, -, hp, -⟩ := hserved.last
    · cases hp
    · cases he
    · cases hp
  · rw [← List.append_assoc] at hserved
    obtain ⟨q, rfl, hasked⟩ : ∃ q, e = .ran q ⟨t, c', true⟩ r ∧
        Calls t (before ++ [.called t c] ++ during) (.asked c') := by
      obtain ⟨_, -, hp, -⟩ | ⟨q, _, _, he, hp, h⟩ | ⟨_, _, -, hp, -⟩ := hserved.last
      · cases hp
      · cases hp
        exact ⟨q, he, h⟩
      · cases hp
    rcases List.eq_nil_or_concat' during with rfl | ⟨during, e, rfl⟩
    · rw [List.append_nil] at hasked
      obtain ⟨_, he, hp, -⟩ | ⟨_, _, _, -, hp, -⟩ | ⟨_, _, -, hp, -⟩ := hasked.last
      · cases he
        cases hp
        exact ⟨q, rfl⟩
      · cases hp
      · cases hp
    · rw [← List.append_assoc] at hasked
      obtain ⟨_, rfl, -, -⟩ | ⟨_, _, _, -, hp, -⟩ | ⟨_, _, -, hp, -⟩ := hasked.last
      · exact absurd (List.mem_append_left _ (List.mem_append_right _ List.mem_cons_self)) (hd _)
      · cases hp
      · cases hp

variable [DecidableEq τ]

/-- A call that returned took effect at one moment before it did, on the state of that moment, and its result is what
its command had there. -/
theorem Inv.linearized (h : Inv o w₀ s) {t : τ} {c : κ} {r : ρ} {before during after : List (Event τ κ ρ)}
    (htrace : s.trace = before ++ .called t c :: during ++ .returned t r :: after) (hd : ∀ c', .called t c' ∉ during) :
    ∃ d₁ d₂ q v w, during = d₁ ++ .ran q ⟨t, c, true⟩ r :: d₂ ∧ Explains o w₀ (before ++ .called t c :: d₁) v ∧
      o.runs c v r w := by
  have hcalls := h.calls t
  have hworld := h.world
  have hcalled : Event.of t (.called t c : Event τ κ ρ) = true := decide_eq_true rfl
  have hreturned : Event.of t (.returned t r : Event τ κ ρ) = true := decide_eq_true rfl
  obtain ⟨q, hq⟩ : ∃ q, during.filter (Event.of t) = [.ran q ⟨t, c, true⟩ r] := by
    rw [htrace, List.filter_append, List.filter_append, List.filter_cons_of_pos hcalled,
      List.filter_cons_of_pos hreturned] at hcalls
    have hsplit : Calls t ((before.filter (Event.of t) ++ [.called t c] ++ during.filter (Event.of t) ++
        [.returned t r]) ++ after.filter (Event.of t)) (s.clients t).phase := by
      simpa using hcalls
    obtain ⟨p, hp⟩ := hsplit.before
    exact hp.between fun c' hc' => hd c' (List.mem_filter.mp hc').1
  obtain ⟨d₁, d₂, rfl, -, -, -⟩ := List.filter_eq_cons_iff.mp hq
  have hsplit : Explains o w₀ ((before ++ .called t c :: d₁ ++ [.ran q ⟨t, c, true⟩ r]) ++
      (d₂ ++ .returned t r :: after)) s.world := by
    simpa [htrace] using hworld
  obtain ⟨w, hw⟩ := hsplit.before
  obtain ⟨v, hv, hr⟩ := hw.last
  exact ⟨d₁, d₂, q, v, w, rfl, hv, hr⟩

end Mailbox
