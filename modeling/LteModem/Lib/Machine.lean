import Mathlib.Data.List.Infix
import Mathlib.Logic.Function.Basic

/-!
# Objects driven by calls

An object is a function from a call and a state to an answer and the next state.
-/

namespace Machine

variable {σ τ ι κ ω : Type}

/-- The answers to a sequence of calls. -/
def answers (step : ι → σ → ω × σ) : List ι → σ → List ω
  | [], _ => []
  | i :: is, s => (step i s).1 :: answers step is (step i s).2

/-- The state that a sequence of calls leaves. -/
def final (step : ι → σ → ω × σ) : List ι → σ → σ
  | [], s => s
  | i :: is, s => final step is (step i s).2

/-- The answers to the calls of `mine` alone, within a sequence of calls. -/
def answersTo (mine : ι → Bool) (step : ι → σ → ω × σ) : List ι → σ → List ω
  | [], _ => []
  | i :: is, s =>
    if mine i then (step i s).1 :: answersTo mine step is (step i s).2
    else answersTo mine step is (step i s).2

variable (step : ι → σ → ω × σ)

theorem final_append (is js : List ι) (s : σ) :
    final step (is ++ js) s = final step js (final step is s) := by
  induction is generalizing s with
  | nil => rfl
  | cons i is ih => exact ih _

theorem answers_append (is js : List ι) (s : σ) :
    answers step (is ++ js) s = answers step is s ++ answers step js (final step is s) := by
  induction is generalizing s with
  | nil => rfl
  | cons i is ih =>
    simp only [List.cons_append, answers, final]
    rw [ih]

theorem answers_map (f : κ → ι) (ks : List κ) (s : σ) :
    answers step (ks.map f) s = answers (fun k => step (f k)) ks s := by
  induction ks generalizing s with
  | nil => rfl
  | cons k ks ih =>
    simp only [List.map_cons, answers]
    rw [ih]

theorem final_map (f : κ → ι) (ks : List κ) (s : σ) : final step (ks.map f) s = final (fun k => step (f k)) ks s := by
  induction ks generalizing s with
  | nil => rfl
  | cons k ks ih => exact ih _

theorem answersTo_filter (mine : ι → Bool) (is : List ι) (s : σ) :
    answersTo mine step (is.filter mine) s = answers step (is.filter mine) s := by
  induction is generalizing s with
  | nil => rfl
  | cons i is ih =>
    cases hi : mine i with
    | true =>
      simp only [List.filter_cons, hi, if_true, answersTo, answers]
      rw [ih]
    | false =>
      simp only [List.filter_cons, hi, Bool.false_eq_true, if_false]
      exact ih s

variable {step}

/-- Every call is made in a state that allows it. -/
def Along (ok : ι → σ → Prop) (step : ι → σ → ω × σ) : List ι → σ → Prop
  | [], _ => True
  | i :: is, s => ok i s ∧ Along ok step is (step i s).2

theorem Along.of_forall {ok : ι → Prop} {is : List ι} (h : ∀ i ∈ is, ok i) (s : σ) :
    Along (fun i _ => ok i) step is s := by
  induction is generalizing s with
  | nil => trivial
  | cons i is ih => exact ⟨h i List.mem_cons_self, ih (fun j hj => h j (List.mem_cons_of_mem _ hj)) _⟩

theorem final_of_fixed {is : List ι} {s : σ} (h : ∀ i ∈ is, (step i s).2 = s) : final step is s = s := by
  induction is with
  | nil => rfl
  | cons i is ih =>
    rw [final, h i List.mem_cons_self]
    exact ih fun j hj => h j (List.mem_cons_of_mem _ hj)

theorem answersTo_of_fixed {mine : ι → Bool} {is : List ι} {s : σ} (h : ∀ i ∈ is, (step i s).2 = s) :
    answersTo mine step is s = (is.filter mine).map (fun i => (step i s).1) := by
  induction is with
  | nil => rfl
  | cons i is ih =>
    rw [answersTo, h i List.mem_cons_self, ih fun j hj => h j (List.mem_cons_of_mem _ hj), List.filter_cons]
    cases mine i <;> rfl

/-! ## Simulation -/

/-- Related states give the same answer to a call that is allowed there and stay related. -/
def Simulates (f : ι → σ → ω × σ) (g : ι → τ → ω × τ) (ok : ι → σ → Prop) (R : σ → τ → Prop) : Prop :=
  ∀ i s t, ok i s → R s t → (f i s).1 = (g i t).1 ∧ R (f i s).2 (g i t).2

theorem Simulates.run {f : ι → σ → ω × σ} {g : ι → τ → ω × τ} {ok : ι → σ → Prop} {R : σ → τ → Prop}
    (h : Simulates f g ok R) {is : List ι} {s : σ} {t : τ} (hok : Along ok f is s) (hR : R s t) :
    answers f is s = answers g is t ∧ R (final f is s) (final g is t) := by
  induction is generalizing s t with
  | nil => exact ⟨rfl, hR⟩
  | cons i is ih =>
    obtain ⟨hi, hok⟩ := hok
    obtain ⟨ha, hR⟩ := h i s t hi hR
    obtain ⟨has, hfin⟩ := ih hok hR
    simp only [answers, final]
    exact ⟨by rw [ha, has], hfin⟩

/-! ## Frames -/

/-- The calls of `mine` see and change only the part `view` of the state, and the others leave it alone. -/
structure Framed (mine : ι → Bool) (view : σ → τ) (step : ι → σ → ω × σ) : Prop where
  own : ∀ i s t, mine i = true → view s = view t →
    (step i s).1 = (step i t).1 ∧ view (step i s).2 = view (step i t).2
  frame : ∀ i s, mine i = false → view (step i s).2 = view s

theorem Framed.run {mine : ι → Bool} {view : σ → τ} (h : Framed mine view step) (is : List ι) {s t : σ}
    (hview : view s = view t) :
    answersTo mine step is s = answersTo mine step (is.filter mine) t ∧
      view (final step is s) = view (final step (is.filter mine) t) := by
  induction is generalizing s t with
  | nil => exact ⟨rfl, hview⟩
  | cons i is ih =>
    cases hi : mine i with
    | true =>
      obtain ⟨ha, hnext⟩ := h.own i s t hi hview
      obtain ⟨has, hfin⟩ := ih hnext
      simp only [List.filter_cons, answersTo, final, hi, if_true]
      exact ⟨by rw [ha, has], hfin⟩
    | false =>
      obtain ⟨has, hfin⟩ := ih ((h.frame i s hi).trans hview)
      simp only [List.filter_cons, answersTo, final, hi, Bool.false_eq_true, if_false]
      exact ⟨has, hfin⟩

/-! ## Handles -/

variable {ℓ : Type} [DecidableEq ℓ]

/-- A call through a handle, to the object that `route` says it points to. -/
def call (route : κ → ℓ) (step : ι → σ → ω × σ) (c : κ × ι) (s : ℓ → σ) : ω × (ℓ → σ) :=
  ((step c.2 (s (route c.1))).1, Function.update s (route c.1) (step c.2 (s (route c.1))).2)

theorem call_framed [DecidableEq κ] {route : κ → ℓ} (hroute : Function.Injective route) (k : κ) :
    Framed (·.1 = k) (fun s : ℓ → σ => s (route k)) (call route step) where
  own := by
    rintro ⟨_, i⟩ s t hk hview
    obtain rfl := of_decide_eq_true hk
    simp only [call, Function.update_self]
    exact ⟨by rw [hview], by rw [hview]⟩
  frame := by
    rintro ⟨j, i⟩ s hk
    have hne : route k ≠ route j := fun h => of_decide_eq_false hk (hroute h).symm
    exact Function.update_of_ne hne _ _

end Machine
