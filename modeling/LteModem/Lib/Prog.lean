import Mathlib.Logic.Basic

/-!
# Programs that may be cut off

A program over a state `σ` ends in a state, with a result or with none. `none` means that it was
still running when the fuel of one of its loops ran out, so the state is the one reached so far.
Everything proved about the final state of a program therefore also holds along a loop that
never ends.
-/

variable {σ α β : Type}

def Prog (σ α : Type) : Type := σ → Option α × σ

namespace Prog

instance : Monad (Prog σ) where
  pure a := fun s => (some a, s)
  bind m f := fun s =>
    match m s with
    | (some a, t) => f a t
    | (none, t) => (none, t)

def modify (f : σ → σ) : Prog σ Unit := fun s => (some (), f s)

/-- Reads off the state with `f`. -/
def gets (f : σ → α) : Prog σ α := fun s => (some (f s), s)

def cutOff : Prog σ α := fun s => (none, s)

def when (c : Prop) [Decidable c] (m : Prog σ Unit) : Prog σ Unit := if c then m else pure ()

@[simp] theorem pure_run (a : α) (s : σ) : (pure a : Prog σ α) s = (some a, s) := rfl
@[simp] theorem gets_run (f : σ → α) (s : σ) : gets f s = (some (f s), s) := rfl
@[simp] theorem modify_run (f : σ → σ) (s : σ) : modify f s = (some (), f s) := rfl
@[simp] theorem cutOff_run (s : σ) : (cutOff : Prog σ α) s = (none, s) := rfl

theorem bind_run (m : Prog σ α) (f : α → Prog σ β) (s : σ) :
    (m >>= f) s = match m s with
      | (some a, t) => f a t
      | (none, t) => (none, t) := rfl

theorem bind_of {m : Prog σ α} {f : α → Prog σ β} {s t : σ} {a : α} (h : m s = (some a, t)) : (m >>= f) s = f a t := by
  rw [bind_run, h]

theorem pure_bind (a : α) (f : α → Prog σ β) : (pure a : Prog σ α) >>= f = f a := rfl

theorem bind_assoc {γ : Type} (m : Prog σ α) (f : α → Prog σ β) (g : β → Prog σ γ) :
    (m >>= f) >>= g = m >>= fun a => f a >>= g := by
  funext s
  rw [bind_run, bind_run, bind_run]
  rcases m s with ⟨_ | a, t⟩ <;> rfl

@[simp] theorem ite_run {c : Prop} [Decidable c] (m n : Prog σ α) (s : σ) :
    (if c then m else n) s = if c then m s else n s := by
  split <;> rfl

/-! ## Triples -/

def Ends (Q : α → σ → Prop) (X : σ → Prop) : Option α × σ → Prop
  | (some a, t) => Q a t
  | (none, t) => X t

/-- From `P`, the program ends in `Q` with its result, or is cut off in `X`. -/
def Triple (P : σ → Prop) (m : Prog σ α) (Q : α → σ → Prop) (X : σ → Prop) : Prop :=
  ∀ s, P s → Ends Q X (m s)

section Triple

variable {P P' : σ → Prop} {Q Q' : α → σ → Prop} {R : β → σ → Prop} {X : σ → Prop}
variable {m : Prog σ α} {f : α → Prog σ β}

theorem Triple.pure {a : α} (h : ∀ s, P s → Q a s) : Triple P (pure a) Q X := h

theorem Triple.cutOff (h : ∀ s, P s → X s) : Triple P (cutOff : Prog σ α) Q X := h

theorem Triple.bind (hm : Triple P m Q X) (hf : ∀ a, Triple (Q a) (f a) R X) :
    Triple P (m >>= f) R X := by
  intro s hs
  have h := hm s hs
  rw [bind_run]
  rcases hr : m s with ⟨_ | a, t⟩ <;> rw [hr] at h
  · exact h
  · exact hf a t h

theorem Triple.pre (h : ∀ s, P' s → P s) (hm : Triple P m Q X) : Triple P' m Q X :=
  fun s hs => hm s (h s hs)

theorem Triple.post (h : ∀ a s, Q a s → Q' a s) (hm : Triple P m Q X) : Triple P m Q' X := by
  intro s hs
  have hq := hm s hs
  rcases hr : m s with ⟨_ | a, t⟩ <;> rw [hr] at hq
  · exact hq
  · exact h a t hq

theorem Triple.fact {F : Prop} (h : F → Triple P m Q X) : Triple (fun s => F ∧ P s) m Q X := fun s hs => h hs.1 s hs.2

theorem Triple.and {P₂ : σ → Prop} {Q₂ : α → σ → Prop} (h : Triple P m Q X) (h₂ : Triple P₂ m Q₂ X) :
    Triple (fun s => P s ∧ P₂ s) m (fun a s => Q a s ∧ Q₂ a s) X := by
  intro s hs
  have hq := h s hs.1
  have hq₂ := h₂ s hs.2
  rcases hr : m s with ⟨_ | a, t⟩ <;> rw [hr] at hq hq₂
  · exact hq
  · exact ⟨hq, hq₂⟩

theorem Triple.any : Triple P m (fun _ _ => True) fun _ => True := by
  intro s _
  rcases m s with ⟨_ | a, t⟩ <;> trivial

theorem Triple.final {I : σ → Prop} (hm : Triple P m (fun _ => I) I) {s : σ} (hs : P s) : I (m s).2 := by
  have hi := hm s hs
  rcases hr : m s with ⟨_ | a, t⟩ <;> rw [hr] at hi <;> exact hi

theorem Triple.result (hm : Triple P m Q X) {s : σ} (hs : P s) {a : α} (h : (m s).1 = some a) : Q a (m s).2 := by
  have hq := hm s hs
  rcases hr : m s with ⟨_ | b, t⟩ <;> rw [hr] at hq h
  · cases h
  · obtain rfl : b = a := Option.some.inj h
    exact hq

theorem Triple.ends (hm : Triple P m Q fun _ => False) {s : σ} (hs : P s) : ∃ a t, m s = (some a, t) ∧ Q a t := by
  have hq := hm s hs
  rcases hr : m s with ⟨_ | a, t⟩ <;> rw [hr] at hq
  · exact absurd hq id
  · exact ⟨a, t, rfl, hq⟩

theorem Triple.ite {c : Prop} [Decidable c] {n : Prog σ α} (ht : c → Triple P m Q X)
    (he : ¬ c → Triple P n Q X) : Triple P (if c then m else n) Q X := by
  split
  · exact ht ‹_›
  · exact he ‹_›

theorem Triple.when {c : Prop} [Decidable c] {m : Prog σ Unit} {Q : Unit → σ → Prop}
    (ht : c → Triple P m Q X) (he : ¬ c → ∀ s, P s → Q () s) : Triple P (when c m) Q X :=
  Triple.ite ht he

end Triple

/-! ## Preserved predicates -/

/-- `I` holds after `m` when it held before; where `m` is cut off, `X` holds. The instances below follow
the structure of a program, so a program over preserving operations is preserving by inference. -/
class Preserves (I : σ → Prop) (m : Prog σ α) (X : σ → Prop := I) : Prop where
  out : Triple I m (fun _ => I) X

/-- What is left of `I` where a program is cut off. -/
class CutTo (I X : σ → Prop) : Prop where
  out : ∀ s, I s → X s

section Preserves

variable {I X : σ → Prop} {m n : Prog σ α} {f : α → Prog σ β}

instance : CutTo I I := ⟨fun _ h => h⟩

instance (a : α) : Preserves I (pure a) X := ⟨fun _ h => h⟩
instance (g : σ → α) : Preserves I (gets g) X := ⟨fun _ h => h⟩
instance [h : CutTo I X] : Preserves I (cutOff : Prog σ α) X := ⟨h.out⟩

instance [hm : Preserves I m X] [hf : ∀ a, Preserves I (f a) X] : Preserves I (m >>= f) X :=
  ⟨Triple.bind hm.out fun a => (hf a).out⟩

instance {c : Prop} [Decidable c] [hm : Preserves I m X] [hn : Preserves I n X] :
    Preserves I (if c then m else n) X :=
  ⟨Triple.ite (fun _ => hm.out) fun _ => hn.out⟩

instance {c : Prop} [Decidable c] {m : Prog σ Unit} [Preserves I m X] : Preserves I (when c m) X := by
  unfold when
  infer_instance

theorem Preserves.modify {g : σ → σ} (h : ∀ s, I s → I (g s)) : Preserves I (modify g) X := ⟨h⟩

theorem Preserves.final [hc : CutTo I X] (h : Preserves I m X) {s : σ} (hs : I s) : X (m s).2 :=
  Triple.final (Triple.post (fun _ => hc.out) h.out) hs

end Preserves

/-! ## Two runs -/

/-- From related states, the two programs end with the same result in related states. -/
def Agree (R : σ → σ → Prop) (m m' : Prog σ α) : Prop :=
  ∀ s s', R s s' → (m s).1 = (m' s').1 ∧ R (m s).2 (m' s').2

/-- A program that cannot tell related states apart. -/
class Respects (R : σ → σ → Prop) (m : Prog σ α) : Prop where
  out : Agree R m m

section Agree

variable {R : σ → σ → Prop} {m m' : Prog σ α} {f f' : α → Prog σ β}

theorem Agree.bind (hm : Agree R m m') (hf : ∀ a, Agree R (f a) (f' a)) : Agree R (m >>= f) (m' >>= f') := by
  intro s s' h
  obtain ⟨ha, hr⟩ := hm s s' h
  rw [bind_run, bind_run]
  rcases hs : m s with ⟨_ | a, t⟩ <;> rcases hs' : m' s' with ⟨_ | a', t'⟩ <;>
    simp only [hs, hs', Option.some.injEq, reduceCtorEq] at ha hr
  · exact ⟨rfl, hr⟩
  · subst ha
    exact hf a t t' hr

theorem Agree.gets {g : σ → α} (h : ∀ s s', R s s' → Agree R (f (g s)) (f' (g s'))) :
    Agree R (Prog.gets g >>= f) (Prog.gets g >>= f') :=
  fun s s' hs => h s s' hs s s' hs

instance (a : α) : Respects R (pure a) := ⟨fun _ _ h => ⟨rfl, h⟩⟩
instance : Respects R (cutOff : Prog σ α) := ⟨fun _ _ h => ⟨rfl, h⟩⟩

instance [hm : Respects R m] [hf : ∀ a, Respects R (f a)] : Respects R (m >>= f) :=
  ⟨Agree.bind hm.out fun a => (hf a).out⟩

instance {c : Prop} [Decidable c] {n : Prog σ α} [Respects R m] [Respects R n] : Respects R (if c then m else n) := by
  split <;> infer_instance

instance {c : Prop} [Decidable c] {m : Prog σ Unit} [Respects R m] : Respects R (when c m) := by
  unfold when
  infer_instance

end Agree

end Prog
