import Mathlib.Data.List.Basic

/-!
# Bounded queues of slots as an interface

What a kernel offers, its documented behaviour as a property of it, and what follows for emptying and
filling such a queue.
-/

/-- Operations that do not wait. `put` says whether there was room. -/
structure Msgq (α : Type) where
  Q : Type
  init : Nat → Q
  put : α → Q → Bool × Q
  get : Q → Option α × Q
  num_used : Q → Nat

namespace Msgq

variable {α : Type}

/-- A first-in first-out queue `slots` of at most `max_msgs` slots: `put` is refused when it is full, `get`
when it is empty. -/
structure Documented (M : Msgq α) (slots : M.Q → List α) (max_msgs : M.Q → Nat) : Prop where
  init : ∀ n, slots (M.init n) = [] ∧ max_msgs (M.init n) = n
  put_room : ∀ a q, (slots q).length < max_msgs q →
    (M.put a q).1 = true ∧ slots (M.put a q).2 = slots q ++ [a]
  put_full : ∀ a q, max_msgs q ≤ (slots q).length → (M.put a q).1 = false ∧ slots (M.put a q).2 = slots q
  put_max : ∀ a q, max_msgs (M.put a q).2 = max_msgs q
  get_empty : ∀ q, slots q = [] → (M.get q).1 = none ∧ slots (M.get q).2 = []
  get_next : ∀ q a rest, slots q = a :: rest → (M.get q).1 = some a ∧ slots (M.get q).2 = rest
  get_max : ∀ q, max_msgs (M.get q).2 = max_msgs q
  num_used : ∀ q, M.num_used q = (slots q).length

/-- Everything that `get` returns until the queue is empty. One more than the number of slots is enough. -/
def drain (M : Msgq α) : Nat → M.Q → List α × M.Q
  | 0, q => ([], q)
  | fuel + 1, q =>
    match (M.get q).1 with
    | none => ([], (M.get q).2)
    | some a => (a :: (M.drain fuel (M.get q).2).1, (M.drain fuel (M.get q).2).2)

def putAll (M : Msgq α) (l : List α) (q : M.Q) : M.Q := l.foldl (fun q a => (M.put a q).2) q

variable {M : Msgq α} {slots : M.Q → List α} {max_msgs : M.Q → Nat}

namespace Documented

theorem drain_eq (h : M.Documented slots max_msgs) {fuel : Nat} {q : M.Q} (hfuel : (slots q).length < fuel) :
    (M.drain fuel q).1 = slots q ∧ slots (M.drain fuel q).2 = [] ∧ max_msgs (M.drain fuel q).2 = max_msgs q := by
  induction fuel generalizing q with
  | zero => omega
  | succ fuel ih =>
    cases hq : slots q with
    | nil =>
      obtain ⟨hnone, hempty⟩ := h.get_empty q hq
      simp [drain, hnone, hempty, h.get_max]
    | cons a rest =>
      obtain ⟨hsome, hrest⟩ := h.get_next q a rest hq
      have hlen : (slots (M.get q).2).length < fuel := by
        rw [hrest]
        simpa [hq] using hfuel
      obtain ⟨hall, hempty, hmax⟩ := ih hlen
      simp [drain, hsome, hall, hrest, hempty, hmax, h.get_max]

theorem putAll_eq (h : M.Documented slots max_msgs) {l : List α} {q : M.Q}
    (hroom : (slots q).length + l.length ≤ max_msgs q) :
    slots (M.putAll l q) = slots q ++ l ∧ max_msgs (M.putAll l q) = max_msgs q := by
  induction l generalizing q with
  | nil => simp [putAll]
  | cons a l ih =>
    rw [List.length_cons] at hroom
    obtain ⟨-, hslots⟩ := h.put_room a q (by omega)
    have hnext : (slots (M.put a q).2).length + l.length ≤ max_msgs (M.put a q).2 := by
      rw [hslots, h.put_max, List.length_append, List.length_singleton]
      omega
    obtain ⟨hall, hmax⟩ := ih hnext
    simp only [putAll, List.foldl_cons] at hall hmax ⊢
    rw [hall, hslots, hmax, h.put_max]
    exact ⟨by simp, rfl⟩

end Documented

/-! ## A list as such a queue -/

def ofList (α : Type) : Msgq α where
  Q := Nat × List α
  init n := (n, [])
  put a q := if q.2.length < q.1 then (true, (q.1, q.2 ++ [a])) else (false, q)
  get q :=
    match q.2 with
    | [] => (none, q)
    | a :: rest => (some a, (q.1, rest))
  num_used q := q.2.length

theorem ofList_documented : (ofList α).Documented Prod.snd Prod.fst where
  init n := ⟨rfl, rfl⟩
  put_room a q h := by simp [ofList, h]
  put_full a q h := by simp [ofList, Nat.not_lt.mpr h]
  put_max a q := by
    by_cases h : q.2.length < q.1 <;> simp [ofList, h]
  get_empty q h := by simp [ofList, h]
  get_next q a rest h := by simp [ofList, h]
  get_max q := by
    cases h : q.2 <;> simp [ofList, h]
  num_used q := rfl

end Msgq
