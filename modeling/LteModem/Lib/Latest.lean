import LteModem.Lib.Machine
import Mathlib.Data.List.DropRight

/-!
# Buffers that keep the latest entries

A push onto a full buffer drops the oldest entry. What a pop returns and what stays is told by the positions
of the entries in the sequence of all pushes.
-/

open Machine

namespace Latest

variable {α : Type} {n : Nat} {a x : α} {pushes rest : List α} {taken : List Nat} {l : List α}

inductive Op (α : Type) where
  | push (a : α)
  | pop

def step (n : Nat) : Op α → List α → Option α × List α
  | .push a, l => (none, (if l.length < n then l else l.tail) ++ [a])
  | .pop, l => (l.head?, l.tail)

/-- Everything that was pushed. -/
def pushed (ops : List (Op α)) : List α :=
  ops.filterMap fun
    | .push a => some a
    | .pop => none

/-- The number of pushes up to the last one of `taken`. -/
def past (taken : List Nat) : Nat := (taken.getLast?.map (· + 1)).getD 0

@[simp] theorem past_concat (taken : List Nat) (i : Nat) : past (taken ++ [i]) = i + 1 := by
  simp [past]

/-- The entries of `l` are the latest of those that were pushed since the last one taken. -/
structure Kept (n : Nat) (pushes : List α) (taken : List Nat) (l : List α) : Prop where
  ordered : taken.Pairwise (· < ·)
  before : ∀ i ∈ taken, i < past taken
  past_le : past taken ≤ pushes.length
  latest : l = pushes.rtake (min n (pushes.length - past taken))

theorem Kept.lt (h : Kept n pushes taken l) {i : Nat} (hi : i ∈ taken) : i < pushes.length :=
  lt_of_lt_of_le (h.before i hi) h.past_le

theorem Kept.length (h : Kept n pushes taken l) : l.length = min n (pushes.length - past taken) := by
  rw [h.latest, List.rtake, List.length_drop]
  omega

theorem Kept.push (h : Kept n pushes taken l) (hn : 0 < n) (a : α) :
    Kept n (pushes ++ [a]) taken (step n (.push a) l).2 := by
  have hlen := h.length
  have hpast := h.past_le
  have hp : past taken ≤ (pushes ++ [a]).length := by
    rw [List.length_append]
    omega
  refine ⟨h.ordered, h.before, hp, ?_⟩
  simp only [step]
  split_ifs with hroom
  · have hmin : min n ((pushes ++ [a]).length - past taken) = min n (pushes.length - past taken) + 1 := by
      rw [List.length_append, List.length_singleton]
      omega
    rw [hmin, List.rtake_concat_succ, ← h.latest]
  · -- The buffer is full: its first entry is the oldest push that it holds.
    have hmin : min n ((pushes ++ [a]).length - past taken) = n - 1 + 1 := by
      rw [List.length_append, List.length_singleton]
      omega
    have hfull : min n (pushes.length - past taken) = n := by omega
    have htail : l.tail = pushes.rtake (n - 1) := by
      rw [h.latest, hfull, List.rtake, List.rtake, List.tail_drop]
      congr 1
      omega
    rw [hmin, List.rtake_concat_succ, htail]

theorem Kept.pop (h : Kept n pushes taken (x :: rest)) :
    ∃ i, pushes[i]? = some x ∧ Kept n pushes (taken ++ [i]) rest := by
  have hlen := h.length
  have hpast := h.past_le
  rw [List.length_cons] at hlen
  have hdrop : x :: rest = pushes.drop (pushes.length - (rest.length + 1)) := by
    rw [h.latest, List.rtake, hlen]
  have hfirst : pushes[pushes.length - (rest.length + 1)]? = some x := by
    rw [← List.head?_drop, ← hdrop]
    rfl
  refine ⟨_, hfirst, ?_, ?_, ?_, ?_⟩
  · rw [List.pairwise_append]
    refine ⟨h.ordered, List.pairwise_singleton _ _, fun i hi j hj => ?_⟩
    have hb := h.before i hi
    rw [List.mem_singleton.mp hj]
    omega
  · intro i hi
    rw [past_concat]
    rcases List.mem_append.mp hi with hi | hi
    · have hb := h.before i hi
      omega
    · rw [List.mem_singleton.mp hi]
      omega
  · rw [past_concat]
    omega
  · have hmin : min n (pushes.length - (pushes.length - (rest.length + 1) + 1)) = rest.length := by omega
    have htail : rest = (pushes.drop (pushes.length - (rest.length + 1))).tail := by rw [← hdrop, List.tail_cons]
    rw [past_concat, hmin, List.rtake, htail, List.tail_drop]
    congr 1
    simp only [List.length_drop]
    omega

/-- The pops return pushes in their order, each at most once, and the latest of the others stay. -/
theorem run (hn : 0 < n) (ops : List (Op α)) :
    ∃ taken, Kept n (pushed ops) taken (final (step n) ops []) ∧
      ((answers (step n) ops []).filterMap id).map some = taken.map fun i => (pushed ops)[i]? := by
  induction ops using List.reverseRecOn with
  | nil => exact ⟨[], ⟨List.Pairwise.nil, by simp, by simp [past], by simp [final, pushed]⟩, rfl⟩
  | append_singleton ops op ih =>
    obtain ⟨taken, hk, ha⟩ := ih
    rw [final_append, answers_append, List.filterMap_append, List.map_append, ha]
    cases op with
    | push a =>
      have hp : pushed (ops ++ [.push a]) = pushed ops ++ [a] := by simp [pushed]
      refine ⟨taken, hp ▸ hk.push hn a, ?_⟩
      rw [hp]
      simp only [answers, step, List.filterMap_cons, id, List.filterMap_nil, List.map_nil, List.append_nil]
      refine List.map_congr_left fun i hi => ?_
      rw [List.getElem?_append_left (hk.lt hi)]
    | pop =>
      have hp : pushed (ops ++ [.pop]) = pushed ops := by simp [pushed]
      rw [hp]
      cases hl : final (step n) ops [] with
      | nil => exact ⟨taken, by simpa [final, step, hl] using hk, by simp [answers, step]⟩
      | cons x rest =>
        obtain ⟨i, hi, hnext⟩ := Kept.pop (hl ▸ hk)
        exact ⟨taken ++ [i], by simpa [final, step] using hnext, by simp [answers, step, hi]⟩

end Latest
