import LteModem.Lib.Strings

/-!
# Labelled values

`name: value name: value ...`, and the search for the word behind a label. The label is found where a name ends in
it, so the order of the fields matters.
-/

namespace Strings

def word (s : Str) : Str := (s.dropWhile (· = ' ')).takeWhile (· ≠ ' ')

def wordAfter (label line : Str) : Str :=
  match find label line with
  | none => []
  | some p => word (line.drop (p + label.length))

def labelled : List (Str × Str) → Str
  | [] => []
  | (name, value) :: more => name ++ ':' :: ' ' :: (value ++ if more = [] then [] else ' ' :: labelled more)

section

variable {d a : Str}

theorem wordAfter_here (hd : ':' ∉ d) (ha : ':' ∉ a) (hs : d <:+ a) (b : Str) :
    wordAfter (d ++ [':']) (a ++ ':' :: b) = word b := by
  have hl : d.length ≤ a.length := hs.length_le
  have hp : a.length - d.length + (d ++ [':']).length = a.length + 1 := by
    rw [List.length_append, List.length_singleton]
    omega
  have hdrop : (a ++ ':' :: b).drop (a.length + 1) = b := by
    rw [← List.drop_drop, List.drop_left, List.drop_one, List.tail_cons]
  unfold wordAfter
  rw [(find_ending hd ha b).1 hs]
  simp only [hp, hdrop]

theorem wordAfter_later (hd : ':' ∉ d) (ha : ':' ∉ a) (hs : ¬ d <:+ a) (b : Str) :
    wordAfter (d ++ [':']) (a ++ ':' :: b) = wordAfter (d ++ [':']) b := by
  have hdrop (p : Nat) : (a ++ ':' :: b).drop (p + (a.length + 1) + (d ++ [':']).length) =
      b.drop (p + (d ++ [':']).length) := by
    rw [show p + (a.length + 1) + (d ++ [':']).length = a.length + (1 + (p + (d ++ [':']).length)) by omega,
      ← List.drop_drop, List.drop_left, ← List.drop_drop, List.drop_one, List.tail_cons]
  unfold wordAfter
  rw [(find_ending hd ha b).2 hs]
  rcases find (d ++ [':']) b with _ | p
  · rfl
  · simp only [Option.map_some, hdrop]

theorem wordAfter_none (d : Str) (ha : ':' ∉ a) : wordAfter (d ++ [':']) a = [] := by
  have h : find (d ++ [':']) a = none := find_eq_none_iff.mpr fun h => ha (h.subset (by simp))
  rw [wordAfter, h]

theorem word_value {v : Str} (hv : ' ' ∉ v) (hn : v ≠ []) {b : Str} (hb : ∀ c ∈ b.head?, c = ' ') :
    word (' ' :: (v ++ b)) = v := by
  obtain ⟨c, t, rfl⟩ := List.exists_cons_of_ne_nil hn
  have hc : c ≠ ' ' := fun h => hv (h ▸ List.mem_cons_self)
  have hdrop : (' ' :: (c :: t ++ b)).dropWhile (· = ' ') = c :: t ++ b := by
    rw [List.dropWhile_cons_of_pos (by simp), List.cons_append, List.dropWhile_cons_of_neg (by simpa using hc)]
  rw [word, hdrop]
  cases b with
  | nil =>
    rw [List.append_nil]
    refine List.takeWhile_eq_self_iff.mpr fun x hx => ?_
    have hne : x ≠ ' ' := ne_of_mem_of_not_mem hx hv
    simpa using hne
  | cons e b =>
    rw [hb e rfl]
    exact takeWhile_until hv b

end

/-- Values are single words. -/
structure Word (v : Str) : Prop where
  ne_nil : v ≠ []
  no_blank : ' ' ∉ v
  no_colon : ':' ∉ v

theorem not_mem_labelled {x : Char} (hcolon : x ≠ ':') (hblank : x ≠ ' ') {fields : List (Str × Str)}
    (h : ∀ f ∈ fields, x ∉ f.1 ∧ x ∉ f.2) : x ∉ labelled fields := by
  induction fields with
  | nil => exact List.not_mem_nil
  | cons f more ih =>
    have hf := h f List.mem_cons_self
    have hmore := ih fun g hg => h g (List.mem_cons_of_mem f hg)
    rw [labelled]
    split_ifs
    · simp [hf, hcolon, hblank]
    · simp [hf, hcolon, hblank, hmore]

theorem wordAfter_labelled {d : Str} (hd : ':' ∉ d) (hblank : ' ' ∉ d) (fields : List (Str × Str))
    (hf : ∀ f ∈ fields, ':' ∉ f.1 ∧ Word f.2) {before : Str} (hb : ':' ∉ before)
    (hs : ∀ name, d <:+ before ++ name ↔ d <:+ name) :
    wordAfter (d ++ [':']) (before ++ labelled fields) =
      ((fields.find? fun f => d.isSuffixOf f.1).map Prod.snd).getD [] := by
  induction fields generalizing before with
  | nil => exact wordAfter_none d (by simpa [labelled] using hb)
  | cons f more ih =>
    obtain ⟨name, value⟩ := f
    obtain ⟨hname, hv⟩ := hf (name, value) List.mem_cons_self
    have hn : ':' ∉ before ++ name := by simp [hb, hname]
    rw [labelled, ← List.append_assoc, List.find?_cons]
    by_cases hend : d <:+ name
    · rw [wordAfter_here hd hn ((hs name).mpr hend), List.isSuffixOf_iff_suffix.mpr hend]
      refine word_value hv.no_blank hv.ne_nil ?_
      split_ifs
      · exact fun c hc => nomatch hc
      · exact fun c hc => (Option.some_inj.mp hc).symm
    · have hsuf : d.isSuffixOf name = false := by
        rw [Bool.eq_false_iff, ne_eq, List.isSuffixOf_iff_suffix]
        exact hend
      rw [wordAfter_later hd hn (fun h => hend ((hs name).mp h)), hsuf]
      split_ifs with hm
      · rw [hm, List.append_nil]
        exact wordAfter_none d (by simpa using hv.no_colon)
      · have hgap : ':' ∉ ' ' :: value ++ [' '] := by simpa using hv.no_colon
        rw [show ' ' :: (value ++ ' ' :: labelled more) = ' ' :: value ++ [' '] ++ labelled more by simp]
        refine ih (fun f hf' => hf f (List.mem_cons_of_mem _ hf')) hgap fun name => ?_
        rw [List.append_assoc, List.singleton_append]
        exact suffix_after_blank hblank

end Strings
