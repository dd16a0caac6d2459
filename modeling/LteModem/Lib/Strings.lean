import Mathlib.Algebra.Group.Int.Defs
import Mathlib.Algebra.Group.Nat.Defs
import Mathlib.Data.List.DropRight
import Mathlib.Data.List.Flatten
import Mathlib.Data.List.Infix

/-!
# Character strings as lists

The part of `std::string_view`, `<cstdlib>` and `snprintf` that AT parsers use.
-/

namespace Strings

abbrev Str := List Char

/-! ## Searching -/

/-- The first position of `pat` in `s`, as `string_view::find`. -/
def find (pat : Str) : Str → Option Nat
  | [] => if pat = [] then some 0 else none
  | c :: s => if pat.isPrefixOf (c :: s) then some 0 else (find pat s).map (· + 1)

/-- The text before the first `c`, and the text after it when there is one. -/
def cut (c : Char) : Str → Str × Option Str
  | [] => ([], none)
  | d :: s => if d = c then ([], some s) else (d :: (cut c s).1, (cut c s).2)

/-- Both ends without the characters of `set`. -/
def strip (set : Str) (s : Str) : Str :=
  (s.dropWhile (set.contains ·)).rdropWhile (set.contains ·)

theorem find_nil (s : Str) : find [] s = some 0 := by
  cases s <;> simp [find]

theorem find_eq_none_iff {pat s : Str} : find pat s = none ↔ ¬ pat <:+: s := by
  induction s with
  | nil => simp [find]
  | cons c s ih =>
    rw [find, List.infix_cons_iff, ← List.isPrefixOf_iff_prefix]
    by_cases hp : pat.isPrefixOf (c :: s) = true
    · simp [hp]
    · simp [hp, ih]

theorem find_eq_none {c : Char} {s : Str} (h : find [c] s = none) : c ∉ s := by
  rwa [find_eq_none_iff, List.singleton_infix_iff] at h

theorem find_of_infix {pat s : Str} (h : pat <:+: s) : ∃ i, find pat s = some i := by
  rcases hf : find pat s with _ | i
  · exact absurd h (find_eq_none_iff.mp hf)
  · exact ⟨i, rfl⟩

theorem find_split {pat s : Str} {i : Nat} (h : find pat s = some i) :
    ∃ a b, s = a ++ pat ++ b ∧ a.length = i := by
  induction s generalizing i with
  | nil =>
    simp only [find] at h
    split_ifs at h with hp
    simp only [Option.some.injEq] at h
    exact ⟨[], [], by simp [hp], h⟩
  | cons c s ih =>
    rw [find] at h
    split_ifs at h with hp
    · obtain ⟨b, hb⟩ := List.isPrefixOf_iff_prefix.mp hp
      exact ⟨[], b, hb.symm, by simpa using h⟩
    · obtain ⟨j, hj, rfl⟩ := Option.map_eq_some_iff.mp h
      obtain ⟨a, b, rfl, rfl⟩ := ih hj
      exact ⟨c :: a, b, rfl, rfl⟩

theorem find_bound {pat s : Str} {i : Nat} (h : find pat s = some i) : i + pat.length ≤ s.length := by
  obtain ⟨a, b, rfl, rfl⟩ := find_split h
  simp

theorem find_append_left {pat a : Str} {i : Nat} (h : find pat a = some i) (b : Str) :
    find pat (a ++ b) = some i := by
  induction a generalizing i with
  | nil =>
    simp only [find] at h
    split_ifs at h with hp
    rw [hp, find_nil]
    exact h
  | cons c a ih =>
    rw [find] at h
    rw [List.cons_append, find]
    split_ifs at h with hp
    · have hq : pat.isPrefixOf (c :: (a ++ b)) = true :=
        List.isPrefixOf_iff_prefix.mpr ((List.isPrefixOf_iff_prefix.mp hp).trans ⟨b, rfl⟩)
      rw [if_pos hq]
      exact h
    · obtain ⟨j, hj, rfl⟩ := Option.map_eq_some_iff.mp h
      have hq : ¬ pat.isPrefixOf (c :: (a ++ b)) = true := by
        intro hq
        apply hp
        apply List.isPrefixOf_iff_prefix.mpr
        have := find_bound hj
        exact List.prefix_of_prefix_length_le (List.isPrefixOf_iff_prefix.mp hq) ⟨b, rfl⟩ (by simp; omega)
      rw [if_neg hq, ih hj]
      rfl

theorem find_take (pat s : Str) (n : Nat) :
    find pat (s.take n) = (find pat s).filter fun i => i + pat.length ≤ n := by
  cases hn : find pat (s.take n) with
  | some i =>
    have hs : find pat s = some i := by
      have h := find_append_left hn (s.drop n)
      rwa [List.take_append_drop] at h
    have hb := find_bound hn
    rw [List.length_take] at hb
    rw [hs, Option.filter_some, if_pos (decide_eq_true (by omega))]
  | none =>
    cases hs : find pat s with
    | none => rfl
    | some i =>
      obtain ⟨a, b, rfl, rfl⟩ := find_split hs
      have hle : ¬ a.length + pat.length ≤ n := by
        intro hle
        have htake : (a ++ pat ++ b).take n = a ++ pat ++ b.take (n - (a ++ pat).length) := by
          rw [List.take_append, List.take_of_length_le (by rwa [List.length_append])]
        exact find_eq_none_iff.mp hn ⟨a, b.take (n - (a ++ pat).length), htake.symm⟩
      rw [Option.filter_some, if_neg (by simpa using hle)]

theorem find_eq_some {c : Char} {s : Str} {i : Nat} (h : find [c] s = some i) :
    ∃ a b, s = a ++ c :: b ∧ a.length = i ∧ c ∉ a := by
  obtain ⟨a, b, rfl, rfl⟩ := find_split h
  refine ⟨a, b, by simp, rfl, fun ha => ?_⟩
  obtain ⟨j, hj⟩ := find_of_infix ((List.singleton_infix_iff _ _).mpr ha)
  have hb := find_bound hj
  rw [List.append_assoc, find_append_left hj] at h
  simp only [Option.some.injEq, List.length_singleton] at h hb
  omega

theorem find_skip {pat a : Str} {c : Char} (hn : pat ≠ []) (hc : c ∉ pat) (h : ¬ pat <:+: a) (b : Str) :
    find pat (a ++ c :: b) = (find pat b).map (· + (a.length + 1)) := by
  induction a with
  | nil =>
    have hp : ¬ pat.isPrefixOf (c :: b) = true := by
      intro hp
      obtain ⟨t, ht⟩ := List.isPrefixOf_iff_prefix.mp hp
      obtain ⟨d, s, rfl⟩ := List.exists_cons_of_ne_nil hn
      simp only [List.cons_append, List.cons.injEq] at ht
      exact hc (ht.1 ▸ List.mem_cons_self)
    rw [List.nil_append, find, if_neg hp]
    rfl
  | cons d a ih =>
    rw [List.infix_cons_iff, not_or] at h
    have hp : ¬ pat.isPrefixOf (d :: (a ++ c :: b)) = true := by
      intro hp
      have hq : pat <+: (d :: a) ++ c :: b := List.isPrefixOf_iff_prefix.mp hp
      rcases List.prefix_or_prefix_of_prefix hq ⟨c :: b, rfl⟩ with hl | ⟨t, rfl⟩
      · exact h.1 hl
      · rcases t with _ | ⟨e, t⟩
        · simp at h
        · obtain ⟨v, hv⟩ := hq
          simp only [List.append_assoc, List.cons_append, List.append_cancel_left_eq, List.cons.injEq] at hv
          exact hc (by simp [hv.2.1])
    rw [List.cons_append, find, if_neg hp, ih h.2, Option.map_map]
    rfl

theorem cut_append {c : Char} {a : Str} (h : c ∉ a) (b : Str) : cut c (a ++ c :: b) = (a, some b) := by
  induction a with
  | nil => simp [cut]
  | cons d a ih =>
    rw [List.mem_cons, not_or] at h
    rw [List.cons_append, cut, if_neg (Ne.symm h.1), ih h.2]

theorem find_ending {d a : Str} {c : Char} (hd : c ∉ d) (ha : c ∉ a) (b : Str) :
    (d <:+ a → find (d ++ [c]) (a ++ c :: b) = some (a.length - d.length)) ∧
      (¬ d <:+ a → find (d ++ [c]) (a ++ c :: b) = (find (d ++ [c]) b).map (· + (a.length + 1))) := by
  have hprefix {x : Str} (hx : c ∉ x) : (d ++ [c]).isPrefixOf (x ++ c :: b) = true ↔ d = x := by
    rw [List.isPrefixOf_iff_prefix]
    constructor
    · rintro ⟨t, ht⟩
      rw [List.append_assoc, List.singleton_append] at ht
      have hcut := cut_append hd t
      rw [ht, cut_append hx] at hcut
      exact (Prod.mk.inj hcut).1.symm
    · rintro rfl
      exact ⟨b, by simp⟩
  induction a with
  | nil =>
    have hp : (d ++ [c]).isPrefixOf (c :: b) = true ↔ d = [] := hprefix ha
    rw [List.nil_append, find, List.suffix_nil]
    constructor
    · rintro rfl
      rw [if_pos (hp.mpr rfl)]
      rfl
    · intro hnil
      rw [if_neg (mt hp.mp hnil)]
      rfl
  | cons x a ih =>
    have hp : (d ++ [c]).isPrefixOf (x :: (a ++ c :: b)) = true ↔ d = x :: a := hprefix ha
    rw [List.mem_cons, not_or] at ha
    rw [List.cons_append, find, List.suffix_cons_iff]
    by_cases heq : d = x :: a
    · rw [if_pos (hp.mpr heq), heq, Nat.sub_self]
      exact ⟨fun _ => rfl, fun hn => absurd (.inl rfl) hn⟩
    · rw [if_neg (mt hp.mp heq)]
      constructor
      · intro hs
        have hs := hs.resolve_left heq
        have hle := hs.length_le
        rw [(ih ha.2).1 hs, Option.map_some, List.length_cons]
        congr 1
        omega
      · intro hs
        rw [(ih ha.2).2 (fun h => hs (.inr h)), Option.map_map]
        rfl

theorem suffix_after_blank {d a s : Str} (h : ' ' ∉ d) : d <:+ a ++ ' ' :: s ↔ d <:+ s := by
  constructor
  · intro hd
    rcases List.suffix_or_suffix_of_suffix hd (List.suffix_append a (' ' :: s)) with hs | hs
    · rcases List.suffix_cons_iff.mp hs with rfl | hs
      · exact absurd List.mem_cons_self h
      · exact hs
    · exact absurd (hs.subset List.mem_cons_self) h
  · intro hd
    exact hd.trans ((List.suffix_cons ' ' s).trans (List.suffix_append a _))

theorem cut_none {c : Char} {a : Str} (h : c ∉ a) : cut c a = (a, none) := by
  induction a with
  | nil => rfl
  | cons d a ih =>
    rw [List.mem_cons, not_or] at h
    rw [cut, if_neg (Ne.symm h.1), ih h.2]

theorem count_cut {c : Char} {s a b : Str} (h : cut c s = (a, some b)) : s.count c = b.count c + 1 := by
  induction s generalizing a with
  | nil => simp [cut] at h
  | cons d s ih =>
    rw [cut] at h
    split at h
    · rename_i hd
      simp only [Prod.mk.injEq, Option.some.injEq] at h
      rw [hd, List.count_cons_self, h.2]
    · rename_i hd
      simp only [Prod.mk.injEq] at h
      rw [List.count_cons_of_ne hd, ih (Prod.ext rfl h.2)]

theorem mem_of_cut {c : Char} {s a b : Str} (h : cut c s = (a, some b)) : c ∈ s := by
  rw [← List.count_pos_iff, count_cut h]
  omega

theorem not_mem_of_cut {c : Char} {s a : Str} (h : cut c s = (a, none)) : c ∉ s := by
  intro hc
  obtain ⟨a', b, rfl, ha⟩ := List.eq_append_cons_of_mem hc
  rw [cut_append ha] at h
  cases h

theorem not_mem_cut {c : Char} {s a : Str} {b : Option Str} (h : cut c s = (a, b)) : c ∉ a := by
  by_cases hc : c ∈ s
  · obtain ⟨a', t, rfl, ha⟩ := List.eq_append_cons_of_mem hc
    rw [cut_append ha] at h
    exact (Prod.mk.inj h).1 ▸ ha
  · rw [cut_none hc] at h
    exact (Prod.mk.inj h).1 ▸ hc

/-! ### Stripping -/

theorem dropWhile_append_all {α : Type} {p : α → Bool} {a : List α} (ha : ∀ c ∈ a, p c = true) (b : List α) :
    (a ++ b).dropWhile p = b.dropWhile p := by
  rw [List.dropWhile_append, List.dropWhile_eq_nil_iff.mpr ha]
  rfl

theorem rdropWhile_append_all {α : Type} {p : α → Bool} (a : List α) {b : List α} (hb : ∀ c ∈ b, p c = true) :
    (a ++ b).rdropWhile p = a.rdropWhile p := by
  rw [List.rdropWhile, List.reverse_append, dropWhile_append_all fun c hc => hb c (List.mem_reverse.mp hc)]
  rfl

theorem takeWhile_until {c : Char} {a : Str} (h : c ∉ a) (b : Str) : (a ++ c :: b).takeWhile (· ≠ c) = a := by
  have hp : ∀ d ∈ a, decide (d ≠ c) = true := by
    intro d hd
    simpa using ne_of_mem_of_not_mem hd h
  rw [List.takeWhile_append_of_pos hp, List.takeWhile_cons_of_neg (by simp), List.append_nil]

theorem dropWhile_until {c : Char} {a : Str} (h : c ∉ a) (b : Str) : (a ++ c :: b).dropWhile (· ≠ c) = c :: b := by
  have hp : ∀ d ∈ a, decide (d ≠ c) = true := by
    intro d hd
    simpa using ne_of_mem_of_not_mem hd h
  rw [dropWhile_append_all hp, List.dropWhile_cons_of_neg (by simp)]

theorem strip_padded {set a s b : Str} (ha : ∀ c ∈ a, c ∈ set) (hb : ∀ c ∈ b, c ∈ set)
    (hh : ∀ c ∈ s.head?, c ∉ set) (hl : ∀ c ∈ s.getLast?, c ∉ set) : strip set (a ++ s ++ b) = s := by
  have hp : ∀ {t : Str}, (∀ c ∈ t, c ∈ set) → ∀ c ∈ t, set.contains c = true := fun h c hc => by simpa using h c hc
  unfold strip
  rw [List.append_assoc, dropWhile_append_all (hp ha)]
  rcases s with _ | ⟨c, s⟩
  · rw [List.nil_append, List.dropWhile_eq_nil_iff.mpr (hp hb)]
    rfl
  · have hc : ¬ (set.contains c) = true := by simpa using hh c rfl
    rw [List.cons_append, List.dropWhile_cons_of_neg hc, ← List.cons_append, rdropWhile_append_all _ (hp hb),
      List.rdropWhile_eq_self_iff]
    intro hne
    simpa using hl _ (List.getLast?_eq_getLast_of_ne_nil hne)

theorem strip_inner {set a s b : Str} (ha : ∀ c ∈ a, c ∈ set) (hb : ∀ c ∈ b, c ∈ set) (hs : ∀ c ∈ s, c ∉ set) :
    strip set (a ++ s ++ b) = s :=
  strip_padded ha hb (fun c hc => hs c (List.mem_of_mem_head? hc)) fun c hc => hs c (List.mem_of_getLast? hc)

def crlf : Str := ['\r', '\n']

/-- The pieces of `s` between carriage return, line feed pairs. -/
def lines : Str → List Str
  | [] => [[]]
  | [c] => [[c]]
  | c :: d :: s =>
    if c = '\r' ∧ d = '\n' then [] :: lines s
    else match lines (d :: s) with
      | l :: ls => (c :: l) :: ls
      | [] => [[c]]

/-- The inverse of `lines`. -/
def joinLines : List Str → Str
  | [] => []
  | [l] => l
  | l :: m :: ls => l ++ crlf ++ joinLines (m :: ls)

/-- The first `n` fields between commas. Nothing follows a comma that ends the text. -/
def fields : Nat → Str → List Str
  | 0, _ => []
  | _ + 1, [] => []
  | n + 1, c :: s =>
    match cut ',' (c :: s) with
    | (token, none) => [token]
    | (token, some rest) => token :: fields n rest

/-- As `fields`, but a comma that ends the text is followed by one more, empty field. -/
def fieldsToEnd : Nat → Str → List Str
  | 0, _ => []
  | n + 1, s =>
    match cut ',' s with
    | (token, none) => [token]
    | (token, some rest) => token :: fieldsToEnd n rest

theorem fields_comma (n : Nat) {a : Str} (h : ',' ∉ a) (b : Str) : fields (n + 1) (a ++ ',' :: b) = a :: fields n b := by
  obtain ⟨c, s, hs⟩ : ∃ c s, a ++ ',' :: b = c :: s := List.exists_cons_of_ne_nil (by simp)
  rw [hs, fields, ← hs, cut_append h]

theorem fields_last (n : Nat) {a : Str} (hn : a ≠ []) (h : ',' ∉ a) : fields (n + 1) a = [a] := by
  obtain ⟨c, s, rfl⟩ := List.exists_cons_of_ne_nil hn
  rw [fields, cut_none h]

theorem lines_ne_nil (s : Str) : lines s ≠ [] := by
  fun_cases lines s <;> simp_all

theorem lines_cons_of_ne (c d : Char) (s : Str) (h : ¬ (c = '\r' ∧ d = '\n')) :
    ∃ l ls, lines (d :: s) = l :: ls ∧ lines (c :: d :: s) = (c :: l) :: ls := by
  rw [lines, if_neg h]
  rcases hl : lines (d :: s) with _ | ⟨l, ls⟩
  · exact absurd hl (lines_ne_nil _)
  · exact ⟨l, ls, rfl, rfl⟩

theorem lines_append_crlf (a b : Str) : lines (a ++ crlf ++ b) = lines a ++ lines b := by
  induction a using lines.induct with
  | case1 => simp [crlf, lines]
  | case2 c => simp [crlf, lines]
  | case3 c d s h ih =>
    obtain ⟨rfl, rfl⟩ := h
    simpa [lines] using ih
  | case4 c d s hcd l ls hl ih | case5 c d s hcd hl ih =>
    obtain ⟨l', ls', h1, h2⟩ := lines_cons_of_ne c d (s ++ crlf ++ b) hcd
    obtain ⟨m, ms, h3, h4⟩ := lines_cons_of_ne c d s hcd
    simp only [List.cons_append] at h1 h2 ih ⊢
    rw [ih, h3] at h1
    simp only [List.cons_append, List.cons.injEq] at h1
    rw [h2, h4, ← h1.1, ← h1.2]
    rfl

theorem joinLines_lines (s : Str) : joinLines (lines s) = s := by
  induction s using lines.induct with
  | case1 => rfl
  | case2 c => rfl
  | case3 c d s h ih =>
    obtain ⟨rfl, rfl⟩ := h
    rw [lines, if_pos ⟨rfl, rfl⟩]
    rcases hl : lines s with _ | ⟨l, ls⟩
    · exact absurd hl (lines_ne_nil _)
    · rw [hl] at ih
      simp [joinLines, ih, crlf]
  | case4 c d s hcd l ls hl ih | case5 c d s hcd hl ih =>
    obtain ⟨l', ls', h1, h2⟩ := lines_cons_of_ne c d s hcd
    rw [h1] at ih
    rw [h2]
    rcases ls' with _ | ⟨m, ms⟩ <;> simp [joinLines, ← ih]

theorem lines_beginning (c t : Str) :
    ∃ a p q b, lines c = a ++ [p] ∧ lines (c ++ t) = a ++ q :: b ∧ (p <+: q ∨ p = q ++ ['\r']) := by
  induction c using lines.induct with
  | case1 =>
    rcases hl : lines t with _ | ⟨q, b⟩
    · exact absurd hl (lines_ne_nil _)
    · exact ⟨[], [], q, b, rfl, by simpa using hl, .inl (List.nil_prefix)⟩
  | case2 c =>
    rcases t with _ | ⟨d, t⟩
    · exact ⟨[], [c], [c], [], rfl, rfl, .inl (List.prefix_refl _)⟩
    · by_cases h : c = '\r' ∧ d = '\n'
      · obtain ⟨rfl, rfl⟩ := h
        exact ⟨[], ['\r'], [], lines t, rfl, rfl, .inr rfl⟩
      · obtain ⟨l, ls, -, h2⟩ := lines_cons_of_ne c d t h
        exact ⟨[], [c], c :: l, ls, rfl, h2, .inl ⟨l, rfl⟩⟩
  | case3 c d s h ih =>
    obtain ⟨rfl, rfl⟩ := h
    obtain ⟨a, p, q, b, h1, h2, h3⟩ := ih
    refine ⟨[] :: a, p, q, b, ?_, ?_, h3⟩
    · simp [lines, h1]
    · simp [lines, h2]
  | case4 c d s hcd l ls hl ih | case5 c d s hcd hl ih =>
    obtain ⟨a, p, q, b, h1, h2, h3⟩ := ih
    obtain ⟨l, ls, h4, h5⟩ := lines_cons_of_ne c d s hcd
    obtain ⟨m, ms, h6, h7⟩ := lines_cons_of_ne c d (s ++ t) hcd
    rw [h1] at h4
    rw [List.cons_append, h6] at h2
    rcases a with _ | ⟨x, a⟩
    · -- The part is in the first line, which grows by `c`.
      simp only [List.nil_append, List.cons.injEq] at h2 h4
      refine ⟨[], c :: p, c :: q, b, ?_, ?_, ?_⟩
      · rw [h5, ← h4.1, ← h4.2]; rfl
      · simp only [List.cons_append, List.nil_append]
        rw [h7, h2.1, h2.2]
      · rcases h3 with h3 | rfl
        · exact .inl (by simpa using h3)
        · exact .inr rfl
    · simp only [List.cons_append, List.cons.injEq] at h2 h4
      refine ⟨(c :: x) :: a, p, q, b, ?_, ?_, h3⟩
      · rw [h5, ← h4.1, ← h4.2]; rfl
      · simp only [List.cons_append]
        rw [h7, h2.1, h2.2]

theorem lines_eq_singleton_iff {s : Str} : lines s = [s] ↔ ¬ crlf <:+: s := by
  have hj := joinLines_lines s
  constructor
  · rintro h ⟨a, b, rfl⟩
    rw [lines_append_crlf] at h
    have ha := List.length_pos_iff.mpr (lines_ne_nil a)
    have hb := List.length_pos_iff.mpr (lines_ne_nil b)
    have hl := congrArg List.length h
    simp only [List.length_append, List.length_singleton] at hl
    omega
  · intro h
    rcases hl : lines s with _ | ⟨l, _ | ⟨m, ls⟩⟩
    · exact absurd hl (lines_ne_nil s)
    · rw [hl, joinLines] at hj
      rw [hj]
    · rw [hl, joinLines] at hj
      exact absurd ⟨l, _, hj⟩ h

theorem not_infix_crlf {s : Str} (h : '\n' ∉ s) : ¬ crlf <:+: s :=
  fun hi => h (hi.subset (by simp [crlf]))

theorem lines_line {s : Str} (h : '\n' ∉ s) : lines s = [s] := lines_eq_singleton_iff.mpr (not_infix_crlf h)

theorem find_crlf {l : Str} (h : ¬ crlf <:+: l) (b : Str) : find crlf (l ++ crlf ++ b) = some l.length := by
  induction l with
  | nil => simp [find, crlf]
  | cons c l ih =>
    rw [List.infix_cons_iff, not_or] at h
    have hp : ¬ crlf.isPrefixOf (c :: (l ++ crlf ++ b)) = true := by
      intro hp
      apply h.1
      obtain ⟨t, ht⟩ := List.isPrefixOf_iff_prefix.mp hp
      rcases l with _ | ⟨d, l⟩
      · simp [crlf] at ht
      · simp only [crlf, List.cons_append, List.nil_append, List.cons.injEq] at ht
        exact ⟨l, by simp [crlf, ← ht.1, ← ht.2.1]⟩
    rw [List.cons_append, List.cons_append, find, if_neg hp, ih h.2]
    rfl

theorem lines_of_mem (s : Str) : ∀ l ∈ lines s, lines l = [l] := by
  induction s using lines.induct with
  | case1 => simp [lines]
  | case2 c => simp [lines]
  | case3 c d s h ih =>
    obtain ⟨rfl, rfl⟩ := h
    intro l hl
    simp only [lines, and_self, if_true, List.mem_cons] at hl
    rcases hl with rfl | hl
    · rfl
    · exact ih l hl
  | case4 c d s hcd l ls hl ih | case5 c d s hcd hl ih =>
    obtain ⟨m, ms, h1, h2⟩ := lines_cons_of_ne c d s hcd
    rw [h2]
    intro l hl
    rw [h1] at ih
    rcases List.mem_cons.mp hl with rfl | hl
    · have hm := ih m List.mem_cons_self
      rcases m with _ | ⟨e, m⟩
      · rfl
      · -- `e` is `d`, so the break is not before it either.
        obtain ⟨x, xs, h3, h4⟩ := lines_cons_of_ne c e m (by
          rintro ⟨rfl, rfl⟩
          apply hcd
          have := joinLines_lines (d :: s)
          rw [h1] at this
          rcases ms with _ | ⟨m', ms⟩ <;> simp [joinLines] at this <;>
            exact ⟨rfl, this.1.symm⟩)
        rw [h4]
        rw [hm] at h3
        simp only [List.cons.injEq] at h3
        rw [← h3.1, ← h3.2]
    · exact ih l (List.mem_cons_of_mem _ hl)

theorem lines_joinLines (ls : List Str) (hne : ls ≠ []) (h : ∀ l ∈ ls, lines l = [l]) :
    lines (joinLines ls) = ls := by
  induction ls with
  | nil => exact absurd rfl hne
  | cons l ls ih =>
    rcases ls with _ | ⟨m, ls⟩
    · exact h l List.mem_cons_self
    · rw [joinLines, lines_append_crlf, h l List.mem_cons_self,
        ih (by simp) fun x hx => h x (List.mem_cons_of_mem _ hx)]
      rfl

theorem joinLines_concat (ls : List Str) (l : Str) (h : ls ≠ []) :
    joinLines (ls ++ [l]) = joinLines ls ++ crlf ++ l := by
  induction ls with
  | nil => exact absurd rfl h
  | cons m ls ih =>
    rcases ls with _ | ⟨k, ls⟩
    · rfl
    · have hi := ih (by simp)
      simp only [List.cons_append, joinLines] at hi ⊢
      rw [hi]
      simp

theorem joinLines_eq_nil (ls : List Str) (h : ∀ l ∈ ls, l ≠ []) : joinLines ls = [] ↔ ls = [] := by
  rcases ls with _ | ⟨l, _ | ⟨m, ls⟩⟩
  · simp [joinLines]
  · simpa [joinLines] using h
  · simp [joinLines, crlf]

theorem length_joinLines (ls : List Str) :
    (joinLines ls).length = ls.flatten.length + 2 * (ls.length - 1) := by
  induction ls using joinLines.induct with
  | case1 => rfl
  | case2 l => simp [joinLines]
  | case3 l m ls ih =>
    simp only [joinLines, List.length_append, ih, crlf, List.flatten_cons, List.length_cons,
      List.length_nil]
    omega

theorem length_joinLines_le {ls ms : List Str} (h : ls.Sublist ms) :
    (joinLines ls).length ≤ (joinLines ms).length := by
  have hs := h.flatten.length_le
  have hl := h.length_le
  rw [length_joinLines, length_joinLines]
  omega

theorem joinLines_sublist {ls ms : List Str} (h : ls.Sublist ms) (hn : ls ≠ []) :
    joinLines ls = joinLines ms ↔ ls = ms := by
  constructor
  · intro he
    apply h.eq_of_length_le
    have hl := congrArg List.length he
    rw [length_joinLines, length_joinLines] at hl
    have hf := h.flatten.length_le
    have hp := List.length_pos_iff.mpr hn
    omega
  · intro he
    rw [he]

theorem joinLines_inj (ls ms : List Str) (hl : ∀ l ∈ ls, l ≠ [] ∧ lines l = [l])
    (hm : ∀ l ∈ ms, l ≠ [] ∧ lines l = [l]) (h : joinLines ls = joinLines ms) : ls = ms := by
  have e1 := joinLines_eq_nil ls fun l hx => (hl l hx).1
  have e2 := joinLines_eq_nil ms fun l hx => (hm l hx).1
  by_cases hn : ls = []
  · rw [hn, e2.mp (h ▸ e1.mpr hn)]
  · have hn' : ms ≠ [] := fun h0 => hn (e1.mp (h ▸ e2.mpr h0))
    rw [← lines_joinLines ls hn fun l hx => (hl l hx).2, h,
      lines_joinLines ms hn' fun l hx => (hm l hx).2]

/-! ### Lines that a line feed ends -/

/-- The lines of `s` that a line feed ends. What follows the last one is left out. -/
def lfLines : Str → List Str
  | [] => []
  | c :: s =>
    if c = '\n' then [] :: lfLines s
    else match lfLines s with
      | [] => []
      | l :: ls => (c :: l) :: ls

theorem lfLines_eq_nil {s : Str} : lfLines s = [] ↔ '\n' ∉ s := by
  induction s with
  | nil => simp [lfLines]
  | cons c s ih =>
    rw [lfLines, List.mem_cons, not_or, ← ih]
    split_ifs with hc
    · simp [hc]
    · rcases lfLines s with _ | ⟨l, ls⟩ <;> simp [Ne.symm hc]

theorem lfLines_line {a : Str} (h : '\n' ∉ a) (b : Str) : lfLines (a ++ '\n' :: b) = a :: lfLines b := by
  induction a with
  | nil => simp [lfLines]
  | cons c a ih =>
    rw [List.mem_cons, not_or] at h
    rw [List.cons_append, lfLines, if_neg (Ne.symm h.1), ih h.2]

theorem lfLines_append (a b : Str) : lfLines (a ++ '\n' :: b) = lfLines (a ++ ['\n']) ++ lfLines b := by
  induction a with
  | nil => simp [lfLines]
  | cons c a ih =>
    rw [List.cons_append, List.cons_append, lfLines, lfLines, ih]
    by_cases hc : c = '\n'
    · rw [if_pos hc, if_pos hc]
      rfl
    · rw [if_neg hc, if_neg hc]
      have hne : lfLines (a ++ ['\n']) ≠ [] := by
        rw [Ne, lfLines_eq_nil]
        simp
      obtain ⟨l, ls, hl⟩ := List.exists_cons_of_ne_nil hne
      rw [hl]
      rfl

theorem lfLines_mono (a b : Str) : lfLines a <+: lfLines (a ++ b) := by
  induction a with
  | nil => exact List.nil_prefix
  | cons c a ih =>
    rw [List.cons_append, lfLines, lfLines]
    split_ifs with hc
    · exact List.prefix_cons_inj _ |>.mpr ih
    · rcases hl : lfLines a with _ | ⟨l, ls⟩
      · exact List.nil_prefix
      · rw [hl] at ih
        obtain ⟨t, ht⟩ := ih
        rw [← ht]
        exact ⟨t, rfl⟩

/-- What follows the last line feed. -/
def lfRest (s : Str) : Str := s.rtakeWhile (· ≠ '\n')

theorem not_mem_lfRest (s : Str) : '\n' ∉ lfRest s := by
  intro h
  simpa using List.mem_rtakeWhile_imp h

theorem lfRest_eq_self {s : Str} (h : '\n' ∉ s) : lfRest s = s := by
  refine List.rtakeWhile_eq_self_iff.mpr fun c hc => ?_
  simp only [ne_eq, decide_not, Bool.not_eq_true', decide_eq_false_iff_not]
  rintro rfl
  exact h hc

theorem lfRest_concat (s : Str) (c : Char) : lfRest (s ++ [c]) = if c = '\n' then [] else lfRest s ++ [c] := by
  unfold lfRest
  rw [List.rtakeWhile_concat]
  by_cases h : c = '\n' <;> simp [h]

theorem lfRest_line (a b : Str) : lfRest (a ++ '\n' :: b) = lfRest b := by
  induction b using List.reverseRecOn with
  | nil => exact lfRest_concat a '\n'
  | append_singleton b c ih => rw [← List.cons_append, ← List.append_assoc, lfRest_concat, lfRest_concat, ih]

theorem eq_append_lfRest (s : Str) : s = lfRest s ∨ ∃ q, s = q ++ '\n' :: lfRest s := by
  induction s using List.reverseRecOn with
  | nil => exact .inl rfl
  | append_singleton s c ih =>
    rw [lfRest_concat]
    split_ifs with hc
    · exact .inr ⟨s, by rw [hc]⟩
    · rcases ih with h | ⟨q, h⟩
      · exact .inl (by rw [← h])
      · refine .inr ⟨q, ?_⟩
        rw [← List.cons_append, ← List.append_assoc, ← h]

theorem lfLines_rest (s t : Str) : lfLines (s ++ t) = lfLines s ++ lfLines (lfRest s ++ t) := by
  rcases eq_append_lfRest s with h | ⟨q, h⟩
  · have hn : lfLines s = [] := lfLines_eq_nil.mpr (h ▸ not_mem_lfRest s)
    rw [hn, ← h]
    rfl
  · have hn : lfLines (lfRest s) = [] := lfLines_eq_nil.mpr (not_mem_lfRest s)
    conv_lhs => rw [h]
    conv_rhs => enter [1]; rw [h]
    rw [List.append_assoc, List.cons_append, lfLines_append, lfLines_append q (lfRest s), hn, List.append_nil]

theorem lfRest_append (s t : Str) : lfRest (s ++ t) = lfRest (lfRest s ++ t) := by
  rcases eq_append_lfRest s with h | ⟨q, h⟩
  · rw [← h]
  · conv_lhs => rw [h]
    rw [List.append_assoc, List.cons_append, lfRest_line]

/-! ### Behind a line -/

/-- What follows the line of the first `word`, or nothing. -/
def afterLineOf (word s : Str) : Str :=
  match find word s with
  | none => []
  | some i =>
    match find crlf (s.drop i) with
    | none => []
    | some j => s.drop (i + j + 2)

theorem afterLineOf_skip {word q : Str} (hw : word ≠ []) (hr : '\r' ∉ word) (hn : '\n' ∉ word)
    (h : ¬ word <:+: q) (s : Str) :
    afterLineOf word (q ++ crlf ++ s) = afterLineOf word s := by
  have hnil : ¬ word <:+: [] := by simpa using hw
  have hf : find word (q ++ crlf ++ s) = (find word s).map (· + (q.length + 2)) := by
    have h2 := find_skip hw hn hnil s
    have h1 := find_skip hw hr h ('\n' :: s)
    simp only [List.nil_append, List.length_nil] at h2
    rw [h2, Option.map_map] at h1
    simpa [crlf, Function.comp_def, Nat.add_assoc, Nat.add_comm, Nat.add_left_comm] using h1
  have hd (k : Nat) : (q ++ crlf ++ s).drop (k + (q.length + 2)) = s.drop k := by
    have hl : (q ++ crlf).length = q.length + 2 := by simp [crlf]
    rw [← hl, Nat.add_comm, ← List.drop_drop, List.drop_left]
  unfold afterLineOf
  rw [hf]
  rcases find word s with _ | i
  · rfl
  · simp only [Option.map_some, hd]
    rcases find crlf (s.drop i) with _ | j
    · rfl
    · simp only
      rw [show i + (q.length + 2) + j + 2 = i + j + 2 + (q.length + 2) by omega, hd]

theorem afterLineOf_line {word l : Str} (hl : ¬ crlf <:+: l) (h : word <:+: l) (s : Str) :
    afterLineOf word (l ++ crlf ++ s) = s := by
  obtain ⟨i, hi⟩ := find_of_infix h
  have hb := find_bound hi
  have hd : (l ++ crlf ++ s).drop i = l.drop i ++ crlf ++ s := by
    rw [List.append_assoc, List.drop_append_of_le_length (by omega), List.append_assoc]
  have hc : find crlf (l.drop i ++ crlf ++ s) = some (l.drop i).length :=
    find_crlf (fun hi => hl (hi.trans (List.drop_suffix i l).isInfix)) s
  have hlen : i + (l.drop i).length + 2 = (l ++ crlf).length := by
    simp [crlf]
    omega
  have hf : find word (l ++ crlf ++ s) = some i := by
    rw [List.append_assoc]
    exact find_append_left hi _
  unfold afterLineOf
  simp only [hf, hd, hc, hlen, List.drop_left]

theorem afterLineOf_append {word q : Str} (h : word <:+: q) (s : Str) :
    afterLineOf word (q ++ crlf ++ s) = afterLineOf word (q ++ crlf) ++ s := by
  obtain ⟨i, hi⟩ := find_of_infix h
  have hb := find_bound hi
  have h1 : find word (q ++ crlf) = some i := find_append_left hi crlf
  have h2 : find word (q ++ crlf ++ s) = some i := find_append_left h1 s
  have hd : (q ++ crlf).drop i = q.drop i ++ crlf := List.drop_append_of_le_length (by omega)
  have hds : (q ++ crlf ++ s).drop i = (q ++ crlf).drop i ++ s :=
    List.drop_append_of_le_length (by simp; omega)
  have hc : crlf <:+: (q ++ crlf).drop i := hd ▸ ⟨q.drop i, [], by simp⟩
  obtain ⟨j, hj⟩ := find_of_infix hc
  have hjb := find_bound hj
  have hcl : crlf.length = 2 := rfl
  rw [List.length_drop, hcl] at hjb
  unfold afterLineOf
  simp only [h1, h2, hds, hj, find_append_left hj s]
  exact List.drop_append_of_le_length (by omega)

theorem afterLineOf_suffix (word s : Str) : afterLineOf word s = [] ∨ ∃ q, s = q ++ crlf ++ afterLineOf word s := by
  unfold afterLineOf
  rcases hi : find word s with _ | i
  · exact .inl rfl
  · simp only
    rcases hj : find crlf (s.drop i) with _ | j
    · exact .inl rfl
    · obtain ⟨a, b, hab, rfl⟩ := find_split hj
      right
      refine ⟨s.take i ++ a, ?_⟩
      have hb : s.drop (i + a.length + 2) = b := by
        rw [Nat.add_assoc, ← List.drop_drop, hab]
        simp [crlf, List.drop_append]
      simp only [hb]
      conv_lhs => rw [← List.take_append_drop i s, hab]
      simp

/-! ## Numbers -/

def isDigit (c : Char) : Bool := 48 ≤ c.toNat && c.toNat ≤ 57

def isSpace (c : Char) : Bool := c = ' ' || (9 ≤ c.toNat && c.toNat ≤ 13)

def digitsVal (s : Str) : Nat := s.foldl (fun v c => 10 * v + (c.toNat - 48)) 0

/-- The low 32 bits of `v`, as a signed number. -/
def toInt32 (v : Int) : Int := (v + 2 ^ 31) % 2 ^ 32 - 2 ^ 31

/-- `strtol` base 10: blanks, a sign, digits. Values past 64 bits stay at the bound. -/
def strtol (s : Str) : Int :=
  match s.dropWhile isSpace with
  | '-' :: t => max (-2 ^ 63) (-(digitsVal (t.takeWhile isDigit) : Int))
  | '+' :: t => min (2 ^ 63 - 1) (digitsVal (t.takeWhile isDigit) : Int)
  | t => min (2 ^ 63 - 1) (digitsVal (t.takeWhile isDigit) : Int)

/-- `atoi`: `strtol`, then a conversion to `int`. -/
def atoi (s : Str) : Int := toInt32 (strtol s)

def hexVal (c : Char) : Option Nat :=
  if isDigit c then some (c.toNat - 48)
  else if 97 ≤ c.toNat ∧ c.toNat ≤ 102 then some (c.toNat - 87)
  else if 65 ≤ c.toNat ∧ c.toNat ≤ 70 then some (c.toNat - 55)
  else none

def hexDigits (s : Str) : List Nat := (s.takeWhile fun c => (hexVal c).isSome).filterMap hexVal

/-- The digits after an optional `0x`, which counts only in front of a hex digit. -/
def hexBody : Str → Str
  | '0' :: x :: d :: s =>
    if (x = 'x' ∨ x = 'X') ∧ (hexVal d).isSome then d :: s else '0' :: x :: d :: s
  | s => s

/-- `strtoul` and `strtoull` base 16 on LP64. A minus sign negates modulo `2 ^ 64`. -/
def strtoull16 (s : Str) : Nat :=
  let value (t : Str) : Nat := min (2 ^ 64 - 1) ((hexDigits (hexBody t)).foldl (16 * · + ·) 0)
  match s.dropWhile isSpace with
  | '-' :: t => (2 ^ 64 - value t) % 2 ^ 64
  | '+' :: t => value t
  | t => value t

/-- `strtoull` base 10 with the unread rest. -/
def strtoull10 (s : Str) : Nat × Str :=
  let value (t : Str) : Nat := min (2 ^ 64 - 1) (digitsVal (t.takeWhile isDigit))
  match s.dropWhile isSpace with
  | '-' :: t => if (t.takeWhile isDigit) = [] then (0, s)
    else ((2 ^ 64 - value t) % 2 ^ 64, t.dropWhile isDigit)
  | '+' :: t => if (t.takeWhile isDigit) = [] then (0, s) else (value t, t.dropWhile isDigit)
  | t => if (t.takeWhile isDigit) = [] then (0, s) else (value t, t.dropWhile isDigit)

def octalDigits (s : Str) : List Nat := (s.takeWhile fun c => 48 ≤ c.toNat && c.toNat ≤ 55).map (·.toNat - 48)

/-- `strtoul` base 0 on LP64: `0x` stands in front of hex digits, `0` in front of octal ones. -/
def strtoul0 (s : Str) : Nat :=
  let value (t : Str) : Nat :=
    if hexBody t ≠ t then (hexDigits (hexBody t)).foldl (16 * · + ·) 0
    else if t.head? = some '0' then (octalDigits t).foldl (8 * · + ·) 0
    else digitsVal (t.takeWhile isDigit)
  match s.dropWhile isSpace with
  | '-' :: t => (2 ^ 64 - min (2 ^ 64 - 1) (value t)) % 2 ^ 64
  | '+' :: t => min (2 ^ 64 - 1) (value t)
  | t => min (2 ^ 64 - 1) (value t)

def decimal (n : Nat) : Str := Nat.toDigits 10 n

def decimalInt : Int → Str
  | .ofNat n => decimal n
  | .negSucc n => '-' :: decimal (n + 1)

/-! ### Decimals -/

theorem isDigit_of_mem_decimal {n : Nat} {c : Char} (h : c ∈ decimal n) : isDigit c = true := by
  have hc : c.isDigit = true := Nat.isDigit_of_mem_toDigits (by decide) (by decide) h
  rw [Char.isDigit_iff_toNat] at hc
  simpa [isDigit] using hc

theorem not_mem_digits {s : Str} (hs : ∀ c ∈ s, isDigit c = true) {c : Char} (hc : isDigit c = false) : c ∉ s := by
  intro h
  rw [hs c h] at hc
  cases hc

theorem digits_apart {s set : Str} (hs : ∀ c ∈ s, isDigit c = true) (hset : set.any isDigit = false) :
    ∀ c ∈ s, c ∉ set := by
  intro c hc hm
  exact Bool.eq_false_iff.mp hset (List.any_eq_true.mpr ⟨c, hm, hs c hc⟩)

theorem not_mem_decimal {n : Nat} {c : Char} (hc : isDigit c = false) : c ∉ decimal n :=
  not_mem_digits (fun _ => isDigit_of_mem_decimal) hc

theorem decimal_ne_nil (n : Nat) : decimal n ≠ [] := Nat.toDigits_ne_nil

theorem digitsVal_decimal (n : Nat) : digitsVal (decimal n) = n := by
  have h : Nat.ofDigitChars 10 (Nat.toDigits 10 n) 0 = n := Nat.ofDigitChars_ten_toDigits
  rw [Nat.ofDigitChars_eq_foldl] at h
  exact h

theorem length_decimal_le {n k : Nat} (hk : 0 < k) (h : n < 10 ^ k) : (decimal n).length ≤ k :=
  (Nat.length_toDigits_le_iff (by decide) hk).mpr h

theorem lt_length_decimal {n k : Nat} (hk : 0 < k) (h : 10 ^ k ≤ n) : k < (decimal n).length := by
  by_contra hle
  have hlt := (Nat.length_toDigits_le_iff (by decide) hk).mp (Nat.le_of_not_lt hle)
  omega

theorem decimal_injective {m n : Nat} (h : decimal m = decimal n) : m = n := by
  rw [← digitsVal_decimal m, h, digitsVal_decimal]

theorem decimal_concat (n : Nat) : ∃ s, decimal n = s ++ [Nat.digitChar (n % 10)] := by
  unfold decimal
  rw [Nat.toDigits_eq_if (by decide)]
  split_ifs with hn
  · exact ⟨[], by rw [Nat.mod_eq_of_lt hn, List.nil_append]⟩
  · exact ⟨_, rfl⟩

theorem decimal_digit {n : Nat} (h : n < 10) : decimal n = [Nat.digitChar n] := Nat.toDigits_of_lt_base h

theorem digitChar_inj {m n : Nat} (hm : m < 10) (hn : n < 10) : Nat.digitChar m = Nat.digitChar n ↔ m = n := by
  constructor
  · intro h
    have hv := congrArg Char.toNat h
    rw [Nat.toNat_digitChar_of_lt_ten hm, Nat.toNat_digitChar_of_lt_ten hn] at hv
    omega
  · rintro rfl
    rfl

theorem digitsVal_concat (s : Str) (c : Char) : digitsVal (s ++ [c]) = 10 * digitsVal s + (c.toNat - 48) := by
  rw [digitsVal, List.foldl_append]
  rfl

theorem digits_eq {s : Str} (hs : ∀ c ∈ s, isDigit c = true) (hn : s ≠ []) :
    ∃ zeros, s = List.replicate zeros '0' ++ decimal (digitsVal s) := by
  induction s using List.reverseRecOn with
  | nil => exact absurd rfl hn
  | append_singleton s c ih =>
    have hc := hs c (List.mem_append_right s (List.mem_singleton_self c))
    obtain ⟨d, hd, rfl⟩ : ∃ d, d < 10 ∧ c = Nat.digitChar d := by
      simp only [isDigit, Bool.and_eq_true, decide_eq_true_eq] at hc
      refine ⟨c.toNat - 48, by omega, Char.toNat_inj.mp ?_⟩
      rw [Nat.toNat_digitChar_of_lt_ten (by omega)]
      omega
    have hval : digitsVal (s ++ [Nat.digitChar d]) = 10 * digitsVal s + d := by
      rw [digitsVal_concat, Nat.toNat_digitChar_of_lt_ten hd, Nat.add_sub_cancel_left]
    rw [hval]
    by_cases hnil : s = []
    · subst hnil
      have hzero : 10 * digitsVal [] + d = d := Nat.zero_add d
      exact ⟨0, by rw [hzero, decimal_digit hd]; rfl⟩
    · obtain ⟨zeros, hz⟩ := ih (fun c hc => hs c (List.mem_append_left _ hc)) hnil
      by_cases h0 : digitsVal s = 0
      · refine ⟨zeros + 1, ?_⟩
        rw [h0] at hz
        rw [h0, Nat.mul_zero, Nat.zero_add, decimal_digit hd, List.replicate_succ', hz]
        rfl
      · refine ⟨zeros, ?_⟩
        have hsplit : decimal (10 * digitsVal s + d) = decimal (digitsVal s) ++ [Nat.digitChar d] := by
          rw [decimal, Nat.toDigits_of_base_le (by decide) (by omega), show (10 * digitsVal s + d) / 10 = digitsVal s by omega,
            show (10 * digitsVal s + d) % 10 = d by omega, ← decimal]
        rw [hsplit, ← List.append_assoc, ← hz]

theorem digitsVal_zeros (zeros n : Nat) : digitsVal (List.replicate zeros '0' ++ decimal n) = n := by
  have h := digitsVal_decimal n
  induction zeros with
  | zero => exact h
  | succ zeros ih => exact ih
theorem takeWhile_decimal (n : Nat) : (decimal n).takeWhile isDigit = decimal n :=
  List.takeWhile_eq_self_iff.mpr fun _ => isDigit_of_mem_decimal

theorem dropWhile_decimal (n : Nat) : (decimal n).dropWhile isDigit = [] :=
  List.dropWhile_eq_nil_iff.mpr fun _ => isDigit_of_mem_decimal

theorem head_decimal (n : Nat) : ∃ c s, decimal n = c :: s ∧ isDigit c = true := by
  cases h : decimal n with
  | nil => exact absurd h (decimal_ne_nil n)
  | cons c s => exact ⟨c, s, rfl, isDigit_of_mem_decimal (n := n) (by simp [h])⟩

theorem isSpace_of_isDigit {c : Char} (h : isDigit c = true) : isSpace c = false := by
  have hn : 48 ≤ c.toNat ∧ c.toNat ≤ 57 := by simpa [isDigit] using h
  have hs : c ≠ ' ' := by
    rintro rfl
    simp [isDigit] at h
  simp [isSpace, hs]
  omega

theorem dropWhile_isSpace_decimal (blanks n : Nat) :
    (List.replicate blanks ' ' ++ decimal n).dropWhile isSpace = decimal n := by
  induction blanks with
  | zero =>
    obtain ⟨c, s, h, hc⟩ := head_decimal n
    rw [h]
    simp [isSpace_of_isDigit hc]
  | succ blanks ih => simpa [List.replicate_succ, isSpace] using ih

theorem strtol_decimal {n : Nat} (h : n < 2 ^ 63) {rest : Str} (hr : ∀ c ∈ rest.head?, isDigit c = false) :
    strtol (decimal n ++ rest) = n := by
  obtain ⟨c, s, hd, hc⟩ := head_decimal n
  have hm : c ≠ '-' ∧ c ≠ '+' := by constructor <;> (rintro rfl; simp [isDigit] at hc)
  have hb : (decimal n ++ rest).dropWhile isSpace = decimal n ++ rest := by
    rw [hd, List.cons_append, List.dropWhile_cons_of_neg (by simp [isSpace_of_isDigit hc])]
  have hrest : rest.takeWhile isDigit = [] := by
    cases rest with
    | nil => rfl
    | cons d rest => exact List.takeWhile_cons_of_neg (by simp [hr d rfl])
  have hv : digitsVal ((decimal n ++ rest).takeWhile isDigit) = n := by
    rw [List.takeWhile_append_of_pos fun d hd => isDigit_of_mem_decimal hd, hrest, List.append_nil, digitsVal_decimal]
  unfold strtol
  rw [hb]
  rw [hd, List.cons_append] at hv ⊢
  simp [hm.1, hm.2, hv]
  omega

theorem atoi_decimal_append {n : Nat} (h : n < 2 ^ 31) {rest : Str} (hr : ∀ c ∈ rest.head?, isDigit c = false) :
    atoi (decimal n ++ rest) = n := by
  rw [atoi, strtol_decimal (by omega) hr, toInt32]
  omega

theorem atoi_decimal {n : Nat} (h : n < 2 ^ 31) : atoi (decimal n) = n := by
  rw [← List.append_nil (decimal n)]
  exact atoi_decimal_append h fun c hc => nomatch hc

theorem atoi_decimalInt {v : Int} (h : -2 ^ 31 ≤ v) (h' : v < 2 ^ 31) : atoi (decimalInt v) = v := by
  cases v with
  | ofNat n => exact atoi_decimal (by simp only [Int.ofNat_eq_natCast] at h'; omega)
  | negSucc n =>
    have hs : strtol ('-' :: decimal (n + 1)) = Int.negSucc n := by
      unfold strtol
      rw [List.dropWhile_cons_of_neg (by decide)]
      simp only [takeWhile_decimal, digitsVal_decimal]
      omega
    change atoi ('-' :: decimal (n + 1)) = Int.negSucc n
    rw [atoi, hs, toInt32]
    omega

theorem strtoull10_decimal (blanks : Nat) {n : Nat} (h : n < 2 ^ 64) :
    strtoull10 (List.replicate blanks ' ' ++ decimal n) = (n, []) := by
  obtain ⟨c, s, hd, hc⟩ := head_decimal n
  have hv : min (2 ^ 64 - 1) (digitsVal ((decimal n).takeWhile isDigit)) = n := by
    rw [takeWhile_decimal, digitsVal_decimal]
    omega
  have hm : c ≠ '-' ∧ c ≠ '+' := by constructor <;> (rintro rfl; simp [isDigit] at hc)
  unfold strtoull10
  rw [dropWhile_isSpace_decimal]
  split
  · next h' => exact absurd (hd ▸ h') (by simp [hm.1])
  · next h' => exact absurd (hd ▸ h') (by simp [hm.2])
  · rw [if_neg (by rw [takeWhile_decimal]; exact decimal_ne_nil n), dropWhile_decimal]
    exact congrArg (·, []) hv

/-! ### Hexadecimals -/

/-- A 64-bit number in hexadecimal digits. -/
structure HexText (n : Nat) (s : Str) : Prop where
  ne_nil : s ≠ []
  digits : ∀ c ∈ s, (hexVal c).isSome
  length : s.length ≤ 16
  value : (s.filterMap hexVal).foldl (16 * · + ·) 0 = n

instance (n : Nat) (s : Str) : Decidable (HexText n s) :=
  decidable_of_iff (s ≠ [] ∧ s.all (fun c => (hexVal c).isSome) = true ∧ s.length ≤ 16 ∧
      (s.filterMap hexVal).foldl (16 * · + ·) 0 = n)
    ⟨fun ⟨hn, hd, hl, hv⟩ => ⟨hn, List.all_eq_true.mp hd, hl, hv⟩,
      fun h => ⟨h.ne_nil, List.all_eq_true.mpr h.digits, h.length, h.value⟩⟩

theorem not_mem_hexDigits {s : Str} (hs : ∀ c ∈ s, (hexVal c).isSome) {c : Char} (hc : hexVal c = none) : c ∉ s := by
  intro h
  have hsome := hs c h
  rw [hc] at hsome
  cases hsome

theorem hexBody_digits {s : Str} (hs : ∀ c ∈ s, (hexVal c).isSome) : hexBody s = s := by
  have hx : 'x' ∉ s := not_mem_hexDigits hs rfl
  have hX : 'X' ∉ s := not_mem_hexDigits hs rfl
  unfold hexBody
  split
  · next x d s =>
    rw [if_neg]
    rintro ⟨rfl | rfl, -⟩
    · simp at hx
    · simp at hX
  · rfl

theorem isSpace_of_hexVal {c : Char} (h : (hexVal c).isSome) : isSpace c = false := by
  have hs : c ≠ ' ' := by
    rintro rfl
    cases h
  have hv : 48 ≤ c.toNat := by
    unfold hexVal at h
    split_ifs at h with h1 h2 h3
    · simp only [isDigit, Bool.and_eq_true, decide_eq_true_eq] at h1
      omega
    · omega
    · omega
    · cases h
  simp only [isSpace, hs, decide_false, Bool.false_or, Bool.and_eq_false_iff, decide_eq_false_iff_not]
  omega

theorem strtoull16_hex {n : Nat} {s : Str} (h : HexText n s) (hn : n < 2 ^ 64) : strtoull16 s = n := by
  obtain ⟨c, t, rfl⟩ := List.exists_cons_of_ne_nil h.ne_nil
  have hc : (hexVal c).isSome := h.digits c List.mem_cons_self
  have hm : c ≠ '-' ∧ c ≠ '+' := by constructor <;> (rintro rfl; cases hc)
  have hb : (c :: t).dropWhile isSpace = c :: t :=
    List.dropWhile_cons_of_neg (by simp [isSpace_of_hexVal hc])
  have hd : hexDigits (hexBody (c :: t)) = (c :: t).filterMap hexVal := by
    rw [hexBody_digits h.digits, hexDigits, List.takeWhile_eq_self_iff.mpr h.digits]
  have hv : min (2 ^ 64 - 1) ((hexDigits (hexBody (c :: t))).foldl (16 * · + ·) 0) = n := by
    rw [hd, h.value]
    omega
  unfold strtoull16
  rw [hb]
  simpa [hm.1, hm.2] using hv

theorem hexVal_digitChar : ∀ d < 16, hexVal (Nat.digitChar d) = some d := by decide

theorem hexText_toDigits {n : Nat} (h : n < 2 ^ 64) : HexText n (Nat.toDigits 16 n) := by
  have hrec (n : Nat) : (∀ c ∈ Nat.toDigits 16 n, (hexVal c).isSome) ∧
      ((Nat.toDigits 16 n).filterMap hexVal).foldl (16 * · + ·) 0 = n := by
    induction n using Nat.strongRecOn with
    | _ n ih =>
      have hd := hexVal_digitChar _ (Nat.mod_lt n (by decide : 16 > 0))
      rw [Nat.toDigits_eq_if (by decide)]
      split_ifs with hn
      · rw [Nat.mod_eq_of_lt hn] at hd
        simp [hd]
      · obtain ⟨hdigits, hvalue⟩ := ih (n / 16) (by omega)
        constructor
        · intro c hc
          rcases List.mem_append.mp hc with hc | hc
          · exact hdigits c hc
          · rw [List.mem_singleton.mp hc, hd]
            rfl
        · rw [List.filterMap_append, List.foldl_append, hvalue]
          simp [hd]
          omega
  exact ⟨Nat.toDigits_ne_nil, (hrec n).1, (Nat.length_toDigits_le_iff (by decide) (by decide)).mpr (by omega), (hrec n).2⟩

/-! ## C strings -/

/-- The characters before the first NUL. -/
def cstr (s : Str) : Str := s.takeWhile (· ≠ '\x00')

theorem takeWhile_isDigit_cstr {rest : Str} (hr : ∀ c ∈ rest.head?, isDigit c = false) :
    (cstr rest).takeWhile isDigit = [] := by
  cases rest with
  | nil => rfl
  | cons c rest =>
    have hc := hr c (by simp)
    unfold cstr
    by_cases h0 : c = '\x00' <;> simp [h0, hc]

theorem atoi_digit {c : Char} {rest : Str} (hc : isDigit c = true) (hr : ∀ c ∈ rest.head?, isDigit c = false) :
    atoi (cstr (c :: rest)) = (c.toNat - 48 : Nat) := by
  have hn : 48 ≤ c.toNat ∧ c.toNat ≤ 57 := by simpa [isDigit] using hc
  have hne {d : Char} (hd : isDigit d = false) : c ≠ d := by
    rintro rfl
    simp [hc] at hd
  have hs : isSpace c = false := by
    simp only [isSpace, hne (d := ' ') rfl]
    simp
    omega
  have h0 : cstr (c :: rest) = c :: cstr rest := by simp [cstr, hne (d := '\x00') rfl]
  have hl : strtol (c :: cstr rest) = min (2 ^ 63 - 1) (digitsVal [c] : Int) := by
    unfold strtol
    rw [List.dropWhile_cons_of_neg (by simp [hs])]
    split
    · next h => exact absurd (List.cons.inj h).1 (hne rfl)
    · next h => exact absurd (List.cons.inj h).1 (hne rfl)
    · simp [hc, takeWhile_isDigit_cstr hr]
  rw [h0, atoi, hl]
  simp only [digitsVal, List.foldl_cons, List.foldl_nil, toInt32]
  omega

/-- What `snprintf` leaves in a buffer of `n` bytes. -/
def snprintf (n : Nat) (s : Str) : Str := s.take (n - 1)

/-- What `%.*s` prints of `s` for the precision `(int) s.size()`. A negative precision is as none. -/
def printed (s : Str) : Str :=
  if s.length % 2 ^ 32 < 2 ^ 31 then cstr (s.take (s.length % 2 ^ 32)) else cstr s

theorem printed_cut (s : Str) : printed s <+: s := by
  unfold printed cstr
  split_ifs
  · exact (List.takeWhile_prefix _).trans (List.take_prefix _ s)
  · exact List.takeWhile_prefix _

theorem cstr_eq_self_iff {s : Str} : cstr s = s ↔ '\x00' ∉ s := by
  rw [cstr, List.takeWhile_eq_self_iff]
  constructor
  · intro h hm
    simpa using h _ hm
  · intro h c hc
    have hne : c ≠ '\x00' := by
      rintro rfl
      exact h hc
    simpa using hne

theorem printed_of_short {s : Str} (h : s.length < 2 ^ 31) : printed s = cstr s := by
  have hm : s.length % 2 ^ 32 = s.length := Nat.mod_eq_of_lt (by omega)
  rw [printed, hm, if_pos h, List.take_length]

/-- A line is printed whole exactly when the argument has no NUL and the buffer has room for the line
and its NUL. -/
theorem snprintf_whole_iff {n : Nat} (h0 : 0 < n) (hn : n ≤ 2 ^ 31) (a arg b : Str) :
    snprintf n (a ++ cstr (printed arg) ++ b) = a ++ arg ++ b ↔ '\x00' ∉ arg ∧ (a ++ arg ++ b).length < n := by
  have hp : cstr (printed arg) <+: arg := (List.takeWhile_prefix _).trans (printed_cut arg)
  have hle := hp.length_le
  unfold snprintf
  constructor
  · intro h
    have hl := congrArg List.length h
    simp only [List.length_take, List.length_append] at hl ⊢
    have he : cstr (printed arg) = arg := hp.eq_of_length (by omega)
    refine ⟨?_, by omega⟩
    rw [← he]
    exact fun hm => by simpa using List.mem_takeWhile_imp hm
  · rintro ⟨hz, hlen⟩
    simp only [List.length_append] at hlen
    rw [printed_of_short (by omega), cstr_eq_self_iff.mpr hz, cstr_eq_self_iff.mpr hz,
      List.take_of_length_le (by simp; omega)]

end Strings
