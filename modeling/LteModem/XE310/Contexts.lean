import LteModem.XE310.Reports
import LteModem.XE310.WholeCommands
import Mathlib.Data.List.Nodup

/-!
# The contexts of the modem

The answers to `AT#SGACT?` and `AT+CGDCONT?`, a line for each context, and what `get_pdp_state` and `get_apn`
find in them. The first searches the whole text, the second one goes from line to line.
-/

open Strings

namespace LteModem.Replies

/-! ## The state of a context -/

/-- `#SGACT: <cid>,<state>`. -/
def pdpLine (p : Nat × Nat) : Str := "#SGACT: ".toList ++ decimal p.1 ++ ',' :: decimal p.2

theorem pdpLine_eq (p : Nat × Nat) :
    pdpLine p = "#SGACT:".toList ++ ' ' :: decimal p.1 ++ ',' :: decimal p.2 := rfl

def pdpReport (contexts : List (Nat × Nat)) : Str := joinLines (contexts.map pdpLine)

/-- Different contexts, each active or not. -/
structure PdpContexts (contexts : List (Nat × Nat)) : Prop where
  distinct : (contexts.map Prod.fst).Nodup
  cid : ∀ p ∈ contexts, 1 ≤ p.1 ∧ p.1 ≤ 255
  state : ∀ p ∈ contexts, p.2 ≤ 1

/-- The place of a context's state in the report. -/
def stateAt (cid : Nat) : List (Nat × Nat) → Nat
  | [] => 0
  | p :: contexts =>
    if p.1 = cid then ("#SGACT: ".toList ++ decimal p.1 ++ [',']).length
    else (pdpLine p ++ crlf).length + stateAt cid contexts

theorem stateAt_head (p : Nat × Nat) (contexts : List (Nat × Nat)) :
    stateAt p.1 (p :: contexts) = 8 + (decimal p.1).length + 1 := by
  rw [stateAt, if_pos rfl, List.length_append, List.length_append]
  rfl

theorem length_pdpLine (p : Nat × Nat) :
    (pdpLine p).length = 8 + (decimal p.1).length + ((decimal p.2).length + 1) := by
  have h : (pdpLine p).length = "#SGACT: ".toList.length + (decimal p.1).length + (',' :: decimal p.2).length := by
    rw [← List.length_append, ← List.length_append]
    rfl
  exact h

theorem stateAt_tail {cid : Nat} {p : Nat × Nat} (h : p.1 ≠ cid) (contexts : List (Nat × Nat)) :
    stateAt cid (p :: contexts) = (pdpLine p).length + 2 + stateAt cid contexts := by
  rw [stateAt, if_neg h, List.length_append]
  rfl

/-- The first context whose own number ends in the digits of `cid`. -/
def firstEnding (cid : Nat) (contexts : List (Nat × Nat)) : Option (Nat × Nat) :=
  contexts.find? fun p => (decimal cid).isSuffixOf (decimal p.1)

/-- Where the digits of `cid` and the comma are found: the place behind them, and the third character from their
first one. -/
def searched (cid : Nat) (text : Str) : Option (Nat × Option Char) :=
  (find (decimal cid ++ [',']) text).map fun pos => (pos + (decimal cid ++ [',']).length, text[pos + 2]?)

theorem searched_line {cid : Nat} {a b : Str} (ha : ',' ∉ a) :
    searched cid (a ++ ',' :: b) =
      if (decimal cid).isSuffixOf a then some (a.length + 1, (decimal cid ++ ',' :: b)[2]?)
      else (searched cid b).map (Prod.map (a.length + 1 + ·) id) := by
  have hd : ',' ∉ decimal cid := not_mem_decimal rfl
  obtain ⟨hin, hout⟩ := find_ending hd ha b
  unfold searched
  split_ifs with hs
  · obtain ⟨u, rfl⟩ := List.isSuffixOf_iff_suffix.mp hs
    have hpos : (u ++ decimal cid).length - (decimal cid).length = u.length := by
      rw [List.length_append, Nat.add_sub_cancel]
    have hread : (u ++ decimal cid ++ ',' :: b)[u.length + 2]? = (decimal cid ++ ',' :: b)[2]? := by
      rw [List.append_assoc, List.getElem?_append_right (Nat.le_add_right _ _), Nat.add_sub_cancel_left]
    rw [hin ⟨u, rfl⟩, Option.map_some, hpos, hread, List.length_append, List.length_append, List.length_singleton,
      Nat.add_assoc]
  · have hshift (pos : Nat) : (a ++ ',' :: b)[pos + (a.length + 1) + 2]? = b[pos + 2]? := by
      rw [List.getElem?_append_right (by omega), show pos + (a.length + 1) + 2 - a.length = pos + 2 + 1 by omega,
        List.getElem?_cons_succ]
    rw [hout (fun h => hs (List.isSuffixOf_iff_suffix.mpr h))]
    rcases find (decimal cid ++ [',']) b with _ | pos
    · rfl
    · simp only [Option.map_some, hshift, Prod.map_apply, id_eq]
      rw [Nat.add_comm pos, Nat.add_assoc (a.length + 1)]

/-- The first line, up to its comma and from there on. -/
theorem pdpReport_cons (p : Nat × Nat) (contexts : List (Nat × Nat)) :
    ∃ behind, ',' ∉ behind ∧ (contexts ≠ [] → behind = crlf) ∧
      pdpReport (p :: contexts) =
        "#SGACT:".toList ++ ' ' :: decimal p.1 ++ ',' :: (decimal p.2 ++ behind ++ pdpReport contexts) := by
  rcases contexts with _ | ⟨q, contexts⟩
  · refine ⟨[], by simp, fun h => absurd rfl h, ?_⟩
    simp only [pdpReport, List.map_cons, List.map_nil, joinLines, pdpLine_eq, List.append_nil]
  · refine ⟨crlf, by decide, fun _ => rfl, ?_⟩
    simp only [pdpReport, List.map_cons, joinLines, pdpLine_eq p, List.append_assoc, List.cons_append]

theorem isSuffixOf_front (cid n : Nat) (before : Str) :
    (decimal cid).isSuffixOf (before ++ ("#SGACT:".toList ++ ' ' :: decimal n)) =
      (decimal cid).isSuffixOf (decimal n) := by
  rw [Bool.eq_iff_iff, List.isSuffixOf_iff_suffix, List.isSuffixOf_iff_suffix, ← List.append_assoc]
  exact suffix_after_blank (not_mem_decimal rfl)

/-- The third character from the digits on is still in the line. -/
theorem third_in_line (cid state : Nat) (rest : Str) :
    (decimal cid ++ ',' :: (decimal state ++ rest))[2]? = (decimal cid ++ ',' :: decimal state)[2]? := by
  have hcid := List.length_pos_iff.mpr (decimal_ne_nil cid)
  have hstate := List.length_pos_iff.mpr (decimal_ne_nil state)
  rw [← List.cons_append, ← List.append_assoc, List.getElem?_append_left (by simp; omega)]

theorem searched_report (cid : Nat) (contexts : List (Nat × Nat)) {before : Str} (hb : ',' ∉ before) :
    searched cid (before ++ pdpReport contexts) = (firstEnding cid contexts).map fun p =>
      (before.length + stateAt p.1 contexts, (decimal cid ++ ',' :: decimal p.2)[2]?) := by
  induction contexts generalizing before with
  | nil =>
    have hn : find (decimal cid ++ [',']) before = none :=
      find_eq_none_iff.mpr fun h => hb (h.subset (by simp))
    simp [pdpReport, joinLines, searched, hn, firstEnding]
  | cons p contexts ih =>
    obtain ⟨behind, hbehind, hlast, hreport⟩ := pdpReport_cons p contexts
    have hdigits (k : Nat) : ',' ∉ decimal k := not_mem_decimal rfl
    have hfront : ',' ∉ before ++ ("#SGACT:".toList ++ ' ' :: decimal p.1) := by
      simp only [List.mem_append, List.mem_cons, not_or]
      exact ⟨hb, by decide, by decide, hdigits _⟩
    have hrest : ',' ∉ decimal p.2 ++ behind := by
      rw [List.mem_append, not_or]
      exact ⟨hdigits _, hbehind⟩
    have hlabel : "#SGACT:".toList.length = 7 := rfl
    rw [hreport, ← List.append_assoc before, searched_line hfront, isSuffixOf_front, List.append_assoc (decimal p.2),
      third_in_line, ← List.append_assoc (decimal p.2), ih hrest,
      show firstEnding cid (p :: contexts) = _ from List.find?_cons]
    cases hp : (decimal cid).isSuffixOf (decimal p.1) with
    | true =>
      have hlength : (before ++ ("#SGACT:".toList ++ ' ' :: decimal p.1)).length + 1 =
          before.length + stateAt p.1 (p :: contexts) := by
        rw [stateAt_head, List.length_append, List.length_append, List.length_cons, hlabel]
        omega
      rw [if_pos (rfl : true = true), hlength]
      rfl
    | false =>
      rw [if_neg Bool.false_ne_true, Option.map_map]
      change (firstEnding cid contexts).map _ = (firstEnding cid contexts).map _
      refine Option.map_congr fun q hq => ?_
      -- the line that is found is another one, so there is a line behind this one
      have hne : p.1 ≠ q.1 := by
        intro heq
        have hs : (decimal cid).isSuffixOf (decimal q.1) = true := by simpa using List.find?_some hq
        rw [← heq, hp] at hs
        exact Bool.false_ne_true hs
      rw [hlast (List.ne_nil_of_mem (List.mem_of_find?_eq_some hq))]
      have hlength : (before ++ ("#SGACT:".toList ++ ' ' :: decimal p.1)).length + 1 +
          ((decimal p.2 ++ crlf).length + stateAt q.1 contexts) = before.length + stateAt q.1 (p :: contexts) := by
        have hend : crlf.length = 2 := rfl
        rw [stateAt_tail hne, length_pdpLine, List.length_append, List.length_append, List.length_append,
          List.length_cons, hlabel, hend]
        omega
      exact Prod.ext hlength rfl

/-- What `get_pdp_state` makes of the report. The search ends at the comma, which has to be in the response as well as
the character that is read. -/
def found (cid : Nat) (contexts : List (Nat × Nat)) : Bool :=
  (firstEnding cid contexts).any fun p => stateAt p.1 contexts ≤ AT_RESPONSE_MAX ∧
    stateAt p.1 contexts + 1 < AT_RESPONSE_MAX + (decimal cid).length ∧
    (decimal cid ++ ',' :: decimal p.2)[2]? = some '1'

theorem get_pdp_state_report {cid : Nat} (hcid : cid ≤ 255) (contexts : List (Nat × Nat)) (active : Bool) :
    get_pdp_state (.holding (pdpReport contexts)) cid active = (.ok, found cid contexts) := by
  have hl : (decimal cid).length ≤ 3 := length_decimal_le (by decide) (by omega)
  have hsearch : snprintf 8 (decimal cid ++ [',']) = decimal cid ++ [','] :=
    List.take_of_length_le (by rw [List.length_append, List.length_singleton]; omega)
  have h := searched_report cid contexts (List.not_mem_nil : ',' ∉ ([] : Str))
  rw [List.nil_append] at h
  unfold get_pdp_state found
  rw [if_neg (by simp [Answer.holding]), hsearch, Answer.holding, FixedString.ofView_view, find_take]
  cases hp : firstEnding cid contexts with
  | none =>
    rw [hp, Option.map_none, searched, Option.map_eq_none_iff] at h
    rw [h]
    rfl
  | some p =>
    rw [hp, Option.map_some, searched, Option.map_eq_some_iff] at h
    obtain ⟨pos, hpos, hread⟩ := h
    obtain ⟨hat, hthird⟩ := Prod.mk.inj hread
    rw [List.length_nil, Nat.zero_add] at hat
    rw [hpos, Option.filter_some, hat, Option.any_some]
    by_cases hin : stateAt p.1 contexts ≤ AT_RESPONSE_MAX
    · rw [if_pos (decide_eq_true hin), ← hthird]
      simp only [List.getElem?_take]
      rw [List.length_append, List.length_singleton] at hat
      have hcut : pos + 2 < AT_RESPONSE_MAX ↔
          stateAt p.1 contexts + 1 < AT_RESPONSE_MAX + (decimal cid).length := by omega
      simp only [hin, true_and, ← hcut]
      split_ifs with hroom <;> simp [hroom]
    · rw [if_neg (by simpa using hin)]
      simp [hin]

/-! ### The line and the column -/

theorem suffix_digit {cid n : Nat} (h : cid < 10) : decimal cid <:+ decimal n ↔ n % 10 = cid := by
  obtain ⟨s, hs⟩ := decimal_concat n
  rw [decimal_digit h, hs, List.singleton_suffix_iff_getLast?_eq_some, List.getLast?_concat, Option.some.injEq,
    digitChar_inj (Nat.mod_lt _ (by decide)) h]

theorem suffix_whole {cid n : Nat} (h : 100 ≤ cid) (hn : n ≤ 255) : decimal cid <:+ decimal n ↔ n = cid := by
  have hl : 2 < (decimal cid).length := lt_length_decimal (by decide) h
  have hr : (decimal n).length ≤ 3 := length_decimal_le (by decide) (by omega)
  constructor
  · intro hs
    exact (decimal_injective (hs.eq_of_length_le (by omega))).symm
  · rintro rfl
    exact List.suffix_rfl

theorem third_state {cid state : Nat} (h : cid < 10) (hs : state ≤ 1) :
    (decimal cid ++ ',' :: decimal state)[2]? = some '1' ↔ state = 1 := by
  have hc : Nat.digitChar state = '1' ↔ state = 1 := digitChar_inj (n := 1) (by omega) (by decide)
  rw [decimal_digit h, decimal_digit (by omega : state < 10), ← hc]
  simp

theorem third_comma {cid : Nat} (h : 10 ≤ cid) (h' : cid < 100) (s : Str) :
    (decimal cid ++ ',' :: s)[2]? ≠ some '1' := by
  have hl : 1 < (decimal cid).length := lt_length_decimal (by decide) h
  have hr : (decimal cid).length ≤ 2 := length_decimal_le (by decide) h'
  have hlen : (decimal cid).length = 2 := by omega
  rw [List.getElem?_append_right (by omega), hlen]
  simp

theorem third_digit {cid : Nat} (h : 100 ≤ cid) (h' : cid ≤ 255) (s : Str) :
    (decimal cid ++ ',' :: s)[2]? = some '1' ↔ cid % 10 = 1 := by
  have hl : 2 < (decimal cid).length := lt_length_decimal (by decide) h
  have hr : (decimal cid).length ≤ 3 := length_decimal_le (by decide) (by omega)
  obtain ⟨u, hu⟩ := decimal_concat cid
  have hlen : u.length = 2 := by
    have := congrArg List.length hu
    rw [List.length_append, List.length_singleton] at this
    omega
  have hc : Nat.digitChar (cid % 10) = '1' ↔ cid % 10 = 1 :=
    digitChar_inj (n := 1) (Nat.mod_lt _ (by decide)) (by decide)
  rw [hu, List.append_assoc, List.getElem?_append_right (by omega), hlen, ← hc]
  simp

/-- The character that is read says whether the context is active. With one digit it is the state on the first line
whose number ends in it, with two digits the comma, and with three digits the last one of them. A line that the
response does not hold says no. -/
def ReadsState (cid : Nat) (contexts : List (Nat × Nat)) : Prop :=
  (cid < 10 → ∀ p ∈ contexts.find? (·.1 % 10 = cid),
      if p.1 = cid then p.2 = 1 → stateAt cid contexts < AT_RESPONSE_MAX
      else p.2 = 1 ∧ stateAt p.1 contexts < AT_RESPONSE_MAX ↔ (cid, 1) ∈ contexts) ∧
    (10 ≤ cid → cid < 100 → (cid, 1) ∉ contexts) ∧
    (100 ≤ cid → ∀ p ∈ contexts, p.1 = cid → (p.2 = 1 ↔ cid % 10 = 1 ∧ stateAt cid contexts ≤ AT_RESPONSE_MAX))

theorem PdpContexts.mem_iff {contexts : List (Nat × Nat)} (h : PdpContexts contexts) {p : Nat × Nat}
    (hp : p ∈ contexts) : (p.1, 1) ∈ contexts ↔ p.2 = 1 := by
  constructor
  · intro hm
    exact (congrArg Prod.snd (List.inj_on_of_nodup_map h.distinct hm hp rfl)).symm
  · intro hs
    rwa [← hs]

section Found

variable {contexts : List (Nat × Nat)} {cid : Nat}

theorem found_one_digit (h : PdpContexts contexts) (h10 : cid < 10) :
    (found cid contexts = true ↔ (cid, 1) ∈ contexts) ↔ ∀ p ∈ contexts.find? (·.1 % 10 = cid),
      if p.1 = cid then p.2 = 1 → stateAt cid contexts < AT_RESPONSE_MAX
      else p.2 = 1 ∧ stateAt p.1 contexts < AT_RESPONSE_MAX ↔ (cid, 1) ∈ contexts := by
  have hfirst : firstEnding cid contexts = contexts.find? (·.1 % 10 = cid) := by
    unfold firstEnding
    congr 1
    funext p
    rw [Bool.eq_iff_iff, List.isSuffixOf_iff_suffix, suffix_digit h10, decide_eq_true_iff]
  have hlength : (decimal cid).length = 1 := by rw [decimal_digit h10, List.length_singleton]
  unfold found
  rw [hfirst]
  cases hp : contexts.find? (·.1 % 10 = cid) with
  | none =>
    have hn : (cid, 1) ∉ contexts := by
      intro hm
      have := List.find?_eq_none.mp hp _ hm
      simp [Nat.mod_eq_of_lt h10] at this
    simp [hn]
  | some p =>
    have hm : p ∈ contexts := List.mem_of_find?_eq_some hp
    have hroom (place : Nat) : (place ≤ AT_RESPONSE_MAX ∧ place + 1 < AT_RESPONSE_MAX + 1 ∧ p.2 = 1) ↔
        p.2 = 1 ∧ place < AT_RESPONSE_MAX := by omega
    simp only [Option.any_some, decide_eq_true_iff, third_state h10 (h.state p hm), hlength, hroom, Option.mem_def,
      Option.some.injEq, forall_eq']
    split_ifs with heq
    · rw [← heq, h.mem_iff hm]
      exact and_iff_left_iff_imp
    · rfl

theorem found_two_digits (h10 : 10 ≤ cid) (h100 : cid < 100) : found cid contexts = false := by
  unfold found
  cases firstEnding cid contexts with
  | none => rfl
  | some p => exact decide_eq_false fun h => third_comma h10 h100 _ h.2.2

theorem found_three_digits (h : PdpContexts contexts) (h100 : 100 ≤ cid) (hcid : cid ≤ 255) :
    (found cid contexts = true ↔ (cid, 1) ∈ contexts) ↔ ∀ p ∈ contexts, p.1 = cid →
      (p.2 = 1 ↔ cid % 10 = 1 ∧ stateAt cid contexts ≤ AT_RESPONSE_MAX) := by
  have hfound : found cid contexts = true ↔
      (∃ p ∈ contexts, p.1 = cid) ∧ cid % 10 = 1 ∧ stateAt cid contexts ≤ AT_RESPONSE_MAX := by
    have hsuffix {p : Nat × Nat} (hp : p ∈ contexts) : (decimal cid).isSuffixOf (decimal p.1) = true ↔ p.1 = cid := by
      rw [List.isSuffixOf_iff_suffix, suffix_whole h100 (h.cid p hp).2]
    have hlength : 2 < (decimal cid).length := lt_length_decimal (by decide) h100
    unfold found
    cases hp : firstEnding cid contexts with
    | none =>
      have hn : ¬ ∃ p ∈ contexts, p.1 = cid := by
        rintro ⟨p, hm, heq⟩
        exact List.find?_eq_none.mp hp p hm ((hsuffix hm).mpr heq)
      simp [hn]
    | some p =>
      have hm : p ∈ contexts := List.mem_of_find?_eq_some hp
      have hs : (decimal cid).isSuffixOf (decimal p.1) = true := by simpa using List.find?_some hp
      have heq : p.1 = cid := (hsuffix hm).mp hs
      have hroom : (stateAt cid contexts ≤ AT_RESPONSE_MAX ∧
          stateAt cid contexts + 1 < AT_RESPONSE_MAX + (decimal cid).length ∧ cid % 10 = 1) ↔
            cid % 10 = 1 ∧ stateAt cid contexts ≤ AT_RESPONSE_MAX := by omega
      simp only [Option.any_some, decide_eq_true_iff, third_digit h100 hcid, heq, hroom]
      exact (and_iff_right ⟨p, hm, heq⟩).symm
  rw [hfound]
  constructor
  · rintro hiff p hm rfl
    rw [← h.mem_iff hm, ← hiff]
    exact and_iff_right ⟨p, hm, rfl⟩
  · intro hiff
    constructor
    · rintro ⟨⟨p, hm, rfl⟩, hread⟩
      exact (h.mem_iff hm).mpr ((hiff p hm rfl).mpr hread)
    · intro hm
      exact ⟨⟨_, hm, rfl⟩, (hiff _ hm rfl).mp rfl⟩

theorem found_iff (h : PdpContexts contexts) (hcid : cid ≤ 255) :
    (found cid contexts = true ↔ (cid, 1) ∈ contexts) ↔ ReadsState cid contexts := by
  unfold ReadsState
  rcases Nat.lt_or_ge cid 10 with h10 | h10
  · rw [found_one_digit h h10]
    exact ⟨fun hp => ⟨fun _ => hp, by omega, by omega⟩, fun hp => hp.1 h10⟩
  rcases Nat.lt_or_ge cid 100 with h100 | h100
  · rw [found_two_digits h10 h100]
    constructor
    · intro hiff
      exact ⟨by omega, fun _ _ hm => Bool.false_ne_true (hiff.mpr hm), by omega⟩
    · intro hp
      exact ⟨fun hf => absurd hf Bool.false_ne_true, fun hm => absurd hm (hp.2.1 h10 h100)⟩
  · rw [found_three_digits h h100 hcid]
    exact ⟨fun hp => ⟨by omega, by omega, fun _ => hp⟩, fun hp => hp.2.2 h100⟩

end Found

theorem pdp_state_iff {contexts : List (Nat × Nat)} (h : PdpContexts contexts) {cid : Nat}
    (hcid : 1 ≤ cid ∧ cid ≤ 255) (active : Bool) :
    get_pdp_state (.holding (pdpReport contexts)) cid active = (.ok, decide ((cid, 1) ∈ contexts)) ↔
      ReadsState cid contexts := by
  rw [get_pdp_state_report hcid.2, ← found_iff h hcid.2, Prod.mk.injEq, Bool.eq_iff_iff, decide_eq_true_iff]
  exact and_iff_right rfl

theorem pdp_state_default :
    get_pdp_state (.holding "#SGACT: 1,1\r\n#SGACT: 11,0".toList) 1 false = (.ok, true) := by
  have hcontexts : PdpContexts [(1, 1), (11, 0)] := ⟨by decide, by decide, by decide⟩
  have hreads : ReadsState 1 [(1, 1), (11, 0)] := by
    refine ⟨fun _ p hp => ?_, by omega, by omega⟩
    obtain rfl : p = (1, 1) := (Option.some.inj hp).symm
    exact fun _ => by decide
  exact (pdp_state_iff hcontexts (by decide) false).mpr hreads

/-- The line of context 11 is taken for the one of context 1, and of context 10 the comma is read. -/
theorem pdp_state_misread :
    (PdpContexts [(11, 1), (1, 0)] ∧ (1, 1) ∉ [(11, 1), (1, 0)] ∧
      get_pdp_state (.holding (pdpReport [(11, 1), (1, 0)])) 1 false = (.ok, true)) ∧
    PdpContexts [(10, 1)] ∧ get_pdp_state (.holding (pdpReport [(10, 1)])) 10 false = (.ok, false) :=
  ⟨⟨⟨by decide, by decide, by decide⟩, by decide, by decide⟩, ⟨by decide, by decide, by decide⟩, by decide⟩

/-! ## The access point name of a context -/

/-- A text to stand between quotes: without separators, and without blanks at its ends. -/
structure Quotable (s : Str) : Prop where
  plain : ∀ c ∈ s, c ∉ [',', '"', '\r', '\n']
  head : ∀ c ∈ s.head?, c ∉ [' ', '\t']
  last : ∀ c ∈ s.getLast?, c ∉ [' ', '\t']

instance (s : Str) : Decidable (Quotable s) :=
  decidable_of_iff ((s.all fun c => c ∉ [',', '"', '\r', '\n']) = true ∧
      (s.head?.all fun c => c ∉ [' ', '\t']) = true ∧ (s.getLast?.all fun c => c ∉ [' ', '\t']) = true) <| by
    simp only [List.all_eq_true, Option.all_eq_true, decide_eq_true_eq]
    exact ⟨fun ⟨hp, hh, ht⟩ => ⟨hp, hh, ht⟩, fun h => ⟨h.plain, h.head, h.last⟩⟩

/-- A context as `AT+CGDCONT?` lists it, with any further fields. -/
structure ApnContext where
  cid : Nat
  type : Str
  apn : FixedString MODEM_MEDIUM_STR
  more : Option Str
  cid_le : cid ≤ 255
  quotable : Quotable type ∧ Quotable apn.view
  one_line : ∀ m ∈ more, ¬ crlf <:+: m

namespace ApnContext

/-- `<cid>,"<type>","<apn>"`. -/
def params (c : ApnContext) : Str :=
  decimal c.cid ++ ',' :: (('"' :: c.type ++ ['"']) ++ ',' :: ('"' :: c.apn.view ++ ['"']))

def line (c : ApnContext) : Str := "+CGDCONT: ".toList ++ (c.params ++ (c.more.map (',' :: ·)).getD [])

end ApnContext

def apnReport (contexts : List ApnContext) : Str := joinLines (contexts.map ApnContext.line)

/-- The context takes the place of the one with its number, or comes last. -/
def store (c : ApnContext) : List ApnContext → List ApnContext
  | [] => [c]
  | d :: ds => if d.cid = c.cid then c :: ds else d :: store c ds

/-! ### One line -/

namespace Quotable

variable {s : Str}

theorem no_comma (h : Quotable s) : ',' ∉ '"' :: s ++ ['"'] := by
  have hs : ',' ∉ s := fun hc => h.plain _ hc (by simp)
  simpa using hs

theorem no_line_feed (h : Quotable s) : '\n' ∉ '"' :: s ++ ['"'] := by
  have hs : '\n' ∉ s := fun hc => h.plain _ hc (by simp)
  simpa using hs

theorem stripped (h : Quotable s) : strip blanksQuotes ('"' :: s ++ ['"']) = s := by
  have hq : ∀ c ∈ ['"'], c ∈ blanksQuotes := by simp [blanksQuotes]
  have hinner : ∀ c ∈ s, c ∉ [' ', '\t'] → c ∉ blanksQuotes := by
    intro c hc hb hm
    have hne : c ≠ '"' := by
      rintro rfl
      exact h.plain _ hc (by simp)
    simp only [blanksQuotes, List.mem_cons, List.not_mem_nil, or_false] at hm hb
    exact hb (hm.imp_right fun hm => hm.resolve_right hne)
  exact strip_padded (a := ['"']) hq hq (fun c hc => hinner c (List.mem_of_mem_head? hc) (h.head c hc))
    fun c hc => hinner c (List.mem_of_getLast? hc) (h.last c hc)

end Quotable

theorem not_crlf_comma {a b : Str} (ha : ¬ crlf <:+: a) (hb : ¬ crlf <:+: b) : ¬ crlf <:+: a ++ ',' :: b := by
  have hskip := find_skip (c := ',') (by decide : crlf ≠ []) (by decide) ha b
  rw [find_eq_none_iff.mpr hb, Option.map_none] at hskip
  exact find_eq_none_iff.mp hskip

namespace ApnContext

variable (c : ApnContext)

theorem line_eq : c.line = "+CGDCONT: ".toList ++ (c.params ++ (c.more.map (',' :: ·)).getD []) := rfl

theorem lines_line : lines c.line = [c.line] := by
  have hp : ¬ crlf <:+: "+CGDCONT: ".toList ++ c.params := by
    apply not_infix_crlf
    have hd : '\n' ∉ decimal c.cid := not_mem_decimal rfl
    have h1 := c.quotable.1.no_line_feed
    have h2 := c.quotable.2.no_line_feed
    simp only [params, List.mem_append (s := "+CGDCONT: ".toList), List.mem_append (s := decimal c.cid),
      List.mem_append (t := ',' :: ('"' :: c.apn.view ++ ['"'])), List.mem_cons (b := ','), not_or]
    exact ⟨by decide, hd, by decide, h1, by decide, h2⟩
  rw [lines_eq_singleton_iff, line_eq, ← List.append_assoc]
  cases hm : c.more with
  | none => simpa using hp
  | some m => exact not_crlf_comma hp (c.one_line m hm)

theorem fields_line : fields 3 (c.line.drop 9) =
    [' ' :: decimal c.cid, '"' :: c.type ++ ['"'], '"' :: c.apn.view ++ ['"']] := by
  have hd : c.line.drop 9 = (' ' :: decimal c.cid) ++ ',' :: (('"' :: c.type ++ ['"']) ++
      ',' :: (('"' :: c.apn.view ++ ['"']) ++ (c.more.map (',' :: ·)).getD [])) := by
    rw [line_eq, params, List.append_assoc, List.cons_append, List.append_assoc, List.cons_append]
    rfl
  have hcid : ',' ∉ ' ' :: decimal c.cid := comma_decimal 1 c.cid
  rw [hd, fields_comma 2 hcid, fields_comma 1 c.quotable.1.no_comma]
  cases c.more with
  | none =>
    rw [Option.map_none, Option.getD_none, List.append_nil, fields_last 0 (by simp) c.quotable.2.no_comma]
  | some m =>
    rw [Option.map_some, Option.getD_some, fields_comma 0 c.quotable.2.no_comma]
    rfl

theorem apnOfLine_line (cid : Nat) : apnOfLine cid c.line = if c.cid = cid then some c.apn.view else none := by
  have hle := c.cid_le
  have hlabel : find "+CGDCONT:".toList "+CGDCONT:".toList = some 0 := by decide
  have hfind : find "+CGDCONT:".toList c.line = some 0 := find_append_left hlabel _
  have hl : (decimal c.cid).length ≤ 3 := length_decimal_le (by decide) (by omega)
  have hstrip : strip blanksQuotes (' ' :: decimal c.cid) = decimal c.cid := strip_decimal 1 c.cid
  have hcid : toUInt8 (atoi (cstr ((decimal c.cid).take 7))) = c.cid := by
    rw [List.take_of_length_le (by omega), cstr_decimal, atoi_decimal (by omega), toUInt8]
    omega
  unfold apnOfLine
  rw [hfind]
  simp only [Nat.zero_add, fields_line, List.map_cons, List.map_nil, hstrip, c.quotable.1.stripped,
    c.quotable.2.stripped, List.getD_cons_zero, hcid]
  rfl

end ApnContext

/-! ### The lookup -/

section Lookup

variable {contexts : List ApnContext}

theorem lines_apnReport (h : contexts ≠ []) : lines (apnReport contexts) = contexts.map ApnContext.line := by
  refine lines_joinLines _ (by simpa using h) fun l hl => ?_
  obtain ⟨c, -, rfl⟩ := List.mem_map.mp hl
  exact c.lines_line

theorem findSome_apnReport (cid : Nat) (contexts : List ApnContext) :
    (lines (apnReport contexts)).findSome? (apnOfLine cid) = (contexts.find? (·.cid = cid)).map (·.apn.view) := by
  rcases contexts.eq_nil_or_concat with rfl | h
  · rfl
  · rw [lines_apnReport (by rcases h with ⟨l, c, rfl⟩; simp)]
    clear h
    induction contexts with
    | nil => rfl
    | cons c contexts ih =>
      rw [List.map_cons, List.findSome?_cons, c.apnOfLine_line, ih, List.find?_cons]
      by_cases hc : c.cid = cid <;> simp [hc]

theorem get_apn_of_find {cid : Nat} {c : ApnContext} (h : contexts.find? (·.cid = cid) = some c)
    (apn : FixedString MODEM_MEDIUM_STR) : get_apn ⟨.ok, apnReport contexts⟩ cid apn = (.ok, c.apn) := by
  unfold get_apn
  rw [if_neg (by simp), findSome_apnReport, h]
  refine Prod.ext rfl (FixedString.ext ?_)
  exact List.take_of_length_le c.apn.fits

theorem get_apn_listed (h : (contexts.map (·.cid)).Nodup) {c : ApnContext} (hc : c ∈ contexts)
    (apn : FixedString MODEM_MEDIUM_STR) : get_apn ⟨.ok, apnReport contexts⟩ c.cid apn = (.ok, c.apn) := by
  apply get_apn_of_find
  cases hf : contexts.find? (·.cid = c.cid) with
  | none => exact absurd (List.find?_eq_none.mp hf c hc) (by simp)
  | some d =>
    have hd : d.cid = c.cid := by simpa using List.find?_some hf
    rw [List.inj_on_of_nodup_map h (List.mem_of_find?_eq_some hf) hc hd]

theorem get_apn_not_listed {cid : Nat} (h : ∀ c ∈ contexts, c.cid ≠ cid) (apn : FixedString MODEM_MEDIUM_STR) :
    get_apn ⟨.ok, apnReport contexts⟩ cid apn = (.at_error, apn) := by
  have hf : contexts.find? (·.cid = cid) = none := List.find?_eq_none.mpr fun c hc => by simpa using h c hc
  unfold get_apn
  rw [if_neg (by simp), findSome_apnReport, hf]
  rfl

theorem find_store (c : ApnContext) (contexts : List ApnContext) :
    (store c contexts).find? (·.cid = c.cid) = some c := by
  induction contexts with
  | nil => simp [store]
  | cons d contexts ih =>
    unfold store
    split_ifs with hd
    · simp
    · rw [List.find?_cons, ih]
      simp [hd]

theorem set_apn_params (c : ApnContext) (htype : c.type = "IP".toList) :
    (WholeCommands.Call.set_apn c.cid c.apn.view).text.take AT_CMD_MAX = "AT+CGDCONT=".toList ++ c.params ↔
      '\x00' ∉ c.apn.view := by
  have hle := c.cid_le
  have hl : (decimal c.cid).length ≤ 3 := length_decimal_le (by decide) (by omega)
  have hfits : c.apn.view.length ≤ 64 := c.apn.fits
  have hmeant : (WholeCommands.Call.set_apn c.cid c.apn.view).intended = "AT+CGDCONT=".toList ++ c.params := by
    change "AT+CGDCONT=".toList ++ decimal c.cid ++ ",\"IP\",\"".toList ++ c.apn.view ++ ['"'] = _
    rw [ApnContext.params, htype, List.append_assoc, List.append_assoc, List.append_assoc]
    rfl
  have hlen : (WholeCommands.Call.set_apn c.cid c.apn.view).intended.length < 128 := by
    have hlabel : "AT+CGDCONT=".toList.length = 11 := by decide
    have htext : "IP".toList.length = 2 := by decide
    rw [hmeant, ApnContext.params, htype]
    simp only [List.length_append, List.length_cons, List.length_nil, hlabel, htext]
    omega
  rw [← hmeant, WholeCommands.text_eq_iff]
  exact and_iff_left hlen

/-- In a report that fits every context is found with its name, also an empty one, and no other. What `set_apn` sends is
the context if there is no NUL in the name, and where it is stored `get_apn` returns the name. -/
theorem apn_lookup (h : (contexts.map (·.cid)).Nodup) (apn : FixedString MODEM_MEDIUM_STR) :
    ((apnReport contexts).length ≤ AT_RESPONSE_MAX →
      (∀ c ∈ contexts, get_apn (.holding (apnReport contexts)) c.cid apn = (.ok, c.apn)) ∧
        ∀ cid, (∀ c ∈ contexts, c.cid ≠ cid) →
          get_apn (.holding (apnReport contexts)) cid apn = (.at_error, apn)) ∧
      ∀ c : ApnContext, c.type = "IP".toList →
        ((WholeCommands.Call.set_apn c.cid c.apn.view).text.take AT_CMD_MAX = "AT+CGDCONT=".toList ++ c.params ↔
          '\x00' ∉ c.apn.view) ∧
        ((apnReport (store c contexts)).length ≤ AT_RESPONSE_MAX →
          get_apn (.holding (apnReport (store c contexts))) c.cid apn = (.ok, c.apn)) := by
  refine ⟨fun hfits => ?_, fun c htype => ⟨set_apn_params c htype, fun hfits => ?_⟩⟩
  · rw [Answer.holding_eq hfits]
    exact ⟨fun _ hc => get_apn_listed h hc apn, fun _ hn => get_apn_not_listed hn apn⟩
  · rw [Answer.holding_eq hfits]
    exact get_apn_of_find (find_store c contexts) apn

end Lookup

def internet : FixedString MODEM_MEDIUM_STR := .ofView _ "internet".toList

theorem ip_quotable : Quotable "IP".toList := by decide
theorem internet_quotable : Quotable internet.view := by decide
theorem unnamed_quotable : Quotable (FixedString.empty MODEM_MEDIUM_STR).view := by decide

/-- The context of the default configuration, and one without a name. -/
def context1 : ApnContext :=
  ⟨1, "IP".toList, internet, none, by decide, ⟨ip_quotable, internet_quotable⟩, by simp⟩

def context2 : ApnContext :=
  ⟨2, "IP".toList, .empty _, none, by decide, ⟨ip_quotable, unnamed_quotable⟩, by simp⟩

theorem apn_lookup_unnamed :
    get_apn (.holding "+CGDCONT: 1,\"IP\",\"internet\"\r\n+CGDCONT: 2,\"IP\",\"\"".toList) 2 internet =
        (.ok, .empty _) ∧
      get_apn (.holding (apnReport [context1, context2])) 3 internet = (.at_error, internet) ∧
      get_apn (.holding (apnReport (store context1 [context2]))) 1 (.empty _) = (.ok, internet) := by
  have hdistinct : ([context1, context2].map (·.cid)).Nodup := by decide
  have hunnamed : ([context2].map (·.cid)).Nodup := by decide
  have hmissing : ∀ c ∈ [context1, context2], c.cid ≠ 3 := by simp [context1, context2]
  have hlisted := (apn_lookup hdistinct internet).1 (by decide)
  exact ⟨hlisted.1 context2 (by simp), hlisted.2 3 hmissing,
    ((apn_lookup hunnamed (.empty _)).2 context1 rfl).2 (by decide)⟩

/-- A context with a name of 60 characters. -/
def longContext (i : Fin 30) : ApnContext :=
  ⟨i + 1, "IP".toList, .ofView _ (List.replicate 60 'x'), none, by omega, ⟨ip_quotable, by decide⟩, by simp⟩

/-- Of 30 such contexts the last ones do not fit, and a name with a NUL is cut off in the command. -/
theorem apn_lookup_cut :
    (((List.finRange 30).map longContext).map (·.cid)).Nodup ∧
      get_apn (.holding (apnReport ((List.finRange 30).map longContext))) 30 internet = (.at_error, internet) ∧
      (WholeCommands.Call.set_apn 1 ['a', '\x00', 'b']).text = "AT+CGDCONT=1,\"IP\",\"a\"".toList :=
  ⟨by decide, by decide +kernel, by decide +kernel⟩

end LteModem.Replies
