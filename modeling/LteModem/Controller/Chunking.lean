import LteModem.ModemController

/-!
# An answer that arrives in pieces

`send_command` parses what it has after every read, and a fresh `AtResponse` has the status `error`.
So the first chunk decides the result, whatever the later ones hold.
-/

open Strings

namespace LteModem.Chunking

open ModemController

/-- Lines without a final result, one final result line, a line break. -/
def Answer (S : Str) : Prop :=
  ∃ ls F, lines S = ls ++ [F, []] ∧ (finalResult F).isSome ∧ ∀ l ∈ ls, finalResult l = none

structure Splits (chunks : List Str) (S : Str) : Prop where
  all : chunks.flatten = S
  each : ∀ c ∈ chunks, c ≠ [] ∧ c.length ≤ READ_MAX

/-- Every read succeeds before the deadline and returns the next chunk. -/
def Delivers {σ : Type} (u : Uart σ) (total : Nat) : σ → List Str → Prop
  | _, [] => True
  | s, c :: rest =>
    ∃ t, (u.elapsed_ms s).1 < total ∧
      u.read READ_MAX (total - (u.elapsed_ms s).1) (u.elapsed_ms s).2 = ((.ok, c), t) ∧
      Delivers u total t rest

/-- The port is free and open, takes `cmd` and answers with `chunks`. -/
structure Exchange {σ : Type} (u : Uart σ) (cmd : AtCommand) (s : σ) (chunks : List Str) : Prop where
  locked : (u.lock s).1 = true
  opened : u.is_open (u.lock s).2 = true
  written : (u.write (cmd.command_.view ++ crlf) (u.lock s).2).1 = .ok
  answered : Delivers u cmd.timeout_ms
    (u.restart_timer cmd.timeout_ms (u.write (cmd.command_.view ++ crlf) (u.lock s).2).2) chunks

def toModemStatus (status : AtStatus) : ModemStatus := if status = .ok then .ok else .at_error

/-- The exchange returned the status and the body of `parse_response S`. -/
def Returned (S : Str) (out : Option (ModemStatus × AtResponse)) : Prop :=
  ∃ response, out = some (toModemStatus (parse_response S).status, response) ∧
    response.body = (parse_response S).body

/-- The first chunk has every body line of `S`, none of them torn, and an `OK` that ends `S`. -/
def FirstEnough (S : Str) : List Str → Prop
  | [] => False
  | c :: _ =>
    if finalResults S = [.ok] then c = S ∨ c ++ crlf = S else bodyLines c = bodyLines S

/-! ## One chunk -/

theorem readAnswer_first {σ : Type} (u : Uart σ) (total fuel : Nat) (response : AtResponse)
    (c : Str) (rest : List Str) (m : ModemController σ) (hc : c ≠ []) (hlen : c.length ≤ READ_MAX)
    (hd : Delivers u total m.uart_ (c :: rest)) :
    (readAnswer u total (fuel + 1) (.empty _) response m).1 =
      some (toModemStatus (parse_response c).status, parse_response c) := by
  obtain ⟨t, ht, hr, -⟩ := hd
  have hv : ((FixedString.empty AT_RESPONSE_MAX).append c).view = c :=
    FixedString.empty_append_view c (hlen.trans (by decide))
  unfold readAnswer
  simp only [Prog.bind_run, onUart]
  rw [if_neg (by omega)]
  simp only [Prog.bind_run, onUart, hr]
  simp only [hc, hv, if_false, reduceCtorEq, not_true_eq_false, ne_eq]
  rw [if_pos (parse_response_settles c hc)]
  rfl

theorem send_command_first {σ : Type} (u : Uart σ) (cmd : AtCommand) (response : AtResponse)
    (m : ModemController σ) (c : Str) (rest : List Str) (fuel : Nat) (hc : c ≠ [])
    (hlen : c.length ≤ READ_MAX) (hx : Exchange u cmd m.uart_ (c :: rest)) :
    (send_command u (fuel + 1) cmd response m).1 =
      some (toModemStatus (parse_response c).status, parse_response c) := by
  unfold send_command
  simp only [Prog.bind_run, onUart, hx.locked, Prog.gets_run, Bool.true_eq_false, if_false, hx.opened,
    hx.written, ne_eq, not_true_eq_false]
  exact readAnswer_first u cmd.timeout_ms fuel response c rest _ hc hlen hx.answered

/-! ## Where the first chunk may end -/

theorem finalResult_ok (line : Str) (h : finalResult line = some .ok) : line = "OK".toList := by
  revert h
  unfold finalResult
  split_ifs with h1 <;> simp [h1]

theorem finalResults_answer (S : Str) (hS : Answer S) : ∃ st, finalResults S = [st] := by
  obtain ⟨ls, F, hl, hF, hn⟩ := hS
  obtain ⟨st, hst⟩ := Option.isSome_iff_exists.mp hF
  refine ⟨st, ?_⟩
  rw [finalResults, hl, List.filterMap_append, List.filterMap_eq_nil_iff.mpr hn]
  simp [hst, finalResult_nil]

theorem bodyLines_wf (S : Str) : ∀ l ∈ bodyLines S, l ≠ [] ∧ lines l = [l] := by
  intro l hl
  obtain ⟨hm, hb⟩ := List.mem_filter.mp hl
  simp only [isBodyLine, decide_eq_true_eq] at hb
  exact ⟨hb.1, lines_of_mem S l hm⟩

theorem body_eq_iff (c S : Str) (hc : c ≠ []) (hS : S ≠ []) (hcl : c.length ≤ AT_RESPONSE_MAX)
    (hSl : S.length ≤ AT_RESPONSE_MAX) :
    (parse_response c).body = (parse_response S).body ↔ bodyLines c = bodyLines S := by
  have short : ∀ r : Str, r.length ≤ AT_RESPONSE_MAX →
      (joinLines (bodyLines r)).length ≤ AT_RESPONSE_MAX := by
    intro r hr
    have := length_joinLines_le (List.filter_sublist (p := isBodyLine) (l := lines r))
    rw [joinLines_lines] at this
    exact this.trans hr
  rw [FixedString.ext_iff, parse_response_body c hc, parse_response_body S hS,
    List.take_of_length_le (short c hcl), List.take_of_length_le (short S hSl)]
  constructor
  · exact joinLines_inj _ _ (bodyLines_wf c) (bodyLines_wf S)
  · intro h
    rw [h]

theorem ok_whole (p F : Str) (hF : (finalResult F).isSome) (hp : p = "OK".toList)
    (h : p <+: F ∨ p = F ++ ['\r']) : p = F := by
  subst hp
  rcases h with ⟨r, hr⟩ | h
  · rw [← hr] at hF
    rcases r with _ | ⟨x, r⟩
    · simpa using hr
    · simp [finalResult] at hF
  · exact absurd (congrArg List.getLast? h) (by simp)

theorem all_but_break (S c : Str) (h : lines S = lines c ++ [[]]) : c ++ crlf = S := by
  have he := lines_append_crlf c []
  rw [List.append_nil] at he
  rw [← joinLines_lines S, h, ← joinLines_lines (c ++ crlf), he]
  rfl

theorem ok_reached (S c t : Str) (hS : Answer S) (ht : c ++ t = S) (hok : "OK".toList ∈ lines c)
    (hb : bodyLines c = bodyLines S) : c = S ∨ c ++ crlf = S := by
  obtain ⟨ls, F, hl, hF, hn⟩ := hS
  obtain ⟨a, p, q, b, h1, h2, h3⟩ := lines_beginning c t
  rw [ht, hl] at h2
  have hno : "OK".toList ∉ ls := fun h => by
    have := hn _ h
    revert this
    decide
  rw [h1, List.mem_append, List.mem_singleton] at hok
  rcases List.append_eq_append_iff.mp h2 with ⟨_ | ⟨x, _ | ⟨y, d⟩⟩, ha, hd⟩ | ⟨d, ha, hd⟩
  · -- The chunk breaks in the final line.
    simp only [List.append_nil, List.nil_append, List.cons.injEq] at ha hd
    obtain ⟨rfl, rfl⟩ := hd
    right
    have hp : p = F := ok_whole p F hF (hok.resolve_left (ha ▸ hno)).symm h3
    exact all_but_break S c (by rw [hl, h1, ha, hp]; simp)
  · -- The chunk ends after the line break of the final line.
    simp only [List.cons_append, List.nil_append, List.cons.injEq] at hd
    obtain ⟨rfl, rfl, rfl⟩ := hd
    left
    rcases h3 with h3 | rfl
    · have hp : p = [] := List.prefix_nil.mp h3
      rw [← joinLines_lines S, hl, ← joinLines_lines c, h1, ha, hp]
      simp
    · have hlen := congrArg List.length (joinLines_lines c)
      have hlen' := congrArg List.length (joinLines_lines S)
      rw [h1, ha, length_joinLines] at hlen
      rw [hl, length_joinLines, ← ht] at hlen'
      simp at hlen hlen'
      omega
  · have := congrArg List.length hd
    simp at this
  · -- The chunk breaks at or before the last line without a result.
    have hp : p = "OK".toList := (hok.resolve_left fun h => hno (ha ▸ List.mem_append_left d h)).symm
    rcases d with _ | ⟨x, d⟩
    · simp only [List.append_nil, List.nil_append, List.cons.injEq] at ha hd
      obtain ⟨rfl, rfl⟩ := hd
      right
      have hq := ok_whole p q hF hp h3
      exact all_but_break S c (by rw [hl, h1, ha, hq]; simp)
    · simp only [List.cons_append, List.cons.injEq] at hd
      obtain ⟨rfl, rfl⟩ := hd
      have hq : finalResult q = none := hn q (ha ▸ List.mem_append_right a List.mem_cons_self)
      have hqn : q ≠ [] := by
        rintro rfl
        subst hp
        simp at h3
      have hqb : isBodyLine q = true := by simp [isBodyLine, hqn, hq]
      have hpb : isBodyLine p = false := by subst hp; decide
      rw [bodyLines, bodyLines, h1, hl, ha] at hb
      simp [List.filter_cons, hqb, hpb] at hb

theorem mem_ok_of_status (c : Str) (hc : c ≠ []) (h : (parse_response c).status = .ok) :
    "OK".toList ∈ lines c := by
  rw [parse_response_status c hc] at h
  rcases hl : (finalResults c).getLast? with _ | status
  · simp [hl] at h
  · simp only [hl, Option.getD_some] at h
    subst h
    obtain ⟨l, hm, hf⟩ := List.mem_filterMap.mp (List.mem_of_getLast? hl)
    exact finalResult_ok l hf ▸ hm

theorem toModemStatus_eq_iff (s t : AtStatus) :
    toModemStatus s = toModemStatus t ↔ (s = .ok ↔ t = .ok) := by
  unfold toModemStatus
  by_cases hs : s = .ok <;> by_cases ht : t = .ok <;> simp [hs, ht]

theorem append_crlf_lines (c : Str) :
    finalResults (c ++ crlf) = finalResults c ∧ bodyLines (c ++ crlf) = bodyLines c := by
  have he := lines_append_crlf c []
  rw [List.append_nil] at he
  unfold finalResults bodyLines
  rw [he]
  simp [lines, finalResult_nil, isBodyLine]

theorem returned_iff {S c : Str} (hS : S ≠ []) (hc : c ≠ []) (hcl : c.length ≤ AT_RESPONSE_MAX)
    (hlen : S.length ≤ AT_RESPONSE_MAX) :
    Returned S (some (toModemStatus (parse_response c).status, parse_response c)) ↔
      ((parse_response c).status = .ok ↔ (parse_response S).status = .ok) ∧ bodyLines c = bodyLines S := by
  rw [← body_eq_iff c S hc hS hcl hlen, ← toModemStatus_eq_iff]
  unfold Returned
  constructor
  · rintro ⟨r, hr, hb⟩
    simp only [Option.some.injEq, Prod.mk.injEq] at hr
    exact ⟨hr.1, hr.2 ▸ hb⟩
  · rintro ⟨h1, h2⟩
    exact ⟨_, by rw [h1], h2⟩

theorem same_up_to_break {S c : Str} (hS : S ≠ []) (hc : c ≠ []) (h : c = S ∨ c ++ crlf = S) :
    (parse_response c).status = (parse_response S).status ∧ bodyLines c = bodyLines S := by
  rcases h with rfl | rfl
  · exact ⟨rfl, rfl⟩
  · rw [parse_response_status c hc, parse_response_status _ hS, (append_crlf_lines c).1, (append_crlf_lines c).2]
    exact ⟨rfl, rfl⟩

theorem firstEnough_iff (S c t : Str) (hS : Answer S) (hlen : S.length ≤ AT_RESPONSE_MAX)
    (ht : c ++ t = S) (hc : c ≠ []) (rest : List Str) :
    Returned S (some (toModemStatus (parse_response c).status, parse_response c)) ↔
      FirstEnough S (c :: rest) := by
  have hSn : S ≠ [] := fun h => hc (List.append_eq_nil_iff.mp (ht.trans h)).1
  have hcl : c.length ≤ AT_RESPONSE_MAX := by
    have := congrArg List.length ht
    rw [List.length_append] at this
    omega
  obtain ⟨st, hst⟩ := finalResults_answer S hS
  have hstatus : (parse_response S).status = st := by simp [parse_response_status S hSn, hst]
  have hall (h : c = S ∨ c ++ crlf = S) : (parse_response c).status = st ∧ bodyLines c = bodyLines S :=
    hstatus ▸ same_up_to_break hSn hc h
  rw [returned_iff hSn hc hcl hlen, hstatus]
  simp only [FirstEnough, hst, List.cons.injEq, and_true]
  by_cases hok : st = .ok
  · subst hok
    simp only [iff_true, if_true]
    constructor
    · rintro ⟨h1, h2⟩
      exact ok_reached S c t hS ht (mem_ok_of_status c hc h1) h2
    · exact hall
  · rw [if_neg hok]
    constructor
    · exact fun h => h.2
    · intro h
      refine ⟨⟨fun h1 => ?_, fun h1 => absurd h1 hok⟩, h⟩
      -- An `OK` in the chunk would be the final line of the answer.
      have hs := (hall (ok_reached S c t hS ht (mem_ok_of_status c hc h1) h)).1
      exact hs.symm.trans h1

/-! ## Two splittings -/

/-- Two exchanges that deliver the same answer in different pieces both return what `parse_response`
makes of the whole answer exactly when both first chunks are enough. -/
theorem chunking_independent_iff {σ : Type} (u : Uart σ) (cmd : AtCommand) (response : AtResponse)
    (S : Str) (hS : Answer S) (hlen : S.length ≤ AT_RESPONSE_MAX) (chunks chunks' : List Str)
    (h : Splits chunks S) (h' : Splits chunks' S) (m m' : ModemController σ)
    (hx : Exchange u cmd m.uart_ chunks) (hx' : Exchange u cmd m'.uart_ chunks') (fuel : Nat)
    (hf : chunks.length ≤ fuel) (hf' : chunks'.length ≤ fuel) :
    (Returned S (send_command u fuel cmd response m).1 ∧
        Returned S (send_command u fuel cmd response m').1) ↔
      FirstEnough S chunks ∧ FirstEnough S chunks' := by
  have one : ∀ (cs : List Str) (n : ModemController σ), Splits cs S → Exchange u cmd n.uart_ cs →
      cs.length ≤ fuel → (Returned S (send_command u fuel cmd response n).1 ↔ FirstEnough S cs) := by
    intro cs n hs hn hfuel
    rcases cs with _ | ⟨c, rest⟩
    · obtain ⟨ls, F, hl, -⟩ := hS
      rw [← hs.all] at hl
      have := congrArg List.length hl
      simp [lines] at this
    · obtain ⟨hc, hcl⟩ := hs.each c List.mem_cons_self
      obtain ⟨k, rfl⟩ : ∃ k, fuel = k + 1 := ⟨fuel - 1, by simp at hfuel; omega⟩
      rw [send_command_first u cmd response n c rest k hc hcl hn]
      exact firstEnough_iff S c rest.flatten hS hlen (by simpa using hs.all) hc rest
  rw [one chunks m h hx hf, one chunks' m' h' hx' hf']

def okAnswer : Str := "\r\nOK\r\n".toList

def at_ : AtCommand := { command_ := .ofView _ "AT".toList, timeout_ms := 5000 }

theorem okAnswer_answer : Answer okAnswer :=
  ⟨[[]], "OK".toList, by decide, by decide, by decide⟩

/-- The line break in front of `OK` comes first, so the command is reported as failed. -/
theorem chunking_dependent :
    let chunks := ["\r\n".toList, "OK\r\n".toList]
    Answer okAnswer ∧ Splits chunks okAnswer ∧ Exchange scripted at_ chunks chunks ∧
      (send_command scripted 2 at_ {} { uart_ := chunks }).1 = some (.at_error, {}) ∧
      (send_command scripted 2 at_ {} { uart_ := [okAnswer] }).1 = some (.ok, { status := .ok }) ∧
      ¬ Returned okAnswer (send_command scripted 2 at_ {} { uart_ := chunks }).1 := by
  refine ⟨okAnswer_answer, ⟨by decide, by decide⟩, ⟨rfl, rfl, rfl, ?_⟩, by decide, by decide, ?_⟩
  · exact ⟨_, by decide, rfl, _, by decide, rfl, trivial⟩
  · rintro ⟨r, hr, -⟩
    have : (send_command scripted 2 at_ {} { uart_ := ["\r\n".toList, "OK\r\n".toList] }).1 =
        some (.at_error, {}) := by decide
    have hs : toModemStatus (parse_response okAnswer).status = .ok := by decide
    rw [this, hs] at hr
    simp at hr

theorem chunking_independent_ok :
    let chunks := ["\r\nOK".toList, "\r\n".toList]
    Returned okAnswer (send_command scripted 2 at_ {} { uart_ := [okAnswer] }).1 ∧
      Returned okAnswer (send_command scripted 2 at_ {} { uart_ := chunks }).1 :=
  (chunking_independent_iff scripted at_ {} okAnswer okAnswer_answer (by decide) [okAnswer]
    ["\r\nOK".toList, "\r\n".toList] ⟨by decide, by decide⟩ ⟨by decide, by decide⟩
    { uart_ := [okAnswer] } { uart_ := ["\r\nOK".toList, "\r\n".toList] }
    ⟨rfl, rfl, rfl, _, by decide, rfl, trivial⟩
    ⟨rfl, rfl, rfl, _, by decide, rfl, _, by decide, rfl, trivial⟩ 2 (by decide) (by decide)).mpr
    ⟨.inl rfl, .inr rfl⟩

end LteModem.Chunking
