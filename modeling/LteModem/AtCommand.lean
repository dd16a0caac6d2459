import LteModem.FixedString

/-! # AT commands and their answers (`modem/at_command.h`, `at_command.cpp`) -/

open Strings

namespace LteModem

def AT_CMD_MAX : Nat := 256
def AT_RESPONSE_MAX : Nat := 2048

inductive AtStatus where
  | ok | error | timeout | busy
deriving DecidableEq, Repr

/-- A fresh response has the status `error`, as the source initialises it. -/
structure AtResponse where
  status : AtStatus := .error
  body : FixedString AT_RESPONSE_MAX := .empty _
deriving DecidableEq

/-- What a complete line says about the command, if it is a final result line. -/
def finalResult (line : Str) : Option AtStatus :=
  if line = "OK".toList then some .ok
  else if line = "ERROR".toList ∨ line.take 11 = "+CME ERROR:".toList ∨
      line.take 11 = "+CMS ERROR:".toList then some .error
  else if line = "BUSY".toList then some .busy
  else none

/-- One turn of the line loop in `parse_response`. -/
def parseLine (response : AtResponse) (line : Str) : AtResponse :=
  if line = [] then response
  else match finalResult line with
    | some status => { response with status }
    | none =>
      let body := if response.body.view = [] then response.body else response.body.append crlf
      { response with body := body.append line }

def parse_response (raw : Str) : AtResponse :=
  if raw = [] then { status := .timeout } else (lines raw).foldl parseLine {}

example : parse_response "\r\n+CSQ: 9,9\r\n\r\nOK\r\n".toList =
    { status := .ok, body := .ofView _ "+CSQ: 9,9".toList } := by decide

/-! ## The lines of an answer -/

def isBodyLine (line : Str) : Bool := line ≠ [] ∧ finalResult line = none

def bodyLines (raw : Str) : List Str := (lines raw).filter isBodyLine

def finalResults (raw : Str) : List AtStatus := (lines raw).filterMap finalResult

theorem finalResult_nil : finalResult [] = none := by decide

theorem parseLine_status (r : AtResponse) (line : Str) :
    (parseLine r line).status = (finalResult line).getD r.status := by
  by_cases hne : line = []
  · subst hne; rfl
  · rw [parseLine, if_neg hne]
    cases finalResult line <;> rfl

theorem foldl_status (ls : List Str) (r : AtResponse) :
    (ls.foldl parseLine r).status = (ls.filterMap finalResult).getLast?.getD r.status := by
  induction ls using List.reverseRecOn with
  | nil => rfl
  | append_singleton ls l ih =>
    rw [List.foldl_append, List.foldl_cons, List.foldl_nil, parseLine_status, ih,
      List.filterMap_append]
    cases h : finalResult l <;> simp [h]

theorem parse_response_status (raw : Str) (h : raw ≠ []) :
    (parse_response raw).status = (finalResults raw).getLast?.getD .error := by
  rw [parse_response, if_neg h, foldl_status]
  rfl

theorem parse_response_settles (raw : Str) (h : raw ≠ []) :
    (parse_response raw).status = .ok ∨ (parse_response raw).status = .error ∨
      (parse_response raw).status = .busy := by
  rw [parse_response_status raw h]
  rcases hl : (finalResults raw).getLast? with _ | status
  · simp
  · obtain ⟨l, -, hf⟩ := List.mem_filterMap.mp (List.mem_of_getLast? hl)
    have hs : status ≠ .timeout := by
      rintro rfl
      revert hf
      unfold finalResult
      split_ifs <;> simp
    cases status <;> simp_all

theorem parseLine_body (r : AtResponse) (line : Str) :
    (parseLine r line).body.view =
      if isBodyLine line then
        ((if r.body.view = [] then [] else r.body.view ++ crlf) ++ line).take AT_RESPONSE_MAX
      else r.body.view := by
  unfold parseLine isBodyLine
  by_cases hne : line = []
  · simp [hne]
  · rw [if_neg hne]
    rcases hf : finalResult line with _ | status
    · by_cases hb : r.body.view = []
      · simp [hne, hb, FixedString.append_view]
      · simp only [hb, if_false, FixedString.append_view, take_append_take]
        simp [hne]
    · simp

theorem foldl_body (ls : List Str) :
    (ls.foldl parseLine {}).body.view = (joinLines (ls.filter isBodyLine)).take AT_RESPONSE_MAX := by
  induction ls using List.reverseRecOn with
  | nil => rfl
  | append_singleton ls l ih =>
    rw [List.foldl_append, List.foldl_cons, List.foldl_nil, List.filter_append, parseLine_body, ih]
    by_cases hl : isBodyLine l
    · have hd : ∀ m ∈ ls.filter isBodyLine, m ≠ [] := by
        intro m hm
        have hb := List.of_mem_filter hm
        simp only [isBodyLine, decide_eq_true_eq] at hb
        exact hb.1
      have he := joinLines_eq_nil _ hd
      rw [if_pos hl, List.filter_cons_of_pos hl, List.filter_nil]
      by_cases hn : ls.filter isBodyLine = []
      · simp [hn, joinLines]
      · have hne : (joinLines (ls.filter isBodyLine)).take AT_RESPONSE_MAX ≠ [] := by
          rw [Ne, List.take_eq_nil_iff, he]
          simp [hn, AT_RESPONSE_MAX]
        rw [if_neg hne, joinLines_concat _ _ hn, List.append_assoc, take_append_take,
          List.append_assoc]
    · rw [if_neg hl, List.filter_cons_of_neg hl, List.filter_nil, List.append_nil]

theorem parse_response_body (raw : Str) (h : raw ≠ []) :
    (parse_response raw).body.view = (joinLines (bodyLines raw)).take AT_RESPONSE_MAX := by
  rw [parse_response, if_neg h, foldl_body]
  rfl

/-! ## The specification of `parse_response` -/

/-- The lines of a text: no line break is in them, and one is between each two. -/
structure SplitsInto (ls : List Str) (s : Str) : Prop where
  nonempty : ls ≠ []
  joined : joinLines ls = s
  whole : ∀ l ∈ ls, ¬ crlf <:+: l

theorem splitsInto_iff {ls : List Str} {s : Str} : SplitsInto ls s ↔ ls = lines s := by
  constructor
  · rintro ⟨hne, rfl, hw⟩
    exact (lines_joinLines ls hne fun l hl => lines_eq_singleton_iff.mpr (hw l hl)).symm
  · rintro rfl
    exact ⟨lines_ne_nil s, joinLines_lines s, fun l hl => lines_eq_singleton_iff.mp (lines_of_mem s l hl)⟩

def IsFinal (line : Str) : Prop :=
  line = "OK".toList ∨ line = "ERROR".toList ∨ line = "BUSY".toList ∨
    "+CME ERROR:".toList <+: line ∨ "+CMS ERROR:".toList <+: line

instance : DecidablePred IsFinal := fun _ => inferInstanceAs (Decidable (_ ∨ _ ∨ _ ∨ _ ∨ _))

/-- What a final result line says. -/
def finalStatus (line : Str) : AtStatus :=
  if line = "OK".toList then .ok else if line = "BUSY".toList then .busy else .error

theorem finalResult_eq (line : Str) : finalResult line = if IsFinal line then some (finalStatus line) else none := by
  have hcme : line.take 11 = "+CME ERROR:".toList ↔ "+CME ERROR:".toList <+: line := by
    rw [List.prefix_iff_eq_take, eq_comm]
    rfl
  have hcms : line.take 11 = "+CMS ERROR:".toList ↔ "+CMS ERROR:".toList <+: line := by
    rw [List.prefix_iff_eq_take, eq_comm]
    rfl
  by_cases hb : line = "BUSY".toList
  · subst hb
    decide
  · have hf : IsFinal line ↔ line = "OK".toList ∨ line = "ERROR".toList ∨
        "+CME ERROR:".toList <+: line ∨ "+CMS ERROR:".toList <+: line := by
      simp only [IsFinal, hb, false_or]
    simp only [finalResult, finalStatus, hcme, hcms, hb, hf, if_false]
    by_cases ho : line = "OK".toList
    · simp only [ho, if_true, true_or]
    · simp only [ho, if_false, false_or]

/-- The lines that are no final results, with a line break between each two. -/
def bodyText (ls : List Str) : Str := joinLines (ls.filter fun line => line ≠ [] ∧ ¬ IsFinal line)

theorem isBodyLine_eq (line : Str) : isBodyLine line = decide (line ≠ [] ∧ ¬ IsFinal line) := by
  unfold isBodyLine
  rw [finalResult_eq]
  by_cases hf : IsFinal line <;> simp [hf]

theorem bodyText_lines (raw : Str) : bodyText (lines raw) = joinLines (bodyLines raw) := by
  unfold bodyText bodyLines
  congr 2
  funext line
  exact (isBodyLine_eq line).symm

theorem getLast?_finalResults (raw : Str) :
    (finalResults raw).getLast? = ((lines raw).filter fun line => IsFinal line).getLast?.map finalStatus := by
  have h : finalResults raw = ((lines raw).filter fun line => IsFinal line).map finalStatus := by
    unfold finalResults
    rw [← List.filterMap_eq_map, List.filterMap_filter]
    congr 1
    funext line
    rw [finalResult_eq]
    by_cases hf : IsFinal line <;> simp [hf]
  rw [h, List.getLast?_map]

theorem parse_response_again {raw : Str} (hne : joinLines (bodyLines raw) ≠ []) :
    bodyLines (joinLines (bodyLines raw)) = bodyLines raw := by
  have hkept : bodyLines raw ≠ [] := by
    intro h
    rw [h] at hne
    exact hne rfl
  have hl : lines (joinLines (bodyLines raw)) = bodyLines raw :=
    lines_joinLines _ hkept fun l hl => lines_of_mem raw l (List.mem_of_mem_filter hl)
  unfold bodyLines at hl ⊢
  rw [hl, List.filter_filter]
  simp

/-- The body is made of the other lines, the last final result gives the status, and a body that was not cut
is its own body. -/
theorem parse_response_meets_lines (raw : Str) (h : raw ≠ []) :
    (∃ ls, SplitsInto ls raw) ∧ ∀ ls, SplitsInto ls raw →
      let r := parse_response raw
      r.body.view = (bodyText ls).take AT_RESPONSE_MAX ∧
        (∀ line, (ls.filter fun line => IsFinal line).getLast? = some line → r.status = finalStatus line) ∧
        (bodyText ls ≠ [] → (bodyText ls).length ≤ AT_RESPONSE_MAX → (parse_response r.body.view).body = r.body) := by
  refine ⟨⟨lines raw, splitsInto_iff.mpr rfl⟩, fun ls hs => ?_⟩
  obtain rfl := splitsInto_iff.mp hs
  rw [bodyText_lines]
  have hbody := parse_response_body raw h
  refine ⟨hbody, fun line hl => ?_, fun hne hlen => ?_⟩
  · rw [parse_response_status raw h, getLast?_finalResults, hl]
    rfl
  · rw [List.take_of_length_le hlen] at hbody
    apply FixedString.ext
    rw [hbody, parse_response_body _ hne, parse_response_again hne, List.take_of_length_le hlen]

theorem parse_response_meets_lines_late_error :
    let r := parse_response "+CSQ: 9,9\r\n\r\nOK\r\n#MONI\r\nERROR".toList
    r.body.view = "+CSQ: 9,9\r\n#MONI".toList ∧ r.status = .error ∧ (parse_response r.body.view).body = r.body := by
  obtain ⟨-, h⟩ := parse_response_meets_lines "+CSQ: 9,9\r\n\r\nOK\r\n#MONI\r\nERROR".toList (by decide)
  obtain ⟨hbody, hstatus, hagain⟩ := h _ (splitsInto_iff.mpr rfl)
  exact ⟨hbody.trans (by decide), hstatus "ERROR".toList (by decide), hagain (by decide) (by decide)⟩

end LteModem
