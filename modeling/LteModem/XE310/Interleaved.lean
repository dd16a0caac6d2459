import LteModem.Controller.ExchangePaths
import LteModem.XE310.Datagrams
import LteModem.XE310.Reports

/-!
# A URC in front of an answer

A line that the modem sends on its own in the middle of an exchange becomes the first line of the
answer's body. The query reads its fields, and no poll ever sees it.
-/

open Strings

namespace LteModem.Replies

open Chunking ExchangePaths Trailing

/-- The line and the result code. -/
def alone (line tail : Str) : Str := line ++ crlf ++ "OK".toList ++ tail

/-- The same answer behind the line `u`. -/
def interleaved (u line tail : Str) : Str := u ++ crlf ++ alone line tail

/-- The line ends may be missing after the result code. -/
def Tail (tail : Str) : Prop := tail = [] ∨ tail = crlf

/-- The report is one line. -/
def OneLine (more : Option Str) : Prop := ∀ s, more = some s → '\n' ∉ s

structure UrcLine (u : Str) : Prop where
  known : ∃ p ∈ ["SRING:", "%STATEV:", "+CGEV:"].map String.toList, p <+: u
  line : '\n' ∉ u

/-- With the line in front of it the query returns the same as without, whatever `info` was. And when the
buffer had `b` before, a run of polls that reads the port returns the line. -/
def Undisturbed (u line tail : Str) : Prop :=
  (∀ info, get_registration_status (answerOf (parse_response (alone line tail))) info =
    get_registration_status (answerOf (parse_response (interleaved u line tail))) info) ∧
  ∀ (b : FixedString URC_RX_BUFFER_MAX) {σ : Type} (p : Uart σ) (m : ModemController σ) (timeouts : List Nat),
    m.urc_rx_buffer_ = b.append (ModemController.afterStatus (interleaved u line tail)
      (parse_response (interleaved u line tail)).status) →
    Polled p timeouts m →
    ∃ before after, (polls p timeouts m).1 = some (before ++ [u] ++ after)

/-! ## The answer -/

theorem registrationReport_begins (mode stat : Nat) (more : Option Str) :
    "+CEREG:".toList <+: registrationReport mode stat more := by
  unfold registrationReport
  exact ⟨' ' :: _, rfl⟩

theorem registrationReport_line (mode stat : Nat) {more : Option Str} (h : OneLine more) :
    '\n' ∉ registrationReport mode stat more := by
  have hd (n : Nat) : '\n' ∉ decimal n := not_mem_decimal rfl
  unfold registrationReport
  cases more with
  | none => simp [hd]
  | some s => simp [hd, h s rfl]

theorem interleaved_status (u line : Str) {tail : Str} (ht : Tail tail) :
    (parse_response (interleaved u line tail)).status = .ok := by
  have hne : interleaved u line tail ≠ [] := by simp [interleaved, crlf]
  have hend : finalResults ("OK".toList ++ tail) = [.ok] := by
    rcases ht with rfl | rfl <;> decide
  have he : interleaved u line tail = u ++ crlf ++ (line ++ crlf ++ ("OK".toList ++ tail)) := by
    simp [interleaved, alone]
  unfold finalResults at hend
  rw [parse_response_status _ hne, he, finalResults, lines_append_crlf, lines_append_crlf,
    List.filterMap_append, List.filterMap_append, hend, ← List.append_assoc, List.getLast?_concat]
  rfl

theorem urcLines_alone {line tail : Str} (hl : '\n' ∉ line) (ht : Tail tail) :
    ∀ l ∈ urcLines (alone line tail), l = line := by
  have hend : urcLines ("OK".toList ++ tail) = [] := by
    rcases ht with rfl | rfl <;> decide
  have he : alone line tail = (line ++ ['\r']) ++ '\n' :: ("OK".toList ++ tail) := by simp [alone, crlf]
  have hcr : trimCr (line ++ ['\r']) = line := by simp [trimCr]
  rw [he, urcLines_line (by simp [hl]), hend, hcr]
  intro l hm
  split_ifs at hm
  · simpa using hm
  · simp at hm

theorem afterStatus_interleaved {u line tail : Str} (hu : '\n' ∉ u) (hl : '\n' ∉ line) (ht : Tail tail) :
    ∀ l ∈ urcLines (ModemController.afterStatus (interleaved u line tail) .ok), l = line := by
  have hend : urcLines ("OK".toList ++ tail) = [] := by
    rcases ht with rfl | rfl <;> decide
  have hnone : afterLineOf "OK".toList ("OK".toList ++ tail) = [] := by
    rcases ht with rfl | rfl <;> decide
  have hskip {q : Str} (h : ¬ "OK".toList <:+: q) (s : Str) :
      afterLineOf "OK".toList (q ++ crlf ++ s) = afterLineOf "OK".toList s :=
    afterLineOf_skip (by decide) (by decide) (by decide) h s
  change ∀ l ∈ urcLines (afterLineOf "OK".toList (u ++ crlf ++ alone line tail)), l = line
  by_cases h1 : "OK".toList <:+: u
  · rw [afterLineOf_line (not_infix_crlf hu) h1]
    exact urcLines_alone hl ht
  · have he : alone line tail = line ++ crlf ++ ("OK".toList ++ tail) := by simp [alone]
    rw [hskip h1, he]
    by_cases h2 : "OK".toList <:+: line
    · rw [afterLineOf_line (not_infix_crlf hl) h2, hend]
      simp
    · rw [hskip h2, hnone]
      simp [urcLines, lfLines]

theorem urc_not_report {u line : Str} (hu : UrcLine u) (hl : "+CEREG:".toList <+: line) (n : Nat) :
    u ≠ line.take n := by
  rintro rfl
  obtain ⟨p, hp, hpu⟩ := hu.known
  have hpl : p <+: line := hpu.trans (List.take_prefix n line)
  have hno : ∀ p ∈ ["SRING:", "%STATEV:", "+CGEV:"].map String.toList,
      ¬ p <+: "+CEREG:".toList ∧ ¬ "+CEREG:".toList <+: p := by decide
  rcases List.prefix_or_prefix_of_prefix hpl hl with h | h
  · exact (hno p hp).1 h
  · exact (hno p hp).2 h

/-! ## What the query reads -/

theorem interleaved_body (u line tail : Str) (hu : isBodyLine u = true) (hul : '\n' ∉ u) :
    ∃ more, joinLines (bodyLines (interleaved u line tail)) = u ++ more := by
  have he : interleaved u line tail = u ++ crlf ++ (line ++ crlf ++ ("OK".toList ++ tail)) := by
    simp [interleaved, alone]
  rw [he, bodyLines, lines_append_crlf, lines_line hul, List.singleton_append, List.filter_cons_of_pos hu]
  rcases (lines (line ++ crlf ++ ("OK".toList ++ tail))).filter isBodyLine with _ | ⟨l, ls⟩
  · exact ⟨[], by simp [joinLines]⟩
  · exact ⟨crlf ++ joinLines (l :: ls), by simp [joinLines]⟩

theorem registration_of_urc {head a b c line tail : Str} (hh : ':' ∉ head) (ha : ',' ∉ a) (hb : ',' ∉ b)
    (hu : isBodyLine (head ++ ':' :: (a ++ ',' :: (b ++ ',' :: c))) = true)
    (hul : '\n' ∉ head ++ ':' :: (a ++ ',' :: (b ++ ',' :: c))) (ht : Tail tail)
    (hlen : (head ++ ':' :: (a ++ ',' :: (b ++ ',' :: c))).length ≤ AT_RESPONSE_MAX) (info : RegistrationInfo) :
    let u := head ++ ':' :: (a ++ ',' :: (b ++ ',' :: c))
    let r := get_registration_status (answerOf (parse_response (interleaved u line tail))) info
    r.1 = .ok ∧ r.2.mode = toUInt8 (atoi (trimmed 32 a)) ∧ r.2.stat = .ofInt (atoi (trimmed 32 b)) := by
  intro u r
  obtain ⟨more, hm⟩ := interleaved_body u line tail hu hul
  have hne : interleaved u line tail ≠ [] := by simp [interleaved, crlf]
  have hbody : (parse_response (interleaved u line tail)).body.view =
      head ++ ':' :: (a ++ ',' :: (b ++ ',' :: (c ++ more.take (AT_RESPONSE_MAX - u.length)))) := by
    rw [parse_response_body _ hne, hm, List.take_append, List.take_of_length_le hlen]
    simp [u]
  have hcut : afterColon (head ++ ':' :: (a ++ ',' :: (b ++ ',' ::
      (c ++ more.take (AT_RESPONSE_MAX - u.length))))) =
      some (a ++ ',' :: (b ++ ',' :: (c ++ more.take (AT_RESPONSE_MAX - u.length)))) := by
    rw [afterColon, cut_append hh]
  have hr : r = get_registration_status ⟨.ok, head ++ ':' :: (a ++ ',' :: (b ++ ',' ::
      (c ++ more.take (AT_RESPONSE_MAX - u.length))))⟩ info := by
    rw [← hbody, ← show toModemStatus .ok = .ok from rfl, ← interleaved_status u line ht]
    rfl
  rw [hr]
  unfold get_registration_status
  rw [if_neg (by simp), hcut]
  dsimp only
  rw [fields_comma 7 ha, fields_comma 6 hb]
  simp

/-- The line is not delivered, so no URC in front of an answer leaves the query undisturbed. -/
theorem interleaved_never (mode stat : Nat) (more : Option Str) (hm : OneLine more) (u tail : Str)
    (hu : UrcLine u) (ht : Tail tail) : ¬ Undisturbed u (registrationReport mode stat more) tail := by
  intro h
  have hl := registrationReport_line mode stat hm
  rw [Undisturbed, interleaved_status u _ ht] at h
  let left := ModemController.afterStatus (interleaved u (registrationReport mode stat more) tail) .ok
  let m : ModemController (List Str) := { uart_ := [], urc_rx_buffer_ := (FixedString.empty _).append left }
  obtain ⟨before, after, he⟩ := h.2 (.empty _) ModemController.scripted m [0] rfl
    (.inl (by rw [polled_silent 0 m rfl]; simp))
  rw [polls_silent 0 m rfl, Option.some.injEq] at he
  have hmem : u ∈ firstEight m.urc_rx_buffer_.view := by
    rw [he]
    simp
  have hmem' := List.mem_of_mem_take hmem
  rw [List.mem_map] at hmem'
  obtain ⟨l, hlm, hlu⟩ := hmem'
  have hpre : urcLines (left.take URC_RX_BUFFER_MAX) <+: urcLines left := by
    have hp := urcLines_mono (left.take URC_RX_BUFFER_MAX) (left.drop URC_RX_BUFFER_MAX)
    rwa [List.take_append_drop] at hp
  have hview : m.urc_rx_buffer_.view = left.take URC_RX_BUFFER_MAX := FixedString.append_view _ _
  rw [hview] at hlm
  rw [afterStatus_interleaved hu.line hl ht l (hpre.subset hlm)] at hlu
  exact urc_not_report hu (registrationReport_begins mode stat more) _ hlu.symm

theorem interleaved_never_statev : ¬ Undisturbed "%STATEV: 1,0".toList (registrationReport 0 5 none) crlf :=
  interleaved_never 0 5 none (by simp [OneLine]) _ crlf
    ⟨⟨"%STATEV:".toList, by decide, by decide⟩, by decide⟩ (.inr rfl)

/-- A roaming modem is taken for one that is not registered, and no poll returns the line. -/
theorem registration_disturbed :
    let line := registrationReport 0 5 none
    let u := "%STATEV: 1,0".toList
    let cmd : AtCommand := { command_ := .ofView _ "AT+CEREG?".toList, timeout_ms := 5000 }
    let sent := ModemController.send_command ModemController.scripted 1 cmd {} { uart_ := [interleaved u line crlf] }
    UrcLine u ∧
      (get_registration_status (answerOf (parse_response (alone line crlf))) {}).2.stat = .registered_roaming ∧
      (get_registration_status (answerOf (parse_response (interleaved u line crlf))) {}).2.stat = .not_registered ∧
      sent.1.map (·.1) = some .ok ∧
      (polls ModemController.scripted [50, 50] sent.2).1 = some [] := by
  refine ⟨⟨⟨"%STATEV:".toList, by decide, by decide⟩, by decide⟩, ?_⟩
  decide +kernel

end LteModem.Replies
