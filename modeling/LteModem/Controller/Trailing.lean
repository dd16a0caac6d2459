import LteModem.Controller.Chunking

/-!
# What follows a result code

`parse_response` compares whole lines with the result codes. `send_command` then looks for the status
word anywhere in the text, and takes what follows its line for URCs.
-/

open Strings

namespace LteModem.Trailing

open ModemController Chunking

/-- `F` begins a line and is the only final result line of `pre ++ F ++ crlf ++ post`. -/
structure Final (pre F post : Str) : Prop where
  whole : pre = [] ∨ ∃ q, pre = q ++ crlf
  line : ¬ crlf <:+: F
  final : (finalResult F).isSome
  only : ∀ l ∈ lines pre ++ lines post, finalResult l = none

def statusWord (F : Str) : Str := searchTerm ((finalResult F).getD .error)

/-! ## The status word -/

theorem searchTerm_ne_nil (status : AtStatus) : searchTerm status ≠ [] := by
  cases status <;> decide

theorem searchTerm_printable (status : AtStatus) :
    '\r' ∉ searchTerm status ∧ '\n' ∉ searchTerm status := by
  cases status <;> decide

theorem searchTerm_in_final {line : Str} {status : AtStatus} (h : finalResult line = some status) :
    searchTerm status <:+: line := by
  have herr (head : Str) (hh : "ERROR".toList <:+: head) (ht : line.take 11 = head) :
      "ERROR".toList <:+: line := by
    rw [← ht] at hh
    exact hh.trans (List.take_prefix 11 line).isInfix
  unfold finalResult at h
  split_ifs at h with h1 h2 h3 <;> simp only [Option.some.injEq] at h <;> subst h
  · rw [h1]
    exact List.infix_rfl
  · rcases h2 with h2 | h2 | h2
    · rw [h2]
      exact List.infix_rfl
    · exact herr _ ⟨"+CME ".toList, ":".toList, rfl⟩ h2
    · exact herr _ ⟨"+CMS ".toList, ":".toList, rfl⟩ h2
  · rw [h3]
    exact List.infix_rfl

theorem afterStatus_append {pre : Str} (h : pre = [] ∨ ∃ q, pre = q ++ crlf) (status : AtStatus) (s : Str) :
    afterStatus (pre ++ s) status =
      if searchTerm status <:+: pre then afterStatus pre status ++ s else afterStatus s status := by
  have hne := searchTerm_ne_nil status
  obtain ⟨hr, hn⟩ := searchTerm_printable status
  change afterLineOf _ _ = if _ then afterLineOf _ _ ++ s else afterLineOf _ _
  rcases h with rfl | ⟨q, rfl⟩
  · rw [if_neg (by simpa using hne)]
    rfl
  · by_cases hq : searchTerm status <:+: q
    · rw [if_pos (hq.trans ⟨[], crlf, by simp⟩), afterLineOf_append hq]
    · have hp : ¬ searchTerm status <:+: q ++ crlf := by
        have hnil : ¬ searchTerm status <:+: [] := by simpa using hne
        have hlf : find (searchTerm status) ['\n'] = none := by
          simpa [find_eq_none_iff.mpr hnil] using find_skip hne hn hnil []
        rw [← find_eq_none_iff]
        simpa [hlf, crlf] using find_skip hne hr hq ['\n']
      rw [if_neg hp, afterLineOf_skip hne hr hn hq]

theorem afterStatus_line {F : Str} (hl : ¬ crlf <:+: F) {status : AtStatus} (h : searchTerm status <:+: F)
    (post : Str) : afterStatus (F ++ crlf ++ post) status = post :=
  afterLineOf_line hl h post

/-! ## One read -/

theorem readAnswer_one {σ : Type} (u : Uart σ) (total fuel : Nat) (response : AtResponse) (c : Str)
    (m : ModemController σ) (t : σ) (hc : c ≠ []) (ht : (u.elapsed_ms m.uart_).1 < total)
    (hr : u.read READ_MAX (total - (u.elapsed_ms m.uart_).1) (u.elapsed_ms m.uart_).2 = ((.ok, c), t)) :
    (readAnswer u total (fuel + 1) (.empty _) response m).2 =
      { uart_ := t, urc_rx_buffer_ := m.urc_rx_buffer_.append (afterStatus c (parse_response c).status) } := by
  have hlen : c.length ≤ READ_MAX := by
    have := u.read_fits READ_MAX (total - (u.elapsed_ms m.uart_).1) (u.elapsed_ms m.uart_).2
    rw [hr] at this
    exact this
  have hv : ((FixedString.empty AT_RESPONSE_MAX).append c).view = c :=
    FixedString.empty_append_view c (hlen.trans (by decide))
  unfold readAnswer
  simp only [Prog.bind_run, onUart]
  rw [if_neg (by omega)]
  simp only [Prog.bind_run, onUart, hr]
  simp only [hc, hv, if_false, reduceCtorEq, not_true_eq_false, ne_eq]
  rw [if_pos (parse_response_settles c hc)]
  rfl

theorem send_command_keeps {σ : Type} (u : Uart σ) (cmd : AtCommand) (response : AtResponse)
    (m : ModemController σ) (c : Str) (fuel : Nat) (hc : c ≠ []) (hx : Exchange u cmd m.uart_ [c]) :
    (send_command u (fuel + 1) cmd response m).2.urc_rx_buffer_ =
      m.urc_rx_buffer_.append (afterStatus c (parse_response c).status) := by
  obtain ⟨t, ht, hr, -⟩ := hx.answered
  unfold send_command
  simp only [Prog.bind_run, onUart, hx.locked, Prog.gets_run, Bool.true_eq_false, if_false, hx.opened,
    hx.written, ne_eq, not_true_eq_false]
  rw [readAnswer_one u cmd.timeout_ms fuel response c _ t hc ht hr]

theorem break_ne_nil (pre F post : Str) : pre ++ F ++ crlf ++ post ≠ [] := by
  simp [crlf]

theorem final_status {pre F post : Str} (h : Final pre F post) :
    finalResult F = some (parse_response (pre ++ F ++ crlf ++ post)).status := by
  obtain ⟨status, hs⟩ := Option.isSome_iff_exists.mp h.final
  have hF : lines F = [F] := lines_eq_singleton_iff.mpr h.line
  have hnone (t : Str) (ht : ∀ l ∈ lines t, finalResult l = none) : finalResults t = [] :=
    List.filterMap_eq_nil_iff.mpr ht
  have hone : finalResults (F ++ crlf ++ post) = [status] := by
    have hp := hnone post fun l hl => h.only l (List.mem_append_right _ hl)
    unfold finalResults at hp ⊢
    rw [lines_append_crlf, hF, List.filterMap_append, hp]
    simp [hs]
  have hall : finalResults (pre ++ F ++ crlf ++ post) = [status] := by
    rcases h.whole with rfl | ⟨q, rfl⟩
    · exact hone
    · have hq : finalResults q = [] := hnone q fun l hl => h.only l (by
        have he := lines_append_crlf q []
        rw [List.append_nil] at he
        rw [he]
        simp [hl])
      unfold finalResults at hq hone ⊢
      rw [List.append_assoc, List.append_assoc, ← List.append_assoc F, lines_append_crlf,
        List.filterMap_append, hq, hone]
      rfl
  rw [parse_response_status _ (break_ne_nil pre F post), hall]
  exact hs

theorem append_eq_append_iff {n : Nat} (f : FixedString n) (s t : Str) :
    f.append s = f.append t ↔ s.take (n - f.size) = t.take (n - f.size) := by
  rw [FixedString.ext_iff]
  exact List.append_right_inj f.view

/-- What the buffer gets: `post`, and all behind the first response line that holds the status word. -/
def replayed (pre F post : Str) : Str :=
  if statusWord F <:+: pre then afterLineOf (statusWord F) pre ++ F ++ crlf ++ post else post

theorem send_command_replayed {σ : Type} (u : Uart σ) (cmd : AtCommand) (response : AtResponse)
    (m : ModemController σ) (pre F post : Str) (h : Final pre F post)
    (hx : Exchange u cmd m.uart_ [pre ++ F ++ crlf ++ post]) (fuel : Nat) :
    (send_command u (fuel + 1) cmd response m).2.urc_rx_buffer_ =
      m.urc_rx_buffer_.append (replayed pre F post) := by
  have hs := final_status h
  have hword : statusWord F = searchTerm (parse_response (pre ++ F ++ crlf ++ post)).status := by
    rw [statusWord, hs]
    rfl
  rw [send_command_keeps u cmd response m _ fuel (break_ne_nil pre F post) hx, replayed, hword]
  have he : pre ++ F ++ crlf ++ post = pre ++ (F ++ crlf ++ post) := by simp
  generalize (parse_response (pre ++ F ++ crlf ++ post)).status = status at hs ⊢
  rw [he, afterStatus_append h.whole, afterStatus_line h.line (searchTerm_in_final hs)]
  congr 1
  split_ifs
  · change afterLineOf _ _ ++ _ = _
    simp only [List.append_assoc]
  · rfl

theorem trailing_exact_room {σ : Type} (u : Uart σ) (cmd : AtCommand) (response : AtResponse)
    (m : ModemController σ) (pre F post : Str) (h : Final pre F post)
    (hx : Exchange u cmd m.uart_ [pre ++ F ++ crlf ++ post]) (fuel : Nat)
    (hroom : m.urc_rx_buffer_.size + (pre ++ F ++ crlf ++ post).length ≤ URC_RX_BUFFER_MAX) :
    (send_command u (fuel + 1) cmd response m).2.urc_rx_buffer_ = m.urc_rx_buffer_.append post ↔
      ¬ statusWord F <:+: pre := by
  rw [send_command_replayed u cmd response m pre F post h hx, append_eq_append_iff, replayed]
  split_ifs with hp
  · simp only [hp, not_true_eq_false, iff_false]
    intro he
    have hl := congrArg List.length he
    simp only [List.length_append, List.length_take, crlf, List.length_cons, List.length_nil] at hroom hl
    omega
  · simp [hp]

/-- The buffer gets what follows the result line exactly when no response line before it holds the
status word, or when the buffer has no room that shows the difference. -/
theorem trailing_exact_iff {σ : Type} (u : Uart σ) (cmd : AtCommand) (response : AtResponse)
    (m : ModemController σ) (pre F post : Str) (h : Final pre F post)
    (hx : Exchange u cmd m.uart_ [pre ++ F ++ crlf ++ post]) (fuel : Nat) :
    let room := URC_RX_BUFFER_MAX - m.urc_rx_buffer_.size
    (send_command u (fuel + 1) cmd response m).2.urc_rx_buffer_ = m.urc_rx_buffer_.append post ↔
      (statusWord F <:+: pre →
        (afterLineOf (statusWord F) pre ++ F ++ crlf ++ post).take room = post.take room) := by
  intro room
  rw [send_command_replayed u cmd response m pre F post h hx, append_eq_append_iff, replayed]
  split_ifs with hp
  · simp only [hp, true_implies]
    rfl
  · simp [hp]

def sring : Str := "\r\nSRING: 1\r\n".toList

def query : AtCommand := { command_ := .ofView _ "AT+COPS?".toList, timeout_ms := 5000 }

theorem trailing_exact_quality :
    let pre := "\r\n+CSQ: 9,9\r\n\r\n".toList
    let chunks := [pre ++ "OK".toList ++ crlf ++ sring]
    (send_command scripted 1 query {} { uart_ := chunks }).2.urc_rx_buffer_ =
      (FixedString.empty URC_RX_BUFFER_MAX).append sring :=
  (trailing_exact_iff scripted query {} _ "\r\n+CSQ: 9,9\r\n\r\n".toList "OK".toList sring
    ⟨.inr ⟨"\r\n+CSQ: 9,9\r\n".toList, rfl⟩, by decide, by decide, by decide⟩
    ⟨rfl, rfl, rfl, _, by decide, rfl, trivial⟩ 0).mpr (by decide)

/-- The name of the operator holds `OK`, and the result line is replayed as a URC line. -/
theorem trailing_replayed :
    let pre := "\r\n+COPS: 0,0,\"OKTEL\",8\r\n\r\n".toList
    let chunks := [pre ++ "OK".toList ++ crlf ++ sring]
    Final pre "OK".toList sring ∧ Exchange scripted query chunks chunks ∧
      (send_command scripted 1 query {} { uart_ := chunks }).2.urc_rx_buffer_ ≠
        (FixedString.empty URC_RX_BUFFER_MAX).append sring := by
  refine ⟨⟨.inr ⟨"\r\n+COPS: 0,0,\"OKTEL\",8\r\n".toList, rfl⟩, by decide, by decide, by decide⟩, ?_, by decide⟩
  exact ⟨rfl, rfl, rfl, _, by decide, rfl, trivial⟩

end LteModem.Trailing
