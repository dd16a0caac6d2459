import LteModem.Controller.Trailing
import LteModem.Controller.UrcBuffer

/-!
# Three ways to exchange

`send_command`, `send_binary` and `send_with_prompt` read the same stream of bytes, but only the first
keeps what follows the result code.
-/

open Strings

namespace LteModem.ExchangePaths

open ModemController Chunking Trailing UrcBuffer

/-! ## The lines of a poll -/

/-- A line without the carriage return at its end. -/
def trimCr (line : Str) : Str := if line.getLast? = some '\r' then line.dropLast else line

/-- The complete lines of `s` with a known prefix. -/
def urcLines (s : Str) : List Str := ((lfLines s).map trimCr).filter isUrc

/-- What one poll returns of a buffer with the text `s`. -/
def firstEight (s : Str) : List Str := ((urcLines s).map (List.take URC_LINE_MAX)).take MAX_URC_LINES

theorem isUrc_take (line : Str) : isUrc (line.take URC_LINE_MAX) = isUrc line := by
  have hlen : ∀ p ∈ kPrefixes, p.length ≤ URC_LINE_MAX := by decide
  unfold isUrc
  rw [Bool.eq_iff_iff, List.any_eq_true, List.any_eq_true]
  refine exists_congr fun p => and_congr_right fun hp => ?_
  rw [List.isPrefixOf_iff_prefix, List.isPrefixOf_iff_prefix, List.prefix_take_iff]
  exact and_iff_left (hlen p hp)

theorem isUrc_nil : isUrc [] = false := by decide

theorem urcLines_line {a : Str} (h : '\n' ∉ a) (b : Str) :
    urcLines (a ++ '\n' :: b) = (if isUrc (trimCr a) then [trimCr a] else []) ++ urcLines b := by
  unfold urcLines
  rw [lfLines_line h, List.map_cons, List.filter_cons]
  split_ifs <;> rfl

theorem take_line (a b : Str) :
    let stop := a.length
    let view := a ++ '\n' :: b
    view.take (if 0 < stop ∧ view[stop - 1]? = some '\r' then stop - 1 else stop) = trimCr a := by
  intro stop view
  rcases List.eq_nil_or_concat a with rfl | ⟨a, x, rfl⟩
  · rfl
  · have hstop : stop = a.length + 1 := by simp [stop]
    have hget : view[stop - 1]? = some x := by
      rw [hstop]
      simp [view]
    rw [hget, hstop]
    by_cases hx : x = '\r'
    · rw [if_pos (by simp [hx])]
      simp [view, trimCr, hx]
    · rw [if_neg (by simp [hx])]
      simp [view, trimCr, hx, List.take_append]

theorem drainLines_line (fuel : Nat) (buf : FixedString URC_RX_BUFFER_MAX) (urcs : List (FixedString URC_LINE_MAX))
    {a b : Str} (hab : buf.view = a ++ '\n' :: b) (hf : find ['\n'] buf.view = some a.length) :
    drainLines (fuel + 1) buf urcs = drainLines fuel (buf.erase 0 (a.length + 1))
      (if isUrc (trimCr a) = true then push_back MAX_URC_LINES urcs (.ofView _ (trimCr a)) else urcs) := by
  have hline := take_line a b
  rw [← hab] at hline
  have hkeep : ((trimCr a).take URC_LINE_MAX ≠ [] ∧ isUrc ((trimCr a).take URC_LINE_MAX) = true) ↔
      isUrc (trimCr a) = true := by
    rw [isUrc_take, and_iff_right_of_imp]
    intro hk h0
    rw [← isUrc_take, h0, isUrc_nil] at hk
    cases hk
  simp only [drainLines, hf, FixedString.ofView_view, hline, hkeep]

theorem drainLines_lines (fuel : Nat) (buf : FixedString URC_RX_BUFFER_MAX)
    (urcs : List (FixedString URC_LINE_MAX)) (h : buf.size < fuel) (hu : urcs.length ≤ MAX_URC_LINES) :
    (drainLines fuel buf urcs).1.map (·.view) =
      (urcs.map (·.view) ++ (urcLines buf.view).map (List.take URC_LINE_MAX)).take MAX_URC_LINES := by
  induction fuel generalizing buf urcs with
  | zero => omega
  | succ fuel ih =>
    rcases hf : find ['\n'] buf.view with _ | stop
    · have hnil : urcLines buf.view = [] := by
        rw [urcLines, lfLines_eq_nil.mpr (find_eq_none hf)]
        rfl
      unfold drainLines
      rw [hf, hnil, List.map_nil, List.append_nil, List.take_of_length_le (by simpa using hu)]
    · obtain ⟨a, b, hab, rfl, ha, hv, hs⟩ := UrcBuffer.erase_line hf
      have hs : (buf.erase 0 (a.length + 1)).size < fuel := by omega
      rw [drainLines_line fuel buf urcs hab hf, hab, urcLines_line ha b]
      by_cases hk : isUrc (trimCr a) = true
      · rw [if_pos hk, if_pos hk]
        unfold push_back
        split_ifs with hfull
        · -- A full vector takes no more lines.
          rw [ih _ _ hs hu, List.take_append_of_le_length (by simpa using hfull),
            List.take_append_of_le_length (by simpa using hfull)]
        · rw [ih _ _ hs (by simp; omega), hv]
          simp
      · rw [if_neg hk, if_neg hk, ih _ _ hs hu, hv]
        rfl

theorem parseBuffer_lines (buf : FixedString URC_RX_BUFFER_MAX) :
    (parseBuffer buf).1.map (·.view) = firstEight buf.view := by
  unfold parseBuffer
  exact drainLines_lines _ buf [] (by omega) (by decide)

theorem urcLines_mono (a b : Str) : urcLines a <+: urcLines (a ++ b) :=
  ((lfLines_mono a b).map trimCr).filter isUrc

theorem urcLines_append (a b : Str) : urcLines (a ++ '\n' :: b) = urcLines (a ++ ['\n']) ++ urcLines b := by
  unfold urcLines
  rw [lfLines_append, List.map_append, List.filter_append]

theorem firstEight_mono (a b : Str) : firstEight a <+: firstEight (a ++ b) :=
  ((urcLines_mono a b).map _).take _

/-! ## Polls -/

section

variable {σ : Type} (u : Uart σ)

/-- What a run of polls returns, in order. -/
def polls : List Nat → Prog (ModemController σ) (List Str)
  | [] => pure []
  | t :: ts => do
    let urcs ← poll_urc u t
    let more ← polls ts
    pure (urcs.map (·.view) ++ more)

/-- One of the polls reads the port. -/
def Polled : List Nat → ModemController σ → Prop
  | [], _ => False
  | t :: ts, m => polled u t m ≠ none ∨ Polled ts (poll_urc u t m).2

theorem polls_cons (t : Nat) (ts : List Nat) (m : ModemController σ) :
    (polls u (t :: ts) m).1 = (polls u ts (poll_urc u t m).2).1.map
      ((afterPoll m.urc_rx_buffer_ (polled u t m)).1.map (·.view) ++ ·) := by
  have h := (poll_urc_spec u t m).1
  rw [polls, Prog.bind_run]
  rcases hp : poll_urc u t m with ⟨_ | urcs, m'⟩
  · rw [hp] at h
    cases h
  · rw [hp] at h
    simp only [Option.some.injEq] at h
    rw [← h]
    simp only [Prog.bind_run]
    rcases polls u ts m' with ⟨_ | more, m''⟩ <;> rfl

theorem polls_ends (ts : List Nat) (m : ModemController σ) : ∃ l, (polls u ts m).1 = some l := by
  induction ts generalizing m with
  | nil => exact ⟨[], rfl⟩
  | cons t ts ih =>
    obtain ⟨l, hl⟩ := ih (poll_urc u t m).2
    rw [polls_cons, hl]
    exact ⟨_, rfl⟩

theorem polls_first (ts : List Nat) (m : ModemController σ) (h : Polled u ts m) :
    ∃ bytes more, (polls u ts m).1 =
      some (firstEight ((m.urc_rx_buffer_.view ++ bytes).take URC_RX_BUFFER_MAX) ++ more) := by
  induction ts generalizing m with
  | nil => exact absurd h id
  | cons t ts ih =>
    have hb := (poll_urc_spec u t m).2
    rw [polls_cons]
    rcases hp : polled u t m with _ | bytes
    · rw [hp] at hb
      obtain ⟨bytes, more, hm⟩ := ih _ (h.resolve_left fun hn => hn hp)
      rw [hb] at hm
      exact ⟨bytes, more, by rw [hm]; rfl⟩
    · obtain ⟨l, hl⟩ := polls_ends u ts (poll_urc u t m).2
      refine ⟨bytes, l, ?_⟩
      rw [hl, afterPoll, parseBuffer_lines, FixedString.append_view]
      rfl

end

/-! ## The exchange -/

inductive Path where
  | send_command | send_binary | send_with_prompt
deriving DecidableEq

/-- The arguments of the three functions. -/
structure Args where
  command : Str
  data : Str
  response : AtResponse
  timeout_ms : Nat

def Path.run {σ : Type} (u : Uart σ) (fuel : Nat) (a : Args) :
    Path → Prog (ModemController σ) (ModemStatus × AtResponse)
  | .send_command => ModemController.send_command u fuel ⟨.ofView _ a.command, a.timeout_ms⟩ a.response
  | .send_binary => ModemController.send_binary u a.data a.response a.timeout_ms
  | .send_with_prompt => ModemController.send_with_prompt u a.command a.data a.response a.timeout_ms

/-- The port is free and open, and takes the text. -/
structure Sent {σ : Type} (u : Uart σ) (text : Str) (s t : σ) : Prop where
  locked : (u.lock s).1 = true
  opened : u.is_open (u.lock s).2 = true
  written : u.write text (u.lock s).2 = (.ok, t)

/-- The exchange goes well, and `raw` is what its last read returns. -/
def Path.Answered {σ : Type} (u : Uart σ) (a : Args) (s : σ) (raw : Str) : Path → Prop
  | .send_command => Exchange u ⟨.ofView _ a.command, a.timeout_ms⟩ s [raw]
  | .send_binary => ∃ t, Sent u a.data s t ∧ (u.read READ_MAX a.timeout_ms t).1 = (.ok, raw)
  | .send_with_prompt => ∃ t t' t'' prompt, Sent u (a.command.take AT_CMD_MAX ++ crlf) s t ∧
      u.read READ_MAX a.timeout_ms t = ((.ok, prompt), t') ∧ '>' ∈ prompt ∧
      u.write a.data t' = (.ok, t'') ∧ (u.read READ_MAX a.timeout_ms t'').1 = (.ok, raw)

/-- After every exchange that ends with the answer and every later run of polls, what the buffer had
before is returned first, and the URC lines of `post` are returned in order. -/
def Kept (path : Path) (b : FixedString URC_RX_BUFFER_MAX) (F post : Str) : Prop :=
  ∀ {σ : Type} (u : Uart σ) (a : Args) (m : ModemController σ) (fuel : Nat) (timeouts : List Nat),
    m.urc_rx_buffer_ = b → path.Answered u a m.uart_ (crlf ++ F ++ crlf ++ post) →
    let m' := (path.run u (fuel + 1) a m).2
    Polled u timeouts m' →
    ∃ before after, (polls u timeouts m').1 = some (firstEight b.view ++ before ++ urcLines post ++ after)

/-! ## What is left of the answer -/

/-- The word of the last result line of the answer, which need not be `F`. -/
def resultWord (F post : Str) : Str :=
  searchTerm ((finalResults post).getLast?.getD ((finalResult F).getD .error))

/-- What `send_command` keeps of `post`. -/
def behind (F post : Str) : Str :=
  if resultWord F post <:+: F then post else afterLineOf (resultWord F post) post

def Path.left (F post : Str) : Path → Str
  | .send_command => behind F post
  | _ => []

theorem result_line {F : Str} (hF : F = "OK".toList ∨ F = "ERROR".toList) :
    (∃ status, finalResult F = some status) ∧ ¬ crlf <:+: F ∧ lines F = [F] := by
  rcases hF with rfl | rfl
  · exact ⟨⟨.ok, by decide⟩, by decide, by decide⟩
  · exact ⟨⟨.error, by decide⟩, by decide, by decide⟩

theorem answer_status {F : Str} (hF : F = "OK".toList ∨ F = "ERROR".toList) (post : Str) :
    (parse_response (crlf ++ F ++ crlf ++ post)).status =
      (finalResults post).getLast?.getD ((finalResult F).getD .error) := by
  obtain ⟨⟨status, hs⟩, -, hl⟩ := result_line hF
  have hall : finalResults (crlf ++ F ++ crlf ++ post) = status :: finalResults post := by
    unfold finalResults
    rw [lines_append_crlf]
    have h2 : lines (crlf ++ F) = [] :: lines F := lines_append_crlf [] F
    rw [h2, hl]
    simp [hs, finalResult_nil]
  rw [parse_response_status _ (break_ne_nil crlf F post), hall, List.getLast?_cons, hs]
  rfl

theorem afterStatus_answer {F : Str} (hF : F = "OK".toList ∨ F = "ERROR".toList) (post : Str) :
    afterStatus (crlf ++ F ++ crlf ++ post) (parse_response (crlf ++ F ++ crlf ++ post)).status =
      behind F post := by
  obtain ⟨-, hc, -⟩ := result_line hF
  rw [answer_status hF]
  unfold behind resultWord
  generalize (finalResults post).getLast?.getD ((finalResult F).getD .error) = status
  have hno : ¬ searchTerm status <:+: crlf := by cases status <;> decide
  have he : crlf ++ F ++ crlf ++ post = crlf ++ (F ++ crlf ++ post) := by simp
  rw [he, afterStatus_append (show crlf = [] ∨ ∃ q, crlf = q ++ crlf from .inr ⟨[], rfl⟩), if_neg hno]
  split_ifs with hw
  · exact afterStatus_line hc hw post
  · exact afterLineOf_skip (searchTerm_ne_nil status) (searchTerm_printable status).1
      (searchTerm_printable status).2 hw post

section

variable {σ : Type} {b : FixedString URC_RX_BUFFER_MAX} (u : Uart σ)

instance readFinal_keeps (response : AtResponse) (timeout_ms : Nat) :
    Prog.Preserves (fun m : ModemController σ => m.urc_rx_buffer_ = b) (readFinal u response timeout_ms) := by
  unfold readFinal
  infer_instance

instance send_binary_keeps (data : Str) (response : AtResponse) (timeout_ms : Nat) :
    Prog.Preserves (fun m : ModemController σ => m.urc_rx_buffer_ = b)
      (send_binary u data response timeout_ms) := by
  unfold send_binary
  infer_instance

set_option synthInstance.maxSize 400 in
instance send_with_prompt_keeps (command data : Str) (response : AtResponse) (timeout_ms : Nat) :
    Prog.Preserves (fun m : ModemController σ => m.urc_rx_buffer_ = b)
      (send_with_prompt u command data response timeout_ms) := by
  unfold send_with_prompt
  infer_instance

end

theorem run_buffer {σ : Type} (path : Path) {F : Str} (hF : F = "OK".toList ∨ F = "ERROR".toList) (post : Str)
    (u : Uart σ) (a : Args) (m : ModemController σ) (fuel : Nat)
    (hx : path.Answered u a m.uart_ (crlf ++ F ++ crlf ++ post)) :
    (path.run u (fuel + 1) a m).2.urc_rx_buffer_ = m.urc_rx_buffer_.append (path.left F post) := by
  have hnil : m.urc_rx_buffer_.append [] = m.urc_rx_buffer_ := by
    apply FixedString.ext
    rw [FixedString.append_view, List.append_nil, List.take_of_length_le m.urc_rx_buffer_.fits]
  cases path with
  | send_command =>
    rw [Path.left, ← afterStatus_answer hF]
    exact send_command_keeps u _ _ m _ fuel (break_ne_nil crlf F post) hx
  | send_binary => exact (send_binary_keeps u a.data a.response a.timeout_ms).final hnil.symm
  | send_with_prompt =>
    exact (send_with_prompt_keeps u a.command a.data a.response a.timeout_ms).final hnil.symm

/-! ## A port that falls silent -/

/-- The reads that a scripted port answers in an exchange that ends with `raw`. -/
def script (raw : Str) : Path → List Str
  | .send_with_prompt => ["> ".toList, raw]
  | _ => [raw]

def anyArgs : Args := ⟨[], [], {}, 1⟩

theorem scripted_answered (path : Path) {raw : Str} (h : raw.length ≤ READ_MAX) :
    path.Answered scripted anyArgs (script raw path) raw := by
  have ht : raw.take READ_MAX = raw := List.take_of_length_le h
  cases path with
  | send_command => exact ⟨rfl, rfl, rfl, [], Nat.zero_lt_one, by simp [scripted, script, ht], trivial⟩
  | send_binary => exact ⟨_, ⟨rfl, rfl, rfl⟩, by simp [scripted, script, ht]⟩
  | send_with_prompt =>
    refine ⟨_, _, _, "> ".toList, ⟨rfl, rfl, rfl⟩, rfl, by decide, rfl, ?_⟩
    simp [scripted, ht]

theorem scripted_silent (path : Path) {raw : Str} (hne : raw ≠ []) (b : FixedString URC_RX_BUFFER_MAX)
    (h : raw.length ≤ READ_MAX) :
    (path.run scripted 1 anyArgs { uart_ := script raw path, urc_rx_buffer_ := b }).2.uart_ = [] := by
  have ht : raw.take READ_MAX = raw := List.take_of_length_le h
  cases path with
  | send_command =>
    have hx := scripted_answered .send_command h
    unfold Path.run ModemController.send_command
    simp only [Prog.bind_run, onUart, hx.locked, Prog.gets_run, Bool.true_eq_false, if_false, hx.opened,
      hx.written, ne_eq, not_true_eq_false]
    have hone := readAnswer_one scripted 1 0 {} raw { uart_ := [raw], urc_rx_buffer_ := b } [] hne
      Nat.zero_lt_one (by simp [scripted, ht])
    exact congrArg (·.uart_) hone
  | send_binary | send_with_prompt =>
    simp [Path.run, ModemController.send_binary, ModemController.send_with_prompt, readFinal, Prog.bind_run,
      onUart, scripted, script, READ_MAX]

theorem polled_silent (t : Nat) (m : ModemController (List Str)) (h : m.uart_ = []) :
    polled scripted t m = some [] := by
  simp [polled, scripted, h]

theorem polls_silent (t : Nat) (m : ModemController (List Str)) (h : m.uart_ = []) :
    (polls scripted [t] m).1 = some (firstEight m.urc_rx_buffer_.view) := by
  rw [polls_cons, polled_silent t m h, afterPoll, parseBuffer_lines, FixedString.append_view, List.append_nil,
    List.take_of_length_le m.urc_rx_buffer_.fits]
  simp [polls]

/-! ## What is kept -/

theorem length_left_le (path : Path) (F post : Str) : (path.left F post).length ≤ post.length := by
  cases path with
  | send_command =>
    rw [Path.left, behind]
    split_ifs
    · exact le_refl _
    · rcases afterLineOf_suffix (resultWord F post) post with h | ⟨q, h⟩
      · rw [h]
        exact Nat.zero_le _
      · have hl := congrArg List.length h
        simp only [List.length_append] at hl
        omega
  | send_binary | send_with_prompt => exact Nat.zero_le _

theorem kept_iff_first (path : Path) (b : FixedString URC_RX_BUFFER_MAX) {F : Str}
    (hF : F = "OK".toList ∨ F = "ERROR".toList) (post : Str)
    (hlen : (crlf ++ F ++ crlf ++ post).length ≤ READ_MAX) (hfit : b.size + post.length ≤ URC_RX_BUFFER_MAX) :
    Kept path b F post ↔ ∃ before after,
      firstEight (b.view ++ path.left F post) = firstEight b.view ++ before ++ urcLines post ++ after := by
  have hll := length_left_le path F post
  have hsize : (b.view ++ path.left F post).length ≤ URC_RX_BUFFER_MAX := by
    rw [List.length_append]
    unfold FixedString.size at hfit
    omega
  have hview : (b.append (path.left F post)).view = b.view ++ path.left F post := by
    rw [FixedString.append_view, List.take_of_length_le hsize]
  constructor
  · intro hk
    have hx := scripted_answered path hlen
    have hs := scripted_silent path (break_ne_nil crlf F post) b hlen
    have hb := run_buffer path hF post scripted anyArgs
      { uart_ := script (crlf ++ F ++ crlf ++ post) path, urc_rx_buffer_ := b } 0 hx
    obtain ⟨before, after, he⟩ := hk scripted anyArgs
      { uart_ := script (crlf ++ F ++ crlf ++ post) path, urc_rx_buffer_ := b } 0 [0] rfl hx
      (.inl (by rw [polled_silent 0 _ hs]; simp))
    rw [polls_silent 0 _ hs, hb, hview, Option.some.injEq] at he
    exact ⟨before, after, he⟩
  · rintro ⟨before, after, he⟩ σ u a m fuel timeouts rfl hx m' hp
    have hb := run_buffer path hF post u a m fuel hx
    obtain ⟨bytes, more, hm⟩ := polls_first u timeouts m' hp
    obtain ⟨z, hz⟩ := firstEight_mono (m.urc_rx_buffer_.view ++ path.left F post)
      (bytes.take (URC_RX_BUFFER_MAX - (m.urc_rx_buffer_.view ++ path.left F post).length))
    refine ⟨before, after ++ z ++ more, ?_⟩
    rw [hm, hb, hview, List.take_append, List.take_of_length_le hsize, ← hz, he]
    simp

/-! ## Whole lines -/

/-- The text ends with a line feed, if it is not empty. -/
def Complete (s : Str) : Prop := s = [] ∨ ∃ q, s = q ++ ['\n']

theorem urcLines_complete {a : Str} (h : Complete a) (b : Str) : urcLines (a ++ b) = urcLines a ++ urcLines b := by
  rcases h with rfl | ⟨q, rfl⟩
  · rfl
  · rw [List.append_assoc]
    exact urcLines_append q b

theorem urcLines_left (path : Path) (F post : Str) : urcLines (path.left F post) <:+ urcLines post := by
  cases path with
  | send_command =>
    rw [Path.left, behind]
    split_ifs
    · exact List.suffix_rfl
    · rcases afterLineOf_suffix (resultWord F post) post with h | ⟨q, h⟩
      · rw [h]
        exact List.nil_suffix
      · have hc : Complete (q ++ crlf) := .inr ⟨q ++ ['\r'], by simp [crlf]⟩
        have hs := urcLines_complete hc (afterLineOf (resultWord F post) post)
        rw [← h] at hs
        exact ⟨_, hs.symm⟩
  | send_binary | send_with_prompt => exact List.nil_suffix

theorem map_take_eq_self {n : Nat} {ls : List Str} (h : ∀ l ∈ ls, l.length ≤ n) : ls.map (List.take n) = ls := by
  have he : ls.map (List.take n) = ls.map id := List.map_congr_left fun l hl => List.take_of_length_le (h l hl)
  rw [he, List.map_id]

theorem first_iff_room {b : Str} (hb : Complete b) {left post : Str} (hne : urcLines post ≠ [])
    (hl : urcLines left <:+ urcLines post) :
    (∃ before after, firstEight (b ++ left) = firstEight b ++ before ++ urcLines post ++ after) ↔
      (urcLines b).length + (urcLines post).length ≤ MAX_URC_LINES ∧
        (∀ l ∈ urcLines post, l.length ≤ URC_LINE_MAX) ∧ urcLines left = urcLines post := by
  have hpos := List.length_pos_iff.mpr hne
  have hle := hl.length_le
  have hsplit : firstEight (b ++ left) = firstEight b ++
      ((urcLines left).map (List.take URC_LINE_MAX)).take (MAX_URC_LINES - (urcLines b).length) := by
    unfold firstEight
    rw [urcLines_complete hb, List.map_append, List.take_append, List.length_map]
  rw [hsplit]
  simp only [List.append_assoc, List.append_cancel_left_eq]
  constructor
  · rintro ⟨before, after, he⟩
    have hlen := congrArg List.length he
    simp only [List.length_append, List.length_take, List.length_map] at hlen
    have hbefore : before = [] := List.length_eq_zero_iff.mp (by omega)
    have hafter : after = [] := List.length_eq_zero_iff.mp (by omega)
    subst hbefore hafter
    rw [List.take_of_length_le (by simp; omega), List.nil_append, List.append_nil] at he
    refine ⟨by omega, fun l hm => ?_, hl.eq_of_length (by omega)⟩
    rw [← he, List.mem_map] at hm
    obtain ⟨l', -, rfl⟩ := hm
    exact List.length_take_le _ _
  · rintro ⟨h1, h2, h3⟩
    refine ⟨[], [], ?_⟩
    rw [h3, List.take_of_length_le (by simp; omega), List.nil_append, List.append_nil, map_take_eq_self h2]

/-- The URC lines that `send_command` leaves in the buffer are those of `post`, and a poll returns them. -/
def Room (b F post : Str) : Prop :=
  (Complete b ∧ (urcLines b).length + (urcLines post).length ≤ MAX_URC_LINES ∧
    (∀ l ∈ urcLines post, l.length ≤ URC_LINE_MAX) ∧ urcLines (behind F post) = urcLines post) ∨
  -- The first line of `post` is read as the end of an unfinished line.
  (¬ Complete b ∧ ∃ before after,
    firstEight (b ++ behind F post) = firstEight b ++ before ++ urcLines post ++ after)

/-- Behind a result code the URC lines are kept exactly when there are none, or when `send_command`
reads the answer and there is room for them. -/
theorem kept_iff (path : Path) (b : FixedString URC_RX_BUFFER_MAX) (F post : Str)
    (hF : F = "OK".toList ∨ F = "ERROR".toList) (hlen : (crlf ++ F ++ crlf ++ post).length ≤ READ_MAX)
    (hfit : b.size + post.length ≤ URC_RX_BUFFER_MAX) :
    Kept path b F post ↔ urcLines post = [] ∨ path = .send_command ∧ Room b.view F post := by
  rw [kept_iff_first path b hF post hlen hfit]
  by_cases hne : urcLines post = []
  · simp only [hne, true_or, iff_true]
    obtain ⟨z, hz⟩ := firstEight_mono b.view (path.left F post)
    exact ⟨z, [], by simp [hz]⟩
  · simp only [hne, false_or]
    have hnone (hl : path.left F post = []) : ¬ ∃ before after,
        firstEight (b.view ++ path.left F post) = firstEight b.view ++ before ++ urcLines post ++ after := by
      rintro ⟨before, after, he⟩
      have hlen := congrArg List.length he
      rw [hl, List.append_nil] at hlen
      simp only [List.length_append] at hlen
      have := List.length_pos_iff.mpr hne
      omega
    cases path with
    | send_command =>
      simp only [true_and]
      by_cases hc : Complete b.view
      · simp only [Room, hc, true_and, not_true_eq_false, false_and, or_false]
        exact first_iff_room hc hne (urcLines_left .send_command F post)
      · simp only [Room, hc, false_and, not_false_eq_true, true_and, false_or]
        rfl
    | send_binary | send_with_prompt => simpa using hnone rfl

theorem kept_command :
    Kept .send_command (.empty _) "OK".toList "\r\nSRING: 1\r\n".toList :=
  (kept_iff .send_command (.empty _) "OK".toList "\r\nSRING: 1\r\n".toList (.inl rfl) (by decide) (by decide)).mpr
    (.inr ⟨rfl, .inl ⟨.inl rfl, by decide, by decide, by decide⟩⟩)

/-- The report that data are there comes together with the confirmation of a datagram, and is lost. -/
theorem sring_lost : ¬ Kept .send_with_prompt (.empty _) "OK".toList "\r\nSRING: 1\r\n".toList := by
  rw [kept_iff_first .send_with_prompt (.empty _) (.inl rfl) _ (by decide) (by decide)]
  rintro ⟨before, after, he⟩
  have hnone : firstEight ((FixedString.empty URC_RX_BUFFER_MAX).view ++
      Path.left "OK".toList "\r\nSRING: 1\r\n".toList .send_with_prompt) = [] := by decide
  have hone : urcLines "\r\nSRING: 1\r\n".toList = ["SRING: 1".toList] := by decide
  rw [hnone, hone] at he
  simp at he

end LteModem.ExchangePaths
