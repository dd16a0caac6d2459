import LteModem.Controller.ExchangePaths

/-!
# `poll_urc` splits a stream into lines

The reference splitter works on the whole stream. A run of polls that sees the stream in pieces returns the same
lines, as long as no poll has more of them than it can return.
-/

open Strings

namespace LteModem.Splitter

open ModemController UrcBuffer ExchangePaths

/-! ## The reference -/

/-- The lines of a stream as `poll_urc` should return them. -/
def splitter (stream : Str) : List Str :=
  (((lfLines stream).map trimCr).map (List.take URC_LINE_MAX)).filter fun line => line ≠ [] ∧ isUrc line

theorem splitter_eq (s : Str) : splitter s = (urcLines s).map (List.take URC_LINE_MAX) := by
  have hk (line : Str) : decide (line.take URC_LINE_MAX ≠ [] ∧ isUrc (line.take URC_LINE_MAX) = true) = isUrc line := by
    rw [isUrc_take, Bool.eq_iff_iff, decide_eq_true_iff, and_iff_right_of_imp]
    intro hk h0
    rw [← isUrc_take, h0, isUrc_nil] at hk
    cases hk
  rw [splitter, urcLines, List.filter_map]
  congr 2
  funext line
  exact hk line

theorem splitter_append (s t : Str) : splitter (s ++ t) = splitter s ++ splitter (lfRest s ++ t) := by
  rw [splitter, lfLines_rest, List.map_append, List.map_append, List.filter_append]
  rfl

theorem splitter_nil {s : Str} (h : '\n' ∉ s) : splitter s = [] := by
  rw [splitter, lfLines_eq_nil.mpr h]
  rfl

/-! ## One poll -/

theorem drainLines_rest (fuel : Nat) (buf : FixedString URC_RX_BUFFER_MAX) (urcs : List (FixedString URC_LINE_MAX))
    (h : buf.size < fuel) : (drainLines fuel buf urcs).2.view = lfRest buf.view := by
  induction fuel generalizing buf urcs with
  | zero => omega
  | succ fuel ih =>
    unfold drainLines
    rcases hf : find ['\n'] buf.view with _ | stop
    · exact (lfRest_eq_self (find_eq_none hf)).symm
    · obtain ⟨a, b, hab, -, -, hv, hs⟩ := UrcBuffer.erase_line hf
      dsimp only
      rw [ih _ _ (by omega), hv, hab, lfRest_line]

theorem parseBuffer_rest (buf : FixedString URC_RX_BUFFER_MAX) : (parseBuffer buf).2.view = lfRest buf.view := by
  unfold parseBuffer
  simp only [trimBuffer_eq]
  exact drainLines_rest _ buf [] (by omega)

theorem firstEight_eq (s : Str) : firstEight s = (splitter s).take MAX_URC_LINES := by
  rw [splitter_eq]
  rfl

section

variable {σ : Type} (u : Uart σ)

/-- The text that a poll looks at: what was left over, and what it reads. -/
def seen (t : Nat) (m : ModemController σ) : Str := m.urc_rx_buffer_.view ++ (polled u t m).getD []

theorem poll_reads {t : Nat} {m : ModemController σ} (hfit : (seen u t m).length ≤ URC_RX_BUFFER_MAX)
    (hp : polled u t m ≠ none) :
    (afterPoll m.urc_rx_buffer_ (polled u t m)).1.map (·.view) = (splitter (seen u t m)).take MAX_URC_LINES ∧
      (afterPoll m.urc_rx_buffer_ (polled u t m)).2.view = lfRest (seen u t m) := by
  obtain ⟨bytes, hb⟩ := Option.ne_none_iff_exists'.mp hp
  have hv : (m.urc_rx_buffer_.append bytes).view = seen u t m := by
    simp only [seen, hb, Option.getD_some] at hfit ⊢
    rw [FixedString.append_view, List.take_of_length_le hfit]
  rw [hb, afterPoll, parseBuffer_lines, parseBuffer_rest, hv, firstEight_eq]
  exact ⟨rfl, rfl⟩

/-! ## A run of polls -/

/-- The bytes that the polls read, one chunk a poll. -/
def chunks : List Nat → ModemController σ → List Str
  | [], _ => []
  | t :: ts, m => (polled u t m).getD [] :: chunks ts (poll_urc u t m).2

/-- At every poll what it sees fits, and at most eight recognised lines complete. -/
def Roomy : List Nat → ModemController σ → Prop
  | [], _ => True
  | t :: ts, m =>
    (seen u t m).length ≤ URC_RX_BUFFER_MAX ∧ (splitter (seen u t m)).length ≤ MAX_URC_LINES ∧
      Roomy ts (poll_urc u t m).2

theorem poll_splits {t : Nat} {m : ModemController σ} (hm : '\n' ∉ m.urc_rx_buffer_.view)
    (hfit : (seen u t m).length ≤ URC_RX_BUFFER_MAX) (hroom : (splitter (seen u t m)).length ≤ MAX_URC_LINES) :
    (afterPoll m.urc_rx_buffer_ (polled u t m)).1.map (·.view) = splitter (seen u t m) ∧
      (poll_urc u t m).2.urc_rx_buffer_.view = lfRest (seen u t m) := by
  rw [(poll_urc_spec u t m).2]
  by_cases hp : polled u t m = none
  · have hs : seen u t m = m.urc_rx_buffer_.view := by simp [seen, hp]
    rw [hp, hs, splitter_nil hm, lfRest_eq_self hm]
    exact ⟨rfl, rfl⟩
  · obtain ⟨hl, hr⟩ := poll_reads u hfit hp
    rw [List.take_of_length_le hroom] at hl
    exact ⟨hl, hr⟩

theorem polls_state (t : Nat) (ts : List Nat) (m : ModemController σ) :
    (polls u (t :: ts) m).2 = (polls u ts (poll_urc u t m).2).2 := by
  have h := (poll_urc_spec u t m).1
  rw [polls, Prog.bind_run]
  rcases hp : poll_urc u t m with ⟨_ | urcs, m'⟩
  · rw [hp] at h
    cases h
  · simp only [Prog.bind_run]
    rcases polls u ts m' with ⟨_ | more, m''⟩ <;> rfl

/-- The polls return the lines of the stream, however it is cut into chunks, and the buffer holds the rest.
By induction on the polls; in between the buffer holds the unfinished line. -/
theorem polls_split (ts : List Nat) (m : ModemController σ) (hm : '\n' ∉ m.urc_rx_buffer_.view) (h : Roomy u ts m) :
    let stream := m.urc_rx_buffer_.view ++ (chunks u ts m).flatten
    (polls u ts m).1 = some (splitter stream) ∧ (polls u ts m).2.urc_rx_buffer_.view = lfRest stream := by
  induction ts generalizing m with
  | nil =>
    simp only [chunks, List.flatten_nil, List.append_nil]
    exact ⟨by rw [splitter_nil hm]; rfl, (lfRest_eq_self hm).symm⟩
  | cons t ts ih =>
    obtain ⟨hfit, hroom, hrest⟩ := h
    obtain ⟨hl, hr⟩ := poll_splits u hm hfit hroom
    obtain ⟨hout, hbuf⟩ := ih _ (by rw [hr]; exact not_mem_lfRest _) hrest
    rw [hr] at hout hbuf
    have hs : m.urc_rx_buffer_.view ++ (chunks u (t :: ts) m).flatten =
        seen u t m ++ (chunks u ts (poll_urc u t m).2).flatten := by
      simp [chunks, seen]
    dsimp only
    constructor
    · rw [polls_cons, hout, hl, hs, splitter_append (seen u t m)]
      rfl
    · rw [polls_state, hbuf, hs, lfRest_append (seen u t m)]

/-! ## Bursts -/

/-- The lines of `all` are the returned ones, and behind them those that are still in the buffer. -/
def Shares (all returned left : List Str) : Prop := all = returned ++ left

/-- A poll that reads the port empties the buffer of whole lines, so it loses none exactly when it can return them all.
Each is returned to the byte exactly when it is not longer than a line may be. -/
theorem poll_loses_no_line_iff (t : Nat) (m : ModemController σ) (hfit : (seen u t m).length ≤ URC_RX_BUFFER_MAX) :
    ∃ urcs, (poll_urc u t m).1 = some urcs ∧
      let after := (poll_urc u t m).2.urc_rx_buffer_.view
      (Shares (splitter (seen u t m)) (urcs.map (·.view)) (splitter after) ↔
        polled u t m = none ∨ (urcLines (seen u t m)).length ≤ MAX_URC_LINES) ∧
      (Shares (urcLines (seen u t m)) (urcs.map (·.view)) (urcLines after) ↔
        polled u t m = none ∨ (urcLines (seen u t m)).length ≤ MAX_URC_LINES ∧
          ∀ line ∈ urcLines (seen u t m), line.length ≤ URC_LINE_MAX) := by
  refine ⟨_, (poll_urc_spec u t m).1, ?_⟩
  rw [(poll_urc_spec u t m).2]
  by_cases hp : polled u t m = none
  · have hs : seen u t m = m.urc_rx_buffer_.view := by simp [seen, hp]
    simp [Shares, hp, hs, afterPoll]
  · obtain ⟨hl, hr⟩ := poll_reads u hfit hp
    have hn : urcLines (lfRest (seen u t m)) = [] := by
      rw [urcLines, lfLines_eq_nil.mpr (not_mem_lfRest _)]
      rfl
    simp only [hl, hr, splitter_nil (not_mem_lfRest _), hn, hp, false_or, Shares, List.append_nil]
    rw [splitter_eq]
    generalize urcLines (seen u t m) = all
    constructor
    · rw [eq_comm, List.take_eq_self_iff, List.length_map]
    · constructor
      · intro h
        have hlen := congrArg List.length h
        simp only [List.length_take, List.length_map] at hlen
        refine ⟨by omega, fun line hm => ?_⟩
        rw [h] at hm
        obtain ⟨l, -, rfl⟩ := List.mem_map.mp (List.mem_of_mem_take hm)
        exact List.length_take_le _ _
      · rintro ⟨h8, hlong⟩
        rw [map_take_eq_self hlong, List.take_of_length_le h8]

end

/-- Three chunks: the first cut is within a word, the second between CR and LF. -/
def pieces : ModemController (List Str) where
  uart_ := ["+CEREG: 1\n+CG".toList, "EV: NW DETACH\r".toList, "\nSRI".toList]

theorem polls_split_pieces :
    (polls scripted [0, 0, 0] pieces).1 = some ["+CEREG: 1".toList, "+CGEV: NW DETACH".toList] ∧
      (polls scripted [0, 0, 0] pieces).2.urc_rx_buffer_.view = "SRI".toList := by
  have hroomy : Roomy scripted [0, 0, 0] pieces :=
    ⟨by decide +kernel, by decide +kernel, by decide +kernel, by decide +kernel, by decide +kernel, by decide +kernel,
      trivial⟩
  obtain ⟨hout, hbuf⟩ := polls_split scripted [0, 0, 0] pieces (by decide) hroomy
  exact ⟨hout.trans (by decide +kernel), hbuf.trans (by decide +kernel)⟩

theorem poll_loses_no_line_iff_two :
    ∃ urcs, (poll_urc scripted 0 { uart_ := ["RING\nSRING: 1\n".toList] }).1 = some urcs ∧
      ["RING".toList, "SRING: 1".toList] = urcs.map (·.view) := by
  obtain ⟨urcs, h, -, hall⟩ := poll_loses_no_line_iff scripted 0 { uart_ := ["RING\nSRING: 1\n".toList] }
    (by decide +kernel)
  refine ⟨urcs, h, ?_⟩
  have hs := hall.mpr (.inr (by decide +kernel))
  have hleft : urcLines (poll_urc scripted 0 { uart_ := ["RING\nSRING: 1\n".toList] }).2.urc_rx_buffer_.view = [] := by
    decide +kernel
  rw [Shares, hleft, List.append_nil] at hs
  exact Eq.trans (by decide +kernel) hs

/-- Nine reports in one chunk. -/
def burst : Str := (List.replicate 9 "RING\r\n".toList).flatten

/-- Eight of the lines are returned, and none is left for the next poll. -/
theorem ninth_line_lost :
    (poll_urc scripted 0 { uart_ := [burst] }).1.map (·.map (·.view)) = some (List.replicate 8 "RING".toList) ∧
      (poll_urc scripted 0 { uart_ := [burst] }).2.urc_rx_buffer_.view = [] ∧
      urcLines burst = List.replicate 9 "RING".toList := by
  decide +kernel

end LteModem.Splitter
