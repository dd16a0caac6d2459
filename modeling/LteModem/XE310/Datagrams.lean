import LteModem.Controller.Chunking
import LteModem.XE310.Replies

/-!
# Received datagrams

The payload of `AT#SRECV` passes through the line parser of the AT answers, which leaves out empty lines
and takes result codes for its own.
-/

open Strings

namespace LteModem.Replies

/-- What `send_raw` leaves a query of an answer that came in one read. -/
def answerOf (response : AtResponse) : Answer :=
  ⟨Chunking.toModemStatus response.status, response.body.view⟩

def srecvHeader (conn_id : UInt8) (length : Nat) : Str :=
  "#SRECV: ".toList ++ (decimal conn_id.toNat ++ ',' :: decimal length)

def srecvAnswer (conn_id : UInt8) (p : Str) : Str :=
  crlf ++ srecvHeader conn_id p.length ++ crlf ++ p ++ crlf ++ crlf ++ "OK".toList ++ crlf

/-! ## The header -/

theorem not_mem_srecvHeader (conn_id : UInt8) (length : Nat) {c : Char} (hc : isDigit c = false)
    (ht : c ∉ "#SRECV: ,".toList) : c ∉ srecvHeader conn_id length := by
  have hd (n : Nat) : c ∉ decimal n := not_mem_decimal hc
  unfold srecvHeader
  rw [List.mem_append, List.mem_append, List.mem_cons]
  simp only [hd, false_or, or_false]
  simp at ht ⊢
  tauto

theorem length_srecvHeader (conn_id : UInt8) (length : Nat) (h : length ≤ 1500) :
    (srecvHeader conn_id length).length ≤ 16 := by
  have hc : (decimal conn_id.toNat).length ≤ 3 := length_decimal_le (by omega) (by have := conn_id.toNat_lt; omega)
  have hl : (decimal length).length ≤ 4 := length_decimal_le (by omega) (by omega)
  have ht : "#SRECV: ".toList.length = 8 := rfl
  unfold srecvHeader
  rw [List.length_append, List.length_append, List.length_cons]
  omega

theorem isBodyLine_srecvHeader (conn_id : UInt8) (length : Nat) :
    isBodyLine (srecvHeader conn_id length) = true := by
  unfold srecvHeader
  generalize decimal conn_id.toNat ++ ',' :: decimal length = s
  simp [isBodyLine, finalResult]

/-! ## The answer -/

theorem lines_srecvAnswer (conn_id : UInt8) (p : Str) :
    lines (srecvAnswer conn_id p) =
      [[], srecvHeader conn_id p.length] ++ lines p ++ [[], "OK".toList, []] := by
  have h0 : lines [] = [[]] := rfl
  have hok : lines "OK".toList = ["OK".toList] := lines_line (by decide)
  have hh : lines (srecvHeader conn_id p.length) = [srecvHeader conn_id p.length] :=
    lines_line (not_mem_srecvHeader _ _ rfl (by decide))
  have he : srecvAnswer conn_id p = [] ++ crlf ++ (srecvHeader conn_id p.length ++ crlf ++ (p ++ crlf ++
      ([] ++ crlf ++ ("OK".toList ++ crlf ++ [])))) := by simp [srecvAnswer]
  rw [he]
  simp only [lines_append_crlf, hh, h0, hok]
  simp

theorem srecvAnswer_ne_nil (conn_id : UInt8) (p : Str) : srecvAnswer conn_id p ≠ [] := by
  simp [srecvAnswer, crlf]

theorem srecvAnswer_status (conn_id : UInt8) (p : Str) :
    (parse_response (srecvAnswer conn_id p)).status = .ok := by
  have hok : ["OK".toList, []].filterMap finalResult = [.ok] := by decide
  rw [parse_response_status _ (srecvAnswer_ne_nil conn_id p), finalResults, lines_srecvAnswer,
    List.filterMap_append, List.filterMap_cons_none finalResult_nil, hok, List.getLast?_concat]
  rfl

theorem srecvAnswer_body (conn_id : UInt8) (p : Str) (h : p.length ≤ 1500) :
    (parse_response (srecvAnswer conn_id p)).body.view =
      joinLines (srecvHeader conn_id p.length :: (lines p).filter isBodyLine) := by
  have hbody : bodyLines (srecvAnswer conn_id p) =
      srecvHeader conn_id p.length :: (lines p).filter isBodyLine := by
    have hend : [[], "OK".toList, []].filter isBodyLine = [] := by decide
    have hnil : isBodyLine [] = false := by decide
    rw [bodyLines, lines_srecvAnswer, List.filter_append, hend]
    simp [isBodyLine_srecvHeader, hnil]
  rw [parse_response_body _ (srecvAnswer_ne_nil conn_id p), hbody, List.take_of_length_le]
  have hs := length_joinLines_le ((List.filter_sublist (p := isBodyLine) (l := lines p)).cons_cons
    (srecvHeader conn_id p.length))
  have hj : joinLines (srecvHeader conn_id p.length :: lines p) =
      srecvHeader conn_id p.length ++ crlf ++ p := by
    obtain ⟨l, ls, hl⟩ := List.exists_cons_of_ne_nil (lines_ne_nil p)
    rw [hl, joinLines, ← hl, joinLines_lines]
  have hh := length_srecvHeader conn_id p.length h
  have hc : crlf.length = 2 := rfl
  simp only [hj, List.length_append, hc] at hs
  unfold AT_RESPONSE_MAX
  omega

/-- The payload comes out of the line parser without its empty lines and its result codes. -/
theorem udp_receive_srecv (conn_id : UInt8) (p data : Str) (h : p.length ≤ 1500) :
    udp_receive (answerOf (parse_response (srecvAnswer conn_id p))) data =
      (.ok, joinLines ((lines p).filter isBodyLine)) := by
  have hlf : '\n' ∉ srecvHeader conn_id p.length := not_mem_srecvHeader _ _ rfl (by decide)
  simp only [udp_receive, answerOf, srecvAnswer_status, srecvAnswer_body conn_id p h, Chunking.toModemStatus,
    if_true, ne_eq, not_true_eq_false, if_false]
  rcases hf : (lines p).filter isBodyLine with _ | ⟨l, ls⟩
  · simp only [joinLines, cut_none hlf]
  · have hlen := length_joinLines_le (List.filter_sublist (p := isBodyLine) (l := lines p))
    rw [joinLines_lines, hf] at hlen
    have hcut : cut '\n' (joinLines (srecvHeader conn_id p.length :: l :: ls)) =
        (srecvHeader conn_id p.length ++ ['\r'], some (joinLines (l :: ls))) := by
      have he : joinLines (srecvHeader conn_id p.length :: l :: ls) =
          (srecvHeader conn_id p.length ++ ['\r']) ++ '\n' :: joinLines (l :: ls) := by
        simp [joinLines, crlf]
      rw [he, cut_append]
      simp [hlf]
    simp only [hcut, List.take_of_length_le (hlen.trans h)]

/-! ## Transparency -/

/-- A datagram is received as it was sent exactly when no line of it is empty or a result code. -/
theorem datagram_transparent_iff (conn_id : UInt8) (p data : Str) (hp : 1 ≤ p.length)
    (h : p.length ≤ 1500) :
    udp_receive (answerOf (parse_response (srecvAnswer conn_id p))) data = (.ok, p) ↔
      ∀ l ∈ lines p, isBodyLine l = true := by
  rw [udp_receive_srecv conn_id p data h, Prod.mk.injEq]
  simp only [true_and]
  by_cases hn : (lines p).filter isBodyLine = []
  · constructor
    · intro he
      rw [hn, joinLines] at he
      rw [← he] at hp
      cases hp
    · intro ha
      rw [List.filter_eq_self.mpr ha] at hn
      exact absurd hn (lines_ne_nil p)
  · rw [← List.filter_eq_self, ← joinLines_sublist List.filter_sublist hn, joinLines_lines]

theorem datagram_transparent_bytes :
    udp_receive (answerOf (parse_response (srecvAnswer 1 "a\n\rb".toList))) [] = (.ok, "a\n\rb".toList) :=
  (datagram_transparent_iff 1 _ [] (by decide) (by decide)).mpr (by decide)

theorem datagram_lost :
    ¬ ∀ (conn_id : UInt8) (p data : Str), 1 ≤ p.length → p.length ≤ 1500 →
      udp_receive (answerOf (parse_response (srecvAnswer conn_id p))) data = (.ok, p) := by
  intro h
  have hs := h 1 "OK".toList [] (by decide) (by decide)
  revert hs
  decide

end LteModem.Replies
