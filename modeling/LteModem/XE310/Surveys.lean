import LteModem.Lib.Labels
import LteModem.Lib.Unfiltered
import LteModem.XE310.Queries
import Mathlib.Data.List.Forall2

/-!
# The two surveys

`AT#CSURVC` answers with lines of values alone, which are told apart by their number, and `AT#CSURV` with lines of
labelled values.
-/

open Strings

namespace LteModem.Replies

/-! ## Lines without labels -/

/-- Neither empty nor one of the two lines about the survey itself. -/
def isCellLine (line : Str) : Bool :=
  ¬ (line = [] ∨ line.take 22 = "Network survey started".toList) ∧ ¬ "Network survey ended".toList.isPrefixOf line

/-- The numbers of fields that `parse_surv_line` has a case for. It counts no more than ten. -/
def recognised (line : Str) : Bool :=
  let count := (fields 10 line).length
  count = 2 ∨ count = 7 ∨ 9 ≤ count

def cellLines (body : Str) : List Str := (lines body).filter isCellLine

theorem parse_surv_line_default {L : FloatLib} {line : Str} (h : recognised line = false) :
    parse_surv_line L line = {} := by
  simp only [recognised, decide_eq_false_iff_not, not_or] at h
  obtain ⟨h2, h7, h9⟩ := h
  unfold parse_surv_line
  simp only [List.length_map]
  rw [if_neg h2, if_neg h7, if_neg (by omega), if_neg h9]

theorem surveyLine_cells {L : FloatLib} (r : NetworkSurveyResult L) (line : Str) : (surveyLine L r line).cells =
    if isCellLine line then ModemController.push_back 32 r.cells (parse_surv_line L line) else r.cells := by
  unfold surveyLine isCellLine
  dsimp only
  split_ifs <;> simp_all

theorem survey_cells {L : FloatLib} (ls : List Str) {r : NetworkSurveyResult L} (hr : r.cells.length ≤ 32) :
    (ls.foldl (surveyLine L) r).cells = (r.cells ++ (ls.filter isCellLine).map (parse_surv_line L)).take 32 := by
  induction ls generalizing r with
  | nil =>
    rw [List.filter_nil, List.map_nil, List.append_nil, List.take_of_length_le hr]
    rfl
  | cons line ls ih =>
    have hcells := surveyLine_cells r line
    have hline : (surveyLine L r line).cells.length ≤ 32 := by
      rw [hcells, ModemController.push_back]
      split_ifs with h1 h2
      · exact hr
      · rw [List.length_append, List.length_singleton]
        omega
      · exact hr
    rw [List.foldl_cons, ih hline, hcells]
    by_cases hl : isCellLine line = true
    · rw [if_pos hl, List.filter_cons_of_pos hl, List.map_cons, ModemController.push_back]
      split_ifs with hfull
      · -- A full vector takes no more cells.
        rw [List.take_append_of_le_length hfull, List.take_append_of_le_length hfull]
      · rw [List.append_assoc, List.singleton_append]
    · rw [if_neg hl, List.filter_cons_of_neg hl]

/-- What the survey is meant to report. -/
def reportedCells (L : FloatLib) (body : Str) : List (SurvCell L) :=
  (((cellLines body).filter recognised).map (parse_surv_line L)).take 32

/-- Every line is recognised, or all cells that are reported from the place of the first one that is not are the
default cell, up to the last of the 32. -/
def NoPhantom (L : FloatLib) (body : Str) : Prop :=
  (∀ line ∈ cellLines body, recognised line = true) ∨
    (reportedCells L body).drop ((cellLines body).takeWhile recognised).length =
      List.replicate (32 - ((cellLines body).takeWhile recognised).length) {}

theorem network_survey_ok (L : FloatLib) (body : Str) (result : NetworkSurveyResult L) :
    network_survey L ⟨.ok, body⟩ result = (.ok, (lines body).foldl (surveyLine L) {}) := if_neg (by simp)

/-- A line of another shape is a cell as well, and only a survey full of default cells hides it. -/
theorem survey_iff (L : FloatLib) (a : Answer) (result : NetworkSurveyResult L) :
    (∀ r, network_survey L a result = (.ok, r) → r.cells = reportedCells L a.body) ↔
      (a.status = .ok → NoPhantom L a.body) := by
  obtain ⟨status, body⟩ := a
  by_cases hs : status = .ok
  · subst hs
    have hempty : ({} : NetworkSurveyResult L).cells.length ≤ 32 := Nat.zero_le 32
    have hcells := survey_cells (lines body) hempty
    rw [List.nil_append] at hcells
    have hiff : _ ↔ NoPhantom L body :=
      Unfiltered.take_map_eq_iff (fun _ h => parse_surv_line_default h) (cellLines body) 32
    constructor
    · intro h _
      exact hiff.mp (hcells.symm.trans (h _ (network_survey_ok L body result)))
    · intro h r hr
      rw [network_survey_ok, Prod.mk.injEq] at hr
      rw [← hr.2]
      exact hcells.trans (hiff.mpr (h rfl))
  · have hr : network_survey L ⟨status, body⟩ result = (status, result) := if_pos hs
    constructor
    · exact fun _ h => absurd h hs
    · intro _ r h
      rw [hr] at h
      exact absurd (Prod.mk.inj h).1 hs

/-- A report on the registration between the lines of the survey becomes a cell. -/
theorem survey_phantom :
    let L : FloatLib := ⟨Int, 0, atoi, id⟩
    let body := "Network survey started ...\r\n+CEREG: 1\r\n10,-85\r\nNetwork survey ended".toList
    let r := (network_survey L ⟨.ok, body⟩ {}).2
    network_survey L ⟨.ok, body⟩ {} = (.ok, r) ∧ (reportedCells L body).map (·.type) = [.cell_2g_non_bcch] ∧
      r.cells.map (·.type) = [.cell_4g, .cell_2g_non_bcch] ∧ r.cells ≠ reportedCells L body := by
  intro L body r
  have hreported : (reportedCells L body).map (·.type) = [.cell_2g_non_bcch] := by decide +kernel
  have hcells : r.cells.map (·.type) = [.cell_4g, .cell_2g_non_bcch] := by decide +kernel
  refine ⟨rfl, hreported, hcells, fun h => ?_⟩
  rw [h, hreported] at hcells
  cases hcells

/-! ## Lines with labels -/

/-- A value that every buffer of the parser holds. -/
structure Value (v : Str) : Prop where
  word : Word v
  no_nul : '\x00' ∉ v
  no_line_feed : '\n' ∉ v
  length : v.length ≤ 31

theorem Value.of {v : Str} (hn : v ≠ []) (hl : v.length ≤ 31) (p : Char → Bool) (hp : ∀ c ∈ v, p c = true)
    (hset : [' ', ':', '\x00', '\n'].any p = false) : Value v := by
  have hout {c : Char} (hc : c ∈ [' ', ':', '\x00', '\n']) : c ∉ v := fun hv =>
    Bool.eq_false_iff.mp hset (List.any_eq_true.mpr ⟨c, hc, hp c hv⟩)
  exact ⟨⟨hn, hout (by simp), hout (by simp)⟩, hout (by simp), hout (by simp), hl⟩

theorem value_hex {n : Nat} {s : Str} (h : HexText n s) : Value s :=
  .of h.ne_nil (h.length.trans (by decide)) (fun c => (hexVal c).isSome) h.digits rfl

theorem length_count {n : Nat} (h : n < 2 ^ 31) : (decimal n).length ≤ 10 := length_decimal_le (by decide) (by omega)

theorem value_decimal {n : Nat} (h : n < 2 ^ 31) : Value (decimal n) :=
  .of (decimal_ne_nil n) ((length_count h).trans (by decide)) isDigit (fun _ => isDigit_of_mem_decimal) rfl

theorem value_decimalInt {v : Int} (h : -2 ^ 31 ≤ v) (h' : v < 2 ^ 31) : Value (decimalInt v) := by
  cases v with
  | ofNat n => exact value_decimal (by simp only [Int.ofNat_eq_natCast] at h'; omega)
  | negSucc n =>
    have hl : (decimal (n + 1)).length ≤ 10 := length_decimal_le (by decide) (by omega)
    refine .of (List.cons_ne_nil _ _) (Nat.succ_le_succ (hl.trans (by decide))) (fun c => isDigit c || c = '-') ?_ rfl
    intro c hc
    rcases List.mem_cons.mp hc with rfl | hc
    · rfl
    · simp [isDigit_of_mem_decimal hc]

/-- `earfcn: <E> rxLev: <R> mcc: <M> mnc: <N> cellId: <C> tac: <T> cellIdentity: <I>` -/
def scanFields (e r m n c t i : Str) : List (Str × Str) :=
  [("earfcn".toList, e), ("rxLev".toList, r), ("mcc".toList, m), ("mnc".toList, n), ("cellId".toList, c),
    ("tac".toList, t), ("cellIdentity".toList, i)]

/-- The two levels are decimal, the rest is hexadecimal, in letters of either kind and with or without zeros in
front. -/
def Renders (cell : CsurvCell) (line : Str) : Prop :=
  ∃ m n c t i, HexText cell.mcc m ∧ HexText cell.mnc n ∧ HexText cell.cell_id c ∧ HexText cell.tac t ∧
    HexText cell.cell_identity i ∧
    line = labelled (scanFields (decimalInt cell.earfcn) (decimalInt cell.rx_lev) m n c t i)

/-- The fields have their widths. -/
structure InRange (cell : CsurvCell) : Prop where
  earfcn : -2 ^ 31 ≤ cell.earfcn ∧ cell.earfcn < 2 ^ 31
  rx_lev : -2 ^ 31 ≤ cell.rx_lev ∧ cell.rx_lev < 2 ^ 31
  mcc : cell.mcc < 2 ^ 16
  mnc : cell.mnc < 2 ^ 16
  cell_id : cell.cell_id < 2 ^ 32
  tac : cell.tac < 2 ^ 32
  cell_identity : cell.cell_identity < 2 ^ 64

theorem renders_toDigits {cell : CsurvCell} (hr : InRange cell) : Renders cell (labelled (scanFields
    (decimalInt cell.earfcn) (decimalInt cell.rx_lev) (Nat.toDigits 16 cell.mcc) (Nat.toDigits 16 cell.mnc)
      (Nat.toDigits 16 cell.cell_id) (Nat.toDigits 16 cell.tac) (Nat.toDigits 16 cell.cell_identity))) := by
  have hmcc := hr.mcc
  have hmnc := hr.mnc
  have hcell_id := hr.cell_id
  have htac := hr.tac
  exact ⟨_, _, _, _, _, hexText_toDigits (by omega), hexText_toDigits (by omega), hexText_toDigits (by omega),
    hexText_toDigits (by omega), hexText_toDigits hr.cell_identity, rfl⟩

theorem extract_value_eq (line : Str) (label : String) : extract_value line label = wordAfter label.toList line := by
  unfold extract_value wordAfter word
  cases find label.toList line with
  | none => rfl
  | some p =>
    exact congrArg (fun n => ((line.drop (p + n)).dropWhile (· = ' ')).takeWhile (· ≠ ' ')) String.length_toList.symm

theorem extract_labelled {label : String} (d : Str) (hl : label.toList = d ++ [':']) (hd : ':' ∉ d) (hb : ' ' ∉ d)
    {fields : List (Str × Str)} (hf : ∀ f ∈ fields, ':' ∉ f.1 ∧ Word f.2) {v : Str}
    (hv : (fields.find? fun f => d.isSuffixOf f.1).map Prod.snd = some v) :
    extract_value (labelled fields) label = v := by
  rw [extract_value_eq, hl]
  have h := wordAfter_labelled hd hb fields hf (List.not_mem_nil : ':' ∉ ([] : Str)) fun name => by rw [List.nil_append]
  rw [List.nil_append, hv] at h
  exact h

theorem find_of_extract {line : Str} {label : String} (h : extract_value line label ≠ []) :
    (find label.toList line).isSome := by
  unfold extract_value at h
  split at h
  · exact absurd rfl h
  · next hp => rw [hp]; rfl

theorem cstr_value {v : Str} (h : Value v) {n : Nat} (hn : v.length ≤ n) : cstr (v.take n) = v := by
  rw [List.take_of_length_le hn]
  exact cstr_eq_self_iff.mpr h.no_nul

theorem scanFields_words {e r m n c t i : Str} (he : Value e) (hr : Value r) (hm : Value m) (hn : Value n)
    (hc : Value c) (ht : Value t) (hi : Value i) : ∀ f ∈ scanFields e r m n c t i, ':' ∉ f.1 ∧ Word f.2 := by
  simp only [scanFields, List.forall_mem_cons]
  exact ⟨⟨by decide, he.word⟩, ⟨by decide, hr.word⟩, ⟨by decide, hm.word⟩, ⟨by decide, hn.word⟩, ⟨by decide, hc.word⟩,
    ⟨by decide, ht.word⟩, ⟨by decide, hi.word⟩, fun _ h => nomatch h⟩

theorem cellOf_rendered {cell : CsurvCell} {line : Str} (hr : InRange cell) (h : Renders cell line) :
    cellOf line = cell ∧ extract_value line "earfcn:" ≠ [] := by
  obtain ⟨m, n, c, t, i, hm, hn, hc, ht, hi, rfl⟩ := h
  have he := value_decimalInt hr.earfcn.1 hr.earfcn.2
  have hrx := value_decimalInt hr.rx_lev.1 hr.rx_lev.2
  have hf := scanFields_words he hrx (value_hex hm) (value_hex hn) (value_hex hc) (value_hex ht) (value_hex hi)
  have earfcn := extract_labelled "earfcn".toList (rfl : "earfcn:".toList = _) (by decide) (by decide) hf rfl
  have rxLev := extract_labelled "rxLev".toList (rfl : "rxLev:".toList = _) (by decide) (by decide) hf rfl
  have mcc := extract_labelled "mcc".toList (rfl : "mcc:".toList = _) (by decide) (by decide) hf rfl
  have mnc := extract_labelled "mnc".toList (rfl : "mnc:".toList = _) (by decide) (by decide) hf rfl
  have cellId := extract_labelled "cellId".toList (rfl : "cellId:".toList = _) (by decide) (by decide) hf rfl
  have tac := extract_labelled "tac".toList (rfl : "tac:".toList = _) (by decide) (by decide) hf rfl
  have identity :=
    extract_labelled "cellIdentity".toList (rfl : "cellIdentity:".toList = _) (by decide) (by decide) hf rfl
  have hex {n : Nat} {s : Str} (h : HexText n s) (hn : n < 2 ^ 64) : strtoull16 (cstr (s.take 31)) = n := by
    rw [cstr_value (value_hex h) (value_hex h).length, strtoull16_hex h hn]
  have hmcc := hr.mcc
  have hmnc := hr.mnc
  have hcell_id := hr.cell_id
  have htac := hr.tac
  constructor
  · unfold cellOf
    simp only [earfcn, rxLev, mcc, mnc, cellId, tac, identity, cstr_value he he.length, cstr_value hrx hrx.length,
      atoi_decimalInt hr.earfcn.1 hr.earfcn.2, atoi_decimalInt hr.rx_lev.1 hr.rx_lev.2, hex hm (by omega),
      hex hn (by omega), hex hc (by omega), hex ht (by omega), hex hi hr.cell_identity, Nat.mod_eq_of_lt hr.mcc,
      Nat.mod_eq_of_lt hr.mnc, Nat.mod_eq_of_lt hr.cell_id, Nat.mod_eq_of_lt hr.tac]
  · rw [earfcn]
    exact he.word.ne_nil

theorem rendered_line {cell : CsurvCell} {line : Str} (hr : InRange cell) (h : Renders cell line) :
    '\n' ∉ line ∧ ∃ rest, line = 'e' :: rest := by
  obtain ⟨m, n, c, t, i, hm, hn, hc, ht, hi, rfl⟩ := h
  have he := value_decimalInt hr.earfcn.1 hr.earfcn.2
  have hrx := value_decimalInt hr.rx_lev.1 hr.rx_lev.2
  refine ⟨not_mem_labelled (by decide) (by decide) ?_, _, rfl⟩
  simp only [scanFields, List.forall_mem_cons]
  exact ⟨⟨by decide, he.no_line_feed⟩, ⟨by decide, hrx.no_line_feed⟩, ⟨by decide, (value_hex hm).no_line_feed⟩,
    ⟨by decide, (value_hex hn).no_line_feed⟩, ⟨by decide, (value_hex hc).no_line_feed⟩,
    ⟨by decide, (value_hex ht).no_line_feed⟩, ⟨by decide, (value_hex hi).no_line_feed⟩, fun _ h => nomatch h⟩

theorem scanLine_rendered {cell : CsurvCell} {line : Str} (hr : InRange cell) (h : Renders cell line) {r : CsurvResult}
    (hroom : r.cells.length < 32) : scanLine r line = { r with cells := r.cells ++ [cell] } := by
  obtain ⟨hcell, hearfcn⟩ := cellOf_rendered hr h
  obtain ⟨-, rest, rfl⟩ := rendered_line hr h
  have hstart : ¬ ('e' :: rest = [] ∨ ('e' :: rest).take 22 = "Network survey started".toList) := by
    rintro (h | h)
    · cases h
    · have hhead : some 'e' = some 'N' := congrArg List.head? h
      cases hhead
  have hend : ¬ "Network survey ended".toList.isPrefixOf ('e' :: rest) = true := by
    rw [show "Network survey ended".toList.isPrefixOf ('e' :: rest) = false from rfl]
    exact Bool.false_ne_true
  rw [scanLine, if_neg hstart, if_neg hend, if_neg hearfcn, hcell, ModemController.push_back, if_neg (by omega)]

theorem scan_rendered {cells : List CsurvCell} {ls : List Str} (h : List.Forall₂ Renders cells ls)
    (hr : ∀ cell ∈ cells, InRange cell) {r : CsurvResult} (hroom : r.cells.length + cells.length ≤ 32) :
    ls.foldl scanLine r = { r with cells := r.cells ++ cells } := by
  induction h generalizing r with
  | nil => rw [List.append_nil]; rfl
  | @cons cell line cells ls hline _ ih =>
    rw [List.length_cons] at hroom
    obtain ⟨hcell, hcells⟩ := List.forall_mem_cons.mp hr
    rw [List.foldl_cons, scanLine_rendered hcell hline (by omega), ih hcells (by simp; omega), List.append_assoc,
      List.singleton_append]

theorem rendered_lines {cells : List CsurvCell} {ls : List Str} (h : List.Forall₂ Renders cells ls)
    (hr : ∀ cell ∈ cells, InRange cell) : ∀ line ∈ ls, '\n' ∉ line := by
  induction h with
  | nil => exact fun _ h => nomatch h
  | cons hline _ ih =>
    obtain ⟨hcell, hcells⟩ := List.forall_mem_cons.mp hr
    exact List.forall_mem_cons.mpr ⟨(rendered_line hcell hline).1, ih hcells⟩

def summaryFields (carriers bcch : Nat) : List (Str × Str) :=
  [("Network survey ended (Carrier".toList, decimal carriers), ("BCCh".toList, decimal bcch ++ [')'])]

/-- `Network survey ended (Carrier: <A> BCCh: <B>)`. -/
def summaryLine (carriers bcch : Nat) : Str := labelled (summaryFields carriers bcch)

example : summaryLine 12 3 = "Network survey ended (Carrier: 12 BCCh: 3)".toList := by decide

theorem value_closed {n : Nat} (h : n < 2 ^ 31) : Value (decimal n ++ [')']) := by
  have hl := length_count h
  refine .of (by simp) (by rw [List.length_append, List.length_singleton]; omega) (fun c => isDigit c || c = ')') ?_ rfl
  intro c hc
  rcases List.mem_append.mp hc with hc | hc
  · simp [isDigit_of_mem_decimal hc]
  · simp [List.mem_singleton.mp hc]

theorem extract_summary {carriers bcch : Nat} (hc : carriers < 2 ^ 31) (hb : bcch < 2 ^ 31) :
    extract_value (summaryLine carriers bcch) "Carrier:" = decimal carriers ∧
      extract_value (summaryLine carriers bcch) "BCCh:" = decimal bcch ++ [')'] := by
  have hf : ∀ f ∈ summaryFields carriers bcch, ':' ∉ f.1 ∧ Word f.2 := by
    simp only [summaryFields, List.forall_mem_cons]
    exact ⟨⟨by decide, (value_decimal hc).word⟩, ⟨by decide, (value_closed hb).word⟩, fun _ h => nomatch h⟩
  exact ⟨extract_labelled "Carrier".toList rfl (by decide) (by decide) hf rfl,
    extract_labelled "BCCh".toList rfl (by decide) (by decide) hf rfl⟩

theorem scanLine_summary {carriers bcch : Nat} (hc : carriers < 2 ^ 31) (hb : bcch < 2 ^ 31) (r : CsurvResult) :
    scanLine r (summaryLine carriers bcch) = ⟨r.cells, true, carriers, bcch⟩ := by
  have hlc := length_count hc
  have hlb := length_count hb
  have vc := value_decimal hc
  have vb := value_closed hb
  obtain ⟨carrier, bcchs⟩ := extract_summary hc hb
  have hlabels : (find "Carrier:".toList (summaryLine carriers bcch)).isSome ∧
      (find "BCCh:".toList (summaryLine carriers bcch)).isSome := by
    refine ⟨find_of_extract ?_, find_of_extract ?_⟩
    · rw [carrier]
      exact vc.word.ne_nil
    · rw [bcchs]
      exact vb.word.ne_nil
  have hstart : ¬ (summaryLine carriers bcch = [] ∨
      (summaryLine carriers bcch).take 22 = "Network survey started".toList) := by
    rintro (h | h)
    · cases h
    · have hletter : some 'e' = some 's' := congrArg (·[15]?) h
      cases hletter
  have hend : "Network survey ended".toList.isPrefixOf (summaryLine carriers bcch) = true := rfl
  have hcount : atoi (cstr ((decimal carriers).take 15)) = carriers := by
    rw [cstr_value vc (by omega), atoi_decimal hc]
  have hcount' : atoi (cstr ((decimal bcch ++ [')']).take 15)) = bcch := by
    rw [cstr_value vb (by rw [List.length_append, List.length_singleton]; omega)]
    exact atoi_decimal_append hb (by simp [isDigit])
  rw [scanLine, if_neg hstart, if_pos hend, summaryOf]
  dsimp only
  rw [if_pos hlabels, carrier, bcchs, hcount, hcount']

theorem scan_round_trip {cells : List CsurvCell} (hr : ∀ cell ∈ cells, InRange cell) (hn : cells.length ≤ 32)
    {started : Str} (hs : "Network survey started".toList <+: started) (hline : ¬ crlf <:+: started) {ls : List Str}
    (h : List.Forall₂ Renders cells ls) {carriers bcch : Nat} (hc : carriers < 2 ^ 31) (hb : bcch < 2 ^ 31)
    (result : CsurvResult) :
    scan_networks ⟨.ok, joinLines (started :: ls ++ [summaryLine carriers bcch])⟩ result =
      (.ok, ⟨cells, true, carriers, bcch⟩) := by
  have hsummary : lines (summaryLine carriers bcch) = [summaryLine carriers bcch] := by
    refine lines_line ?_
    have hd (n : Nat) : '\n' ∉ decimal n := not_mem_decimal rfl
    refine not_mem_labelled (by decide) (by decide) ?_
    simp only [summaryFields, List.forall_mem_cons]
    exact ⟨⟨by decide, hd carriers⟩, ⟨by decide, by simp [hd]⟩, fun _ h => nomatch h⟩
  have hlines : lines (joinLines (started :: ls ++ [summaryLine carriers bcch])) =
      started :: ls ++ [summaryLine carriers bcch] := by
    refine lines_joinLines _ (by simp) fun line hl => ?_
    rcases List.mem_append.mp hl with hl | hl
    · rcases List.mem_cons.mp hl with rfl | hl
      · exact lines_eq_singleton_iff.mpr hline
      · exact lines_line (rendered_lines h hr line hl)
    · rw [List.mem_singleton.mp hl]
      exact hsummary
  have hfirst : scanLine {} started = {} := by
    obtain ⟨rest, rfl⟩ := hs
    exact if_pos (.inr (List.take_left' rfl))
  have hcells := scan_rendered h hr (r := {}) (by simpa using hn)
  rw [scan_networks, if_neg (by simp), hlines, List.foldl_append, List.foldl_cons, List.foldl_nil, List.foldl_cons,
    hfirst, hcells, scanLine_summary hc hb, List.nil_append]

def bottomCell : CsurvCell := ⟨-2 ^ 31, -2 ^ 31, 0, 0, 0, 0x1a, 0⟩

def topCell : CsurvCell := ⟨2 ^ 31 - 1, -104, 2 ^ 16 - 1, 2 ^ 16 - 1, 2 ^ 32 - 1, 2 ^ 32 - 1, 2 ^ 64 - 1⟩

def bottomLine : Str :=
  "earfcn: -2147483648 rxLev: -2147483648 mcc: 0 mnc: 00 cellId: 0 tac: 001A cellIdentity: 0".toList

def topLine : Str :=
  "earfcn: 2147483647 rxLev: -104 mcc: FFFF mnc: ffff cellId: ffffffff tac: ffffffff cellIdentity: ffffffffffffffff".toList

theorem renders_bottom : Renders bottomCell bottomLine :=
  ⟨"0".toList, "00".toList, "0".toList, "001A".toList, "0".toList, by decide, by decide, by decide, by decide,
    by decide, by decide⟩

theorem renders_top : Renders topCell topLine :=
  ⟨"FFFF".toList, "ffff".toList, "ffffffff".toList, "ffffffff".toList, "ffffffffffffffff".toList, by decide, by decide,
    by decide, by decide, by decide, by decide⟩

theorem scan_round_trip_bounds :
    scan_networks ⟨.ok, joinLines ["Network survey started ...".toList, bottomLine, topLine, summaryLine 2 1]⟩ {} =
      (.ok, ⟨[bottomCell, topCell], true, 2, 1⟩) := by
  have hbottom : InRange bottomCell :=
    ⟨by decide, by decide, by decide, by decide, by decide, by decide, by decide⟩
  have htop : InRange topCell := ⟨by decide, by decide, by decide, by decide, by decide, by decide, by decide⟩
  have hcells : ∀ cell ∈ [bottomCell, topCell], InRange cell :=
    List.forall_mem_cons.mpr ⟨hbottom, List.forall_mem_cons.mpr ⟨htop, fun _ h => nomatch h⟩⟩
  have hlines : List.Forall₂ Renders [bottomCell, topCell] [bottomLine, topLine] :=
    .cons renders_bottom (.cons renders_top .nil)
  exact scan_round_trip hcells (by decide) ⟨" ...".toList, rfl⟩ (not_infix_crlf (by decide)) hlines (by decide)
    (by decide) {}

end LteModem.Replies
