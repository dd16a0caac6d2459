import LteModem.Lib.Printer
import LteModem.XE310.Operations
import LteModem.XE310.Reports
import Mathlib.Data.List.Forall2

/-!
# Settings and what is read back

What `set_bands`, `set_psm` and `set_telit_psm` send. The parameters of the first two are what `get_bands` and
`get_psm` report.
-/

open Strings

namespace LteModem

/-- A value of the enumeration, which is a `uint8_t`. -/
def PsmMode.Valid (m : PsmMode) : Prop := PsmMode.ofInt m.toNat = m

instance (m : PsmMode) : Decidable m.Valid := inferInstanceAs (Decidable (_ = _))

theorem PsmMode.toNat_ofInt (v : Int) : (PsmMode.ofInt v).toNat = toUInt8 v := by
  unfold PsmMode.ofInt
  split
  · next h => exact h.symm
  · next h => exact h.symm
  · rfl

theorem PsmMode.Valid.lt {m : PsmMode} (h : m.Valid) : m.toNat < 256 := by
  have hv := PsmMode.toNat_ofInt m.toNat
  rw [h] at hv
  rw [hv, toUInt8]
  omega

theorem PsmMode.Valid.length_decimal {m : PsmMode} (h : m.Valid) : (decimal m.toNat).length ≤ 3 :=
  length_decimal_le (by decide) (by have := h.lt; omega)

theorem PsmMode.Valid.inj {m m' : PsmMode} (h : m.Valid) (h' : m'.Valid) (he : m.toNat = m'.toNat) : m = m' := by
  rw [← h, ← h', he]

def CpsmsConfig.timers (cfg : CpsmsConfig) : List (FixedString MODEM_SHORT_STR) :=
  [cfg.req_periodic_rau, cfg.req_gprs_ready_timer, cfg.req_periodic_tau, cfg.req_active_time]

namespace XE310

/-! ## Printing -/

/-- A comma, and the timer in quotes unless it is empty. -/
def printTimer (t : FixedString MODEM_SHORT_STR) (l : Line 256) : Option (Line 256) := do
  let l ← l.print [',']
  if t.view = [] then pure l else l.print ('"' :: cstr t.view ++ ['"'])

def set_psm (cfg : CpsmsConfig) : Option Str := do
  let l := Line.start 256 ("AT+CPSMS=".toList ++ decimal cfg.mode.toNat)
  if ∀ t ∈ cfg.timers, t.view = [] then pure l.text
  else
    let l ← printTimer cfg.req_periodic_rau l
    let l ← printTimer cfg.req_gprs_ready_timer l
    let l ← printTimer cfg.req_periodic_tau l
    let l ← printTimer cfg.req_active_time l
    pure l.text

/-- The last field that has a value. -/
def last (cfg : TelitCpsmsConfig) : Nat :=
  let last := if cfg.fHasPeriodicRau then 1 else 0
  let last := if cfg.fHasGprsReadyTimer then 2 else last
  let last := if cfg.fHasPeriodicTau then 3 else last
  let last := if cfg.fHasActiveTime then 4 else last
  let last := if cfg.fHasPsmVersion then 5 else last
  if cfg.fHasPsmThreshold then 6 else last

def append_opt (last field : Nat) (has : Bool) (val : Nat) (l : Line 256) : Option (Line 256) :=
  if field ≤ last then do
    let l ← l.print [',']
    if has then l.print (decimal val) else pure l
  else pure l

def set_telit_psm (cfg : TelitCpsmsConfig) : Option Str := do
  let l := Line.start 256 ("AT#CPSMS=".toList ++ decimal cfg.mode.toNat)
  let l ← append_opt (last cfg) 1 cfg.fHasPeriodicRau cfg.req_periodic_rau l
  let l ← append_opt (last cfg) 2 cfg.fHasGprsReadyTimer cfg.req_gprs_ready_timer l
  let l ← append_opt (last cfg) 3 cfg.fHasPeriodicTau cfg.req_periodic_tau l
  let l ← append_opt (last cfg) 4 cfg.fHasActiveTime cfg.req_active_time l
  let l ← append_opt (last cfg) 5 cfg.fHasPsmVersion cfg.psm_version.toNat l
  let l ← append_opt (last cfg) 6 cfg.fHasPsmThreshold cfg.psm_threshold l
  pure l.text

/-- What goes out: the line as the `AtCommand` keeps it. -/
def emitted (text : Option Str) : Option Str := text.map (·.take AT_CMD_MAX)

theorem emitted_whole {n : Nat} {name params : Str} (h : name.length + params.length < n) (hn : n ≤ AT_CMD_MAX) :
    emitted (some (snprintf n (name ++ params))) = some (name ++ params) := by
  have hl : (name ++ params).length < n := by rwa [List.length_append]
  have hs : snprintf n (name ++ params) = name ++ params := by rw [snprintf, List.take_of_length_le (by omega)]
  rw [emitted, Option.map_some, hs, List.take_of_length_le (by omega)]

/-! ## Masks -/

open Replies (Fits)

def bandsParams (b : BandConfig) : Str :=
  decimal b.gsm_mask ++ ',' :: (decimal b.umts_mask ++ ',' :: (decimal b.lte_mask ++
    ',' :: (decimal b.tdscdma_mask ++ ',' :: decimal b.lte_mask_over_64)))

/-- The command for these masks. -/
def set_bands (b : BandConfig) : Setting :=
  .set_bands b.gsm_mask b.umts_mask b.lte_mask b.tdscdma_mask b.lte_mask_over_64

theorem set_bands_text (b : BandConfig) : (set_bands b).text = snprintf 128 ("AT#BND=".toList ++ bandsParams b) := by
  change snprintf 128 _ = _
  simp only [bandsParams, List.append_assoc, List.cons_append, List.nil_append]

theorem length_bandsParams {b : BandConfig} (h : Fits b) : (bandsParams b).length ≤ 104 := by
  have hl {n : Nat} (h : n < 2 ^ 64) : (decimal n).length ≤ 20 := length_decimal_le (by decide) (by omega)
  have hg := hl h.gsm_mask
  have hu := hl h.umts_mask
  have hte := hl h.lte_mask
  have ht := hl h.tdscdma_mask
  have ho := hl h.lte_mask_over_64
  simp only [bandsParams, List.length_append, List.length_cons]
  omega

theorem bands_round_trip {b : BandConfig} (h : Fits b) (bands : BandConfig) :
    emitted (some (set_bands b).text) = some ("AT#BND=".toList ++ bandsParams b) ∧
      Replies.get_bands ⟨.ok, "#BND: ".toList ++ bandsParams b⟩ bands = (.ok, b) := by
  have hl := length_bandsParams h
  have h7 : "AT#BND=".toList.length = 7 := rfl
  constructor
  · rw [set_bands_text]
    exact emitted_whole (by omega) (by decide)
  · exact Replies.get_bands_report h bands

theorem bands_round_trip_all :
    let b : BandConfig := ⟨2 ^ 64 - 1, 2 ^ 64 - 1, 2 ^ 64 - 1, 2 ^ 64 - 1, 2 ^ 64 - 1⟩
    emitted (some (set_bands b).text) = some ("AT#BND=".toList ++ bandsParams b) ∧
      Replies.get_bands ⟨.ok, "#BND: ".toList ++ bandsParams b⟩ {} = (.ok, b) :=
  bands_round_trip ⟨by decide, by decide, by decide, by decide, by decide⟩ {}

/-! ## Timers -/

/-- The timers are octet strings, as documented. -/
def Binary (cfg : CpsmsConfig) : Prop := ∀ t ∈ cfg.timers, ∀ c ∈ t.view, c = '0' ∨ c = '1'

theorem not_mem_binary {s : Str} (h : ∀ c ∈ s, c = '0' ∨ c = '1') {x : Char} (h0 : x ≠ '0') (h1 : x ≠ '1') : x ∉ s := by
  intro hx
  rcases h x hx with hx | hx
  · exact h0 hx
  · exact h1 hx

def quoted (t : FixedString MODEM_SHORT_STR) : Str :=
  if t.view = [] then [] else '"' :: cstr t.view ++ ['"']

theorem length_quoted (t : FixedString MODEM_SHORT_STR) : (quoted t).length ≤ 34 := by
  have ht : t.view.length ≤ 32 := t.fits
  have hc : (cstr t.view).length ≤ t.view.length := (List.takeWhile_sublist _).length_le
  unfold quoted
  split
  · exact Nat.zero_le _
  · simp only [List.cons_append, List.length_cons, List.length_append, List.length_nil]
    omega

theorem printTimer_holds {l : Line 256} {s : Str} {n : Nat} (h : l.Holds s) (hs : s.length ≤ n) (hn : n < 256)
    (t : FixedString MODEM_SHORT_STR) :
    ∃ m, printTimer t l = some m ∧ m.Holds (s ++ ',' :: quoted t) ∧ (s ++ ',' :: quoted t).length ≤ n + 35 := by
  have hq := length_quoted t
  have hl : (s ++ ',' :: quoted t).length ≤ n + 35 := by
    rw [List.length_append, List.length_cons]
    omega
  obtain ⟨m, hm, hh⟩ := h.print [','] (by omega)
  unfold printTimer
  rw [hm, Option.bind_eq_bind, Option.bind_some]
  unfold quoted at hl ⊢
  split_ifs at hl ⊢ with ht
  · exact ⟨m, rfl, hh, hl⟩
  · obtain ⟨k, hk, hr⟩ := hh.print ('"' :: cstr t.view ++ ['"']) (by
      rw [List.length_append, List.length_singleton]
      omega)
    rw [List.append_assoc] at hr
    exact ⟨k, hk, hr, hl⟩

theorem psm_params (cfg : CpsmsConfig) : cfg.params =
    decimal cfg.mode.toNat ++ if ∀ t ∈ cfg.timers, t.view = [] then []
      else cfg.timers.flatMap fun t => ',' :: quoted t := by
  have hq (t : FixedString MODEM_SHORT_STR) :
      (if t.view = [] then [','] else ",\"".toList ++ cstr t.view ++ ['"']) = ',' :: quoted t := by
    unfold quoted
    split
    · rfl
    · rfl
  unfold CpsmsConfig.params CpsmsConfig.timers
  simp only [hq]

/-- The offset never leaves the buffer, so the command is printed as one text. -/
theorem set_psm_text {cfg : CpsmsConfig} (hm : cfg.mode.Valid) : set_psm cfg = some (Setting.set_psm cfg).text := by
  have h9 : "AT+CPSMS=".toList.length = 9 := rfl
  have hd := hm.length_decimal
  have hs0 : ("AT+CPSMS=".toList ++ decimal cfg.mode.toNat).length ≤ 12 := by
    rw [List.length_append]
    omega
  have h0 := Line.start_holds 256 ("AT+CPSMS=".toList ++ decimal cfg.mode.toNat)
  change _ = some (snprintf 256 ("AT+CPSMS=".toList ++ cfg.params))
  rw [psm_params]
  unfold set_psm
  dsimp only
  split_ifs with he
  · rw [List.append_nil]
    rfl
  · obtain ⟨l1, e1, h1, hs1⟩ := printTimer_holds h0 hs0 (by omega) cfg.req_periodic_rau
    obtain ⟨l2, e2, h2, hs2⟩ := printTimer_holds h1 hs1 (by omega) cfg.req_gprs_ready_timer
    obtain ⟨l3, e3, h3, hs3⟩ := printTimer_holds h2 hs2 (by omega) cfg.req_periodic_tau
    obtain ⟨l4, e4, h4, -⟩ := printTimer_holds h3 hs3 (by omega) cfg.req_active_time
    simp only [Option.bind_eq_bind, e1, e2, e3, e4, Option.bind_some, Option.pure_def, h4.text, CpsmsConfig.timers,
      List.flatMap_cons, List.flatMap_nil, List.append_assoc, List.append_nil]

theorem length_params {cfg : CpsmsConfig} (hm : cfg.mode.Valid) : cfg.params.length ≤ 143 := by
  have hd := hm.length_decimal
  have h1 := length_quoted cfg.req_periodic_rau
  have h2 := length_quoted cfg.req_gprs_ready_timer
  have h3 := length_quoted cfg.req_periodic_tau
  have h4 := length_quoted cfg.req_active_time
  rw [psm_params]
  split_ifs
  · rw [List.append_nil]
    omega
  · simp only [CpsmsConfig.timers, List.flatMap_cons, List.flatMap_nil, List.length_append, List.length_cons,
      List.length_nil]
    omega

theorem set_psm_emitted {cfg : CpsmsConfig} (hm : cfg.mode.Valid) :
    emitted (set_psm cfg) = some ("AT+CPSMS=".toList ++ cfg.params) := by
  have hl := length_params hm
  have h9 : "AT+CPSMS=".toList.length = 9 := rfl
  rw [set_psm_text hm]
  exact emitted_whole (by omega) (by decide)

/-- What is left of a timer that is printed and read. -/
def readBack (t : FixedString MODEM_SHORT_STR) : FixedString MODEM_SHORT_STR :=
  .ofView _ (Replies.strip_quotes (FixedString.ofView MODEM_SHORT_STR ((quoted t).dropWhile (· = ' '))).view)

theorem readBack_empty {t : FixedString MODEM_SHORT_STR} (h : t.view = []) : readBack t = .empty _ := by
  rw [readBack, quoted, if_pos h]
  rfl

section

variable {t : FixedString MODEM_SHORT_STR} (h : ∀ c ∈ t.view, c = '0' ∨ c = '1')

include h

theorem quoted_binary (ht : t.view ≠ []) : quoted t = '"' :: (t.view ++ ['"']) := by
  rw [quoted, if_neg ht, cstr_eq_self_iff.mpr (not_mem_binary h (by decide) (by decide))]
  rfl

theorem comma_quoted : ',' ∉ quoted t := by
  have hc : ',' ∉ t.view := not_mem_binary h (by decide) (by decide)
  by_cases ht : t.view = []
  · rw [quoted, if_pos ht]
    exact List.not_mem_nil
  · rw [quoted_binary h ht]
    simpa using hc

theorem readBack_view (ht : t.view ≠ []) :
    (readBack t).view = (Replies.strip_quotes ('"' :: (t.view ++ ['"']).take 31)).take 32 := by
  rw [readBack, quoted_binary h ht]
  rfl

theorem readBack_short (ht : t.view ≠ []) (hl : t.view.length ≤ 30) : readBack t = t := by
  have hfits : t.view.length ≤ 32 := t.fits
  have htake : (t.view ++ ['"']).take 31 = t.view ++ ['"'] :=
    List.take_of_length_le (by simp only [List.length_append, List.length_singleton]; omega)
  have hlast : ('"' :: (t.view ++ ['"'])).getLast? = some '"' := by
    rw [← List.cons_append, List.getLast?_concat]
  have hs : Replies.strip_quotes ('"' :: (t.view ++ ['"'])) = t.view := by
    rw [Replies.strip_quotes, if_pos ⟨by simp, rfl, hlast⟩, List.tail_cons, List.dropLast_concat]
  ext1
  rw [readBack_view h ht, htake, hs, List.take_of_length_le hfits]

/-- Of a longer text the closing quote is cut off, and then the opening one stays. -/
theorem readBack_long (ht : t.view ≠ []) (hl : 30 < t.view.length) :
    (readBack t).view = '"' :: t.view.take 31 := by
  have hquote : '"' ∉ t.view := not_mem_binary h (by decide) (by decide)
  have htake : (t.view ++ ['"']).take 31 = t.view.take 31 := List.take_append_of_le_length (by omega)
  have hlast : ¬ ('"' :: t.view.take 31).getLast? = some '"' := by
    intro hlast
    have hne : t.view.take 31 ≠ [] := by simp [ht]
    rw [List.getLast?_cons_of_ne_nil hne] at hlast
    exact hquote (List.mem_of_mem_take (List.mem_of_getLast? hlast))
  rw [readBack_view h ht, htake, Replies.strip_quotes, if_neg fun hs => hlast hs.2.2, List.take_of_length_le]
  rw [List.length_cons, List.length_take]
  omega

theorem readBack_iff : readBack t = t ↔ t.view.length ≤ 30 := by
  by_cases ht : t.view = []
  · have he : t = .empty _ := FixedString.ext ht
    rw [readBack_empty ht, ht, List.length_nil]
    exact iff_of_true he.symm (Nat.zero_le 30)
  · constructor
    · intro hr
      by_contra hl
      have hlong := readBack_long h ht (by omega)
      rw [hr] at hlong
      exact not_mem_binary h (by decide) (by decide) (hlong ▸ List.mem_cons_self : '"' ∈ t.view)
    · exact readBack_short h ht

end

/-- A field as `get_psm` keeps it. -/
def kept (s : Str) : FixedString MODEM_SHORT_STR := .ofView _ (s.dropWhile (· = ' '))

/-- The timer of a field. Without the field it stays empty. -/
def timerOf (field : Option (FixedString MODEM_SHORT_STR)) : FixedString MODEM_SHORT_STR :=
  (field.map fun t => .ofView _ (Replies.strip_quotes t.view)).getD (.empty _)

theorem get_psm_fields {body params first : Str} {more : List Str} (hp : Replies.afterColon body = some params)
    (hf : fields 5 params = first :: more) : Replies.get_psm ⟨.ok, body⟩ {} =
      (.ok, ⟨.ofInt (atoi (cstr (kept first).view)), timerOf (more[0]?.map kept), timerOf (more[1]?.map kept),
        timerOf (more[2]?.map kept), timerOf (more[3]?.map kept)⟩) := by
  unfold Replies.get_psm
  rw [if_neg (by simp), hp]
  simp only [hf, List.map_cons, List.getElem?_cons_zero, List.getElem?_cons_succ, List.getElem?_map]
  rfl

theorem timerOf_none {t : FixedString MODEM_SHORT_STR} (h : t.view = []) : timerOf none = readBack t :=
  (readBack_empty h).symm

theorem timerOf_last {t : FixedString MODEM_SHORT_STR} (h : ',' ∉ quoted t) :
    timerOf ((fields 1 (quoted t))[0]?.map kept) = readBack t := by
  by_cases ht : quoted t = []
  · rw [readBack, ht]
    rfl
  · rw [fields_last 0 ht h]
    rfl

theorem kept_decimal {n : Nat} (h : n < 256) : (kept (' ' :: decimal n)).view = decimal n := by
  have hd : (decimal n).length ≤ 3 := length_decimal_le (by decide) (by omega)
  obtain ⟨c, s, hs, hdigit⟩ := head_decimal n
  have hne : c ≠ ' ' := by
    rintro rfl
    cases hdigit
  have hblank : (' ' :: decimal n).dropWhile (· = ' ') = decimal n := by
    rw [hs, List.dropWhile_cons_of_pos (by simp), List.dropWhile_cons_of_neg (by simpa using hne)]
  rw [kept, hblank, FixedString.ofView_view, List.take_of_length_le (hd.trans (by decide))]

theorem get_psm_report {cfg : CpsmsConfig} (hm : cfg.mode.Valid) (hb : Binary cfg) :
    Replies.get_psm ⟨.ok, "+CPSMS: ".toList ++ cfg.params⟩ {} =
      (.ok, ⟨cfg.mode, readBack cfg.req_periodic_rau, readBack cfg.req_gprs_ready_timer,
        readBack cfg.req_periodic_tau, readBack cfg.req_active_time⟩) := by
  have hc : Replies.afterColon ("+CPSMS: ".toList ++ cfg.params) = some (' ' :: cfg.params) := rfl
  have hmode : PsmMode.ofInt (atoi (cstr (kept (' ' :: decimal cfg.mode.toNat)).view)) = cfg.mode := by
    have hlt := hm.lt
    rw [kept_decimal hlt, Replies.cstr_decimal, atoi_decimal (by omega)]
    exact hm
  have hdecimal : ',' ∉ ' ' :: decimal cfg.mode.toNat := Replies.comma_decimal 1 _
  have hq : ∀ t ∈ cfg.timers, ',' ∉ quoted t := fun t ht => comma_quoted (hb t ht)
  rw [psm_params] at hc ⊢
  split_ifs at hc ⊢ with he
  · simp only [CpsmsConfig.timers, List.forall_mem_cons] at he
    obtain ⟨he1, he2, he3, he4, -⟩ := he
    rw [List.append_nil] at hc ⊢
    have hf : fields 5 (' ' :: decimal cfg.mode.toNat) = [' ' :: decimal cfg.mode.toNat] :=
      fields_last 4 (by simp) hdecimal
    rw [get_psm_fields hc hf, hmode, ← timerOf_none he1, ← timerOf_none he2, ← timerOf_none he3, ← timerOf_none he4]
    rfl
  · simp only [CpsmsConfig.timers, List.forall_mem_cons] at hq
    obtain ⟨hq1, hq2, hq3, hq4, -⟩ := hq
    have hf : fields 5 (' ' :: (decimal cfg.mode.toNat ++ cfg.timers.flatMap fun t => ',' :: quoted t)) =
        (' ' :: decimal cfg.mode.toNat) :: quoted cfg.req_periodic_rau :: quoted cfg.req_gprs_ready_timer ::
          quoted cfg.req_periodic_tau :: fields 1 (quoted cfg.req_active_time) := by
      simp only [CpsmsConfig.timers, List.flatMap_cons, List.flatMap_nil, List.append_nil, List.cons_append]
      rw [← List.cons_append, fields_comma 4 hdecimal, fields_comma 3 hq1, fields_comma 2 hq2, fields_comma 1 hq3]
    rw [get_psm_fields hc hf, hmode, ← timerOf_last hq4]
    rfl

/-- A default configuration, after reading the parameters that `set_psm` sends. -/
def PsmRoundTrip (cfg : CpsmsConfig) : Prop :=
  ∃ params, emitted (set_psm cfg) = some ("AT+CPSMS=".toList ++ params) ∧
    Replies.get_psm ⟨.ok, "+CPSMS: ".toList ++ params⟩ {} = (.ok, cfg)

theorem psm_round_trip_params {cfg : CpsmsConfig} (hm : cfg.mode.Valid) (hb : Binary cfg) :
    PsmRoundTrip cfg ↔ ∀ t ∈ cfg.timers, readBack t = t := by
  have hr := get_psm_report hm hb
  simp only [CpsmsConfig.timers, List.forall_mem_cons, List.not_mem_nil, false_imp_iff, implies_true, and_true]
  constructor
  · rintro ⟨params, hp, hg⟩
    rw [set_psm_emitted hm, Option.some_inj] at hp
    rw [← List.append_cancel_left hp, hr] at hg
    have hcfg := congrArg Prod.snd hg
    exact ⟨congrArg CpsmsConfig.req_periodic_rau hcfg, congrArg CpsmsConfig.req_gprs_ready_timer hcfg,
      congrArg CpsmsConfig.req_periodic_tau hcfg, congrArg CpsmsConfig.req_active_time hcfg⟩
  · rintro ⟨h1, h2, h3, h4⟩
    refine ⟨cfg.params, set_psm_emitted hm, ?_⟩
    rw [hr, h1, h2, h3, h4]

/-- The settings come back exactly when there is room for the quotes of every timer. -/
theorem psm_round_trip_iff {cfg : CpsmsConfig} (hm : cfg.mode.Valid) (hb : Binary cfg) :
    PsmRoundTrip cfg ↔ ∀ t ∈ cfg.timers, t.view.length ≤ 30 := by
  rw [psm_round_trip_params hm hb]
  exact forall₂_congr fun t ht => readBack_iff (hb t ht)

/-- A timer of `n` ones. -/
def ones (n : Nat) : FixedString MODEM_SHORT_STR := .ofView _ (List.replicate n '1')

/-- Two timers, and two left out. -/
def twoTimers (n : Nat) : CpsmsConfig := { mode := .enable, req_periodic_tau := ones n, req_active_time := ones 8 }

theorem twoTimers_binary (n : Nat) : Binary (twoTimers n) := by
  have hones (n : Nat) : ∀ c ∈ (ones n).view, c = '0' ∨ c = '1' := fun c hc =>
    Or.inr (List.eq_of_mem_replicate (List.mem_of_mem_take hc))
  simp only [Binary, twoTimers, CpsmsConfig.timers, List.forall_mem_cons]
  exact ⟨by simp, by simp, hones n, hones 8, by simp⟩

theorem psm_round_trip_thirty : PsmRoundTrip (twoTimers 30) :=
  (psm_round_trip_iff (by decide) (twoTimers_binary 30)).mpr (by decide)

/-- One more character, and the timer that is read begins with a quote. -/
theorem psm_round_trip_cut :
    (twoTimers 31).mode.Valid ∧ Binary (twoTimers 31) ∧ ¬ PsmRoundTrip (twoTimers 31) ∧
      (readBack (ones 31)).view = '"' :: List.replicate 31 '1' := by
  have hmode : (twoTimers 31).mode.Valid := by decide
  refine ⟨hmode, twoTimers_binary 31, ?_, by decide⟩
  rw [psm_round_trip_params hmode (twoTimers_binary 31)]
  intro h
  exact absurd (h (ones 31) (by simp [CpsmsConfig.timers, twoTimers])) (by decide)

/-! ## Positions -/

/-- An optional field: empty where its flag is not set. -/
def shown (field : Bool × Nat) : Str := if field.1 then decimal field.2 else []

/-- `m` fields up to the last one whose flag is set. -/
structure LastSet (fields : List (Bool × Nat)) (m : Nat) : Prop where
  bound : m ≤ fields.length
  flag : m = 0 ∨ ∃ v, fields[m - 1]? = some (true, v)
  rest : ∀ p ∈ fields.drop m, p.1 = false

/-- The values of a `TelitCpsmsConfig`. -/
structure Values (cfg : TelitCpsmsConfig) : Prop where
  mode : cfg.mode.Valid
  optionals : ∀ p ∈ cfg.optionals, p.2 < 2 ^ 32

theorem last_le (cfg : TelitCpsmsConfig) : last cfg ≤ 6 := by
  unfold last
  dsimp only
  split_ifs <;> omega

theorem lastSet_last (cfg : TelitCpsmsConfig) : LastSet cfg.optionals (last cfg) := by
  refine ⟨last_le cfg, ?_, ?_⟩
  · unfold last TelitCpsmsConfig.optionals
    dsimp only
    split_ifs <;> simp_all
  · unfold last TelitCpsmsConfig.optionals
    dsimp only
    split_ifs <;> simp_all

theorem LastSet.rdropWhile {fields : List (Bool × Nat)} {m : Nat} (h : LastSet fields m) :
    fields.rdropWhile (!·.1) = fields.take m := by
  have hrest : ∀ p ∈ fields.drop m, (!p.1) = true := fun p hp => by rw [h.rest p hp]; rfl
  have htake : (fields.take m).rdropWhile (!·.1) = fields.take m := by
    cases m with
    | zero => rfl
    | succ m =>
      rcases h.flag with h0 | ⟨v, hv⟩
      · cases h0
      · rw [Nat.add_sub_cancel] at hv
        rw [List.take_add_one, hv]
        exact List.rdropWhile_concat_neg _ _ _ (by simp)
  calc fields.rdropWhile (!·.1)
    _ = (fields.take m ++ fields.drop m).rdropWhile (!·.1) := by rw [List.take_append_drop]
    _ = (fields.take m).rdropWhile (!·.1) := rdropWhile_append_all _ hrest
    _ = fields.take m := htake

/-- What `append_opt` adds. -/
def piece (last field : Nat) (p : Bool × Nat) : Str := if field ≤ last then ',' :: shown p else []

theorem length_piece (last field : Nat) {p : Bool × Nat} (h : p.2 < 2 ^ 32) : (piece last field p).length ≤ 11 := by
  have hd : (decimal p.2).length ≤ 10 := length_decimal_le (by decide) (by omega)
  unfold piece shown
  split_ifs
  · exact Nat.succ_le_succ hd
  · exact Nat.succ_le_succ (Nat.zero_le _)
  · exact Nat.zero_le _

theorem append_opt_holds {l : Line 256} {s : Str} {n : Nat} (h : l.Holds s) (hs : s.length ≤ n) (hn : n < 256)
    (last field : Nat) (has : Bool) {val : Nat} (hv : val < 2 ^ 32) :
    ∃ m, append_opt last field has val l = some m ∧ m.Holds (s ++ piece last field (has, val)) ∧
      (s ++ piece last field (has, val)).length ≤ n + 11 := by
  have hp : (piece last field (has, val)).length ≤ 11 := length_piece last field hv
  have hl : (s ++ piece last field (has, val)).length ≤ n + 11 := by
    rw [List.length_append]
    omega
  obtain ⟨m, hm, hh⟩ := h.print [','] (by omega)
  unfold append_opt
  unfold piece shown at hl ⊢
  split_ifs at hl ⊢ with hf hp
  · obtain ⟨k, hk, hr⟩ := hh.print (decimal val) (by
      rw [List.length_append, List.length_singleton]
      omega)
    rw [hm, Option.bind_eq_bind, Option.bind_some]
    rw [List.append_assoc] at hr
    exact ⟨k, hk, hr, hl⟩
  · rw [hm, Option.bind_eq_bind, Option.bind_some]
    exact ⟨m, rfl, hh, hl⟩
  · rw [List.append_nil] at hl ⊢
    exact ⟨l, rfl, h, hl⟩

theorem pieces_flatMap (fields : List (Bool × Nat)) {a b c d e f : Bool × Nat} (hf : fields = [a, b, c, d, e, f])
    {m : Nat} (h : LastSet fields m) : piece m 1 a ++ piece m 2 b ++ piece m 3 c ++ piece m 4 d ++ piece m 5 e ++
      piece m 6 f = (fields.rdropWhile (!·.1)).flatMap fun p => ',' :: shown p := by
  have hm := h.bound
  rw [h.rdropWhile]
  subst hf
  rw [List.length_cons, List.length_cons, List.length_cons, List.length_cons, List.length_cons, List.length_cons,
    List.length_nil] at hm
  obtain rfl | rfl | rfl | rfl | rfl | rfl | rfl : m = 0 ∨ m = 1 ∨ m = 2 ∨ m = 3 ∨ m = 4 ∨ m = 5 ∨ m = 6 := by omega
  all_goals simp [piece]

theorem telit_params (cfg : TelitCpsmsConfig) : cfg.params =
    decimal cfg.mode.toNat ++ (cfg.optionals.rdropWhile (!·.1)).flatMap fun p => ',' :: shown p := rfl

theorem set_telit_psm_text {cfg : TelitCpsmsConfig} (hv : Values cfg) :
    set_telit_psm cfg = some (Setting.set_telit_psm cfg).text := by
  have h9 : "AT#CPSMS=".toList.length = 9 := rfl
  have hd := hv.mode.length_decimal
  have hs0 : ("AT#CPSMS=".toList ++ decimal cfg.mode.toNat).length ≤ 12 := by
    rw [List.length_append]
    omega
  have hp := hv.optionals
  simp only [TelitCpsmsConfig.optionals, List.forall_mem_cons] at hp
  obtain ⟨hp1, hp2, hp3, hp4, hp5, hp6, -⟩ := hp
  have h0 := Line.start_holds 256 ("AT#CPSMS=".toList ++ decimal cfg.mode.toNat)
  obtain ⟨l1, e1, h1, hs1⟩ := append_opt_holds h0 hs0 (by omega) (last cfg) 1 cfg.fHasPeriodicRau hp1
  obtain ⟨l2, e2, h2, hs2⟩ := append_opt_holds h1 hs1 (by omega) (last cfg) 2 cfg.fHasGprsReadyTimer hp2
  obtain ⟨l3, e3, h3, hs3⟩ := append_opt_holds h2 hs2 (by omega) (last cfg) 3 cfg.fHasPeriodicTau hp3
  obtain ⟨l4, e4, h4, hs4⟩ := append_opt_holds h3 hs3 (by omega) (last cfg) 4 cfg.fHasActiveTime hp4
  obtain ⟨l5, e5, h5, hs5⟩ := append_opt_holds h4 hs4 (by omega) (last cfg) 5 cfg.fHasPsmVersion hp5
  obtain ⟨l6, e6, h6, -⟩ := append_opt_holds h5 hs5 (by omega) (last cfg) 6 cfg.fHasPsmThreshold hp6
  have hall := pieces_flatMap cfg.optionals rfl (lastSet_last cfg)
  change _ = some (snprintf 256 ("AT#CPSMS=".toList ++ cfg.params))
  rw [telit_params, ← hall]
  unfold set_telit_psm
  simp only [Option.bind_eq_bind, e1, e2, e3, e4, e5, e6, Option.bind_some, Option.pure_def, h6.text,
    List.append_assoc]

theorem telit_params_split {cfg : TelitCpsmsConfig} {m : Nat} (h : LastSet cfg.optionals m) :
    cfg.params.splitOn ',' = decimal cfg.mode.toNat :: (cfg.optionals.take m).map shown := by
  have hsplit (a : Str) (ha : ',' ∉ a) (fields : List (Bool × Nat)) :
      (a ++ fields.flatMap fun p => ',' :: shown p).splitOn ',' = a :: fields.map shown := by
    induction fields generalizing a with
    | nil => rw [List.flatMap_nil, List.append_nil, List.splitOn_eq_singleton ha, List.map_nil]
    | cons p fields ih =>
      have hp : ',' ∉ shown p := by
        unfold shown
        split_ifs
        · exact not_mem_decimal rfl
        · exact List.not_mem_nil
      rw [List.flatMap_cons, List.cons_append, List.splitOn_append_cons_self_of_not_mem ha, ih _ hp, List.map_cons]
  rw [telit_params, h.rdropWhile]
  exact hsplit _ (not_mem_decimal rfl) _

theorem length_telit_params {cfg : TelitCpsmsConfig} (hv : Values cfg) : cfg.params.length ≤ 69 := by
  have hd := hv.mode.length_decimal
  have hflat (fields : List (Bool × Nat)) (hp : ∀ p ∈ fields, p.2 < 2 ^ 32) :
      (fields.flatMap fun p => ',' :: shown p).length ≤ 11 * fields.length := by
    induction fields with
    | nil => exact Nat.zero_le _
    | cons p fields ih =>
      have h1 : (',' :: shown p).length ≤ 11 := length_piece 0 0 (hp p List.mem_cons_self)
      have hi := ih fun q hq => hp q (List.mem_cons_of_mem p hq)
      simp only [List.flatMap_cons, List.length_append, List.length_cons] at h1 ⊢
      omega
  have hpre : cfg.optionals.rdropWhile (!·.1) <+: cfg.optionals := List.rdropWhile_prefix _ _
  have h := hflat _ fun p hp => hv.optionals p (hpre.subset hp)
  have h6 : (cfg.optionals.rdropWhile (!·.1)).length ≤ 6 := hpre.length_le
  rw [telit_params, List.length_append]
  omega

theorem set_telit_psm_emitted {cfg : TelitCpsmsConfig} (hv : Values cfg) :
    emitted (set_telit_psm cfg) = some ("AT#CPSMS=".toList ++ cfg.params) := by
  have hl := length_telit_params hv
  have h9 : "AT#CPSMS=".toList.length = 9 := rfl
  rw [set_telit_psm_text hv]
  exact emitted_whole (by omega) (by decide)

/-- The same flag, and the same value where it is set. -/
def SameField (p q : Bool × Nat) : Prop := p.1 = q.1 ∧ (p.1 = true → p.2 = q.2)

theorem sameField_of_shown {p q : Bool × Nat} (h : shown p = shown q) : SameField p q := by
  obtain ⟨has, v⟩ := p
  obtain ⟨has', v'⟩ := q
  cases has <;> cases has'
  · exact ⟨rfl, fun h => nomatch h⟩
  · exact absurd h.symm (decimal_ne_nil v')
  · exact absurd h (decimal_ne_nil v)
  · exact ⟨rfl, fun _ => decimal_injective h⟩

theorem LastSet.same {fs gs : List (Bool × Nat)} {m n : Nat} (hf : LastSet fs m) (hg : LastSet gs n)
    (hl : fs.length = gs.length) (h : (fs.take m).map shown = (gs.take n).map shown) :
    List.Forall₂ SameField fs gs := by
  have hmn : m = n := by
    have hlen := congrArg List.length h
    rw [List.length_map, List.length_map, List.length_take, List.length_take] at hlen
    have := hf.bound
    have := hg.bound
    omega
  subst hmn
  refine List.forall₂_iff_get.mpr ⟨hl, fun i hi hj => ?_⟩
  by_cases him : i < m
  · have hs := congrArg (·[i]?) h
    simp only [List.getElem?_map, List.getElem?_take, him, if_true, List.getElem?_eq_getElem hi,
      List.getElem?_eq_getElem hj, Option.map_some, Option.some_inj] at hs
    exact sameField_of_shown hs
  · have hmem (l : List (Bool × Nat)) (hil : i < l.length) : l.get ⟨i, hil⟩ ∈ l.drop m :=
      List.mem_drop_iff_getElem.mpr ⟨i - m, by omega, by simp [Nat.add_sub_of_le (Nat.le_of_not_lt him)]⟩
    have hp := hf.rest _ (hmem fs hi)
    have hq := hg.rest _ (hmem gs hj)
    exact ⟨hp.trans hq.symm, fun h => absurd (hp.symm.trans h) Bool.false_ne_true⟩

/-- The command is whole, and the place of a value is the number of its field. -/
theorem telit_psm_positional {cfg cfg' : TelitCpsmsConfig} (hv : Values cfg) (hv' : Values cfg') :
    (∃ m params, LastSet cfg.optionals m ∧ emitted (set_telit_psm cfg) = some ("AT#CPSMS=".toList ++ params) ∧
      params.splitOn ',' = decimal cfg.mode.toNat :: (cfg.optionals.take m).map shown) ∧
    (emitted (set_telit_psm cfg) = emitted (set_telit_psm cfg') →
      cfg.mode = cfg'.mode ∧ List.Forall₂ SameField cfg.optionals cfg'.optionals) := by
  have hl := lastSet_last cfg
  have hl' := lastSet_last cfg'
  refine ⟨⟨last cfg, cfg.params, hl, set_telit_psm_emitted hv, telit_params_split hl⟩, fun h => ?_⟩
  rw [set_telit_psm_emitted hv, set_telit_psm_emitted hv', Option.some_inj] at h
  have hs := congrArg (List.splitOn ',') (List.append_cancel_left h)
  rw [telit_params_split hl, telit_params_split hl', List.cons.injEq] at hs
  exact ⟨hv.mode.inj hv'.mode (decimal_injective hs.1), hl.same hl' rfl hs.2⟩

/-- A threshold alone: the five fields before it are empty. -/
def threshold : TelitCpsmsConfig := { mode := .enable, fHasPsmThreshold := true, psm_threshold := 2 ^ 32 - 1 }

/-- The version is the last field, with two of its bits. -/
def version : TelitCpsmsConfig :=
  { mode := .enable, fHasPeriodicTau := true, req_periodic_tau := 3600, fHasPsmVersion := true, psm_version := .other 6 }

theorem telit_psm_positional_threshold :
    (∃ m params, LastSet threshold.optionals m ∧
      emitted (set_telit_psm threshold) = some ("AT#CPSMS=".toList ++ params) ∧
      params.splitOn ',' = decimal threshold.mode.toNat :: (threshold.optionals.take m).map shown) ∧
    (emitted (set_telit_psm threshold) = emitted (set_telit_psm version) →
      threshold.mode = version.mode ∧ List.Forall₂ SameField threshold.optionals version.optionals) :=
  telit_psm_positional ⟨by decide, by decide⟩ ⟨by decide, by decide⟩

end XE310
end LteModem
