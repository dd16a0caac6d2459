import LteModem.XE310.Replies

/-!
# What the modem reports

The texts of the reports on the bands, the technology and the registration, and what the queries make of them.
-/

open Strings

namespace LteModem.Replies

/-- `#BND: <gsm>,<umts>,<lte>,<tdscdma>,<lte over 64>`. -/
def bandsReport (b : BandConfig) : Str :=
  "#BND: ".toList ++ (decimal b.gsm_mask ++ ',' :: (decimal b.umts_mask ++ ',' :: (decimal b.lte_mask ++
    ',' :: (decimal b.tdscdma_mask ++ ',' :: decimal b.lte_mask_over_64))))

/-- `#WS46: <n>,<gsm priority>`. -/
def techReport (n gsm_priority : Nat) : Str := "#WS46: ".toList ++ (decimal n ++ ',' :: decimal gsm_priority)

/-- `+CEREG: <mode>,<stat>`, and nothing or more fields. -/
def registrationReport (mode stat : Nat) (more : Option Str) : Str :=
  "+CEREG: ".toList ++ (decimal mode ++ ',' :: (decimal stat ++ (more.map (',' :: ·)).getD []))

/-- The masks are of 64 bits. -/
structure Fits (b : BandConfig) : Prop where
  gsm_mask : b.gsm_mask < 2 ^ 64
  umts_mask : b.umts_mask < 2 ^ 64
  lte_mask : b.lte_mask < 2 ^ 64
  tdscdma_mask : b.tdscdma_mask < 2 ^ 64
  lte_mask_over_64 : b.lte_mask_over_64 < 2 ^ 64

/-! ## Tokens -/

theorem cstr_decimal (n : Nat) : cstr (decimal n) = decimal n := by
  refine List.takeWhile_eq_self_iff.mpr fun c hc => ?_
  have hz : c ≠ '\x00' := by
    rintro rfl
    exact not_mem_decimal rfl hc
  simpa using hz

theorem strip_decimal (blanks n : Nat) :
    strip blanksQuotes (List.replicate blanks ' ' ++ decimal n) = decimal n := by
  have hb : ∀ c ∈ List.replicate blanks ' ', c ∈ blanksQuotes := by
    intro c hc
    rw [List.eq_of_mem_replicate hc]
    exact List.mem_cons_self
  have hd : ∀ c ∈ decimal n, c ∉ blanksQuotes := digits_apart (fun _ => isDigit_of_mem_decimal) rfl
  have h : strip blanksQuotes (List.replicate blanks ' ' ++ decimal n ++ []) = decimal n :=
    strip_inner hb (by simp) hd
  rwa [List.append_nil] at h

theorem trimmed_decimal (blanks : Nat) {n : Nat} (h : n < 2 ^ 64) :
    trimmed 32 (List.replicate blanks ' ' ++ decimal n) = decimal n := by
  have hl : (decimal n).length ≤ 20 := length_decimal_le (by decide) (by omega)
  rw [trimmed, strip_decimal, List.take_of_length_le (by omega), cstr_decimal]

theorem parse_u64_decimal {n : Nat} (h : n < 2 ^ 64) : parse_u64 (decimal n) = some n := by
  have hs : strtoull10 (decimal n) = (n, []) := strtoull10_decimal 0 h
  rw [parse_u64, hs]
  exact if_neg (by simp [(decimal_ne_nil n).symm])

theorem comma_decimal (blanks n : Nat) : ',' ∉ List.replicate blanks ' ' ++ decimal n := by
  rw [List.mem_append, not_or]
  exact ⟨by simp, not_mem_decimal rfl⟩

/-! ## The queries -/

theorem get_bands_report {b : BandConfig} (h : Fits b) (bands : BandConfig) :
    get_bands ⟨.ok, bandsReport b⟩ bands = (.ok, b) := by
  have hc : afterColon (bandsReport b) = some (List.replicate 1 ' ' ++ decimal b.gsm_mask ++ ',' ::
      (decimal b.umts_mask ++ ',' :: (decimal b.lte_mask ++ ',' :: (decimal b.tdscdma_mask ++
        ',' :: decimal b.lte_mask_over_64)))) := rfl
  have hd (n : Nat) : ',' ∉ decimal n := not_mem_decimal rfl
  have ht {n : Nat} (h : n < 2 ^ 64) : trimmed 32 (decimal n) = decimal n := trimmed_decimal 0 h
  unfold get_bands
  rw [if_neg (by simp), hc]
  dsimp only
  rw [fields_comma 4 (comma_decimal 1 _), fields_comma 3 (hd _), fields_comma 2 (hd _), fields_comma 1 (hd _),
    fields_last 0 (decimal_ne_nil _) (hd _)]
  simp only [List.map_cons, List.map_nil, trimmed_decimal 1 h.gsm_mask, ht h.umts_mask, ht h.lte_mask,
    ht h.tdscdma_mask, ht h.lte_mask_over_64, parse_u64_decimal h.gsm_mask, parse_u64_decimal h.umts_mask,
    parse_u64_decimal h.lte_mask, parse_u64_decimal h.tdscdma_mask, parse_u64_decimal h.lte_mask_over_64]

/-- The technology that `<n>` stands for. -/
def techOf (n : Nat) : RadioTech := if n = 0 then .cat_m1 else if n = 1 then .nb_iot else .unknown

/-- Neither registered nor in a service of its own. -/
def unregistered : List Nat := [0, 2, 3, 4]

end LteModem.Replies
