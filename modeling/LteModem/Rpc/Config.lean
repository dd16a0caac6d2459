import LteModem.Lib.Records
import LteModem.Rpc.Json

/-!
# `SET CONFIG` (`examples/desktop/rpc_helpers.h`)

A text of assignments to the fields of the configuration. The fields share a parser for each kind of value, so
each of them is its name, its kind and its place in the record. `Spelled` and `Denotes` say which assignments a text
holds and what their values stand for.
-/

open Strings Json

namespace LteModem.Rpc

/-! ## Values -/

/-- Whether there is a minus, and what follows the sign. -/
def signOf : Str → Bool × Str
  | '-' :: s => (true, s)
  | '+' :: s => (false, s)
  | s => (false, s)

/-- `std::stoul` and `std::stoull` for a result of `bits` bits, `none` where they throw. -/
def stoul (bits : Nat) (s : Str) : Option Nat :=
  let (minus, s) := signOf (s.dropWhile isSpace)
  let digits := s.takeWhile isDigit
  if digits = [] ∨ 2 ^ bits ≤ digitsVal digits then none
  else if minus then some ((2 ^ bits - digitsVal digits) % 2 ^ bits)
  else some (digitsVal digits)

def bool_from_str (s : Str) : Option Bool :=
  if s = ['1'] ∨ s = "true".toList ∨ s = "TRUE".toList ∨ s = "on".toList ∨ s = "ON".toList then some true
  else if s = ['0'] ∨ s = "false".toList ∨ s = "FALSE".toList ∨ s = "off".toList ∨ s = "OFF".toList then some false
  else none

inductive Kind where
  /-- `(uint8_t)std::stoul(val)` and its like, for a type of `width` bits -/
  | ulong (width : Nat)
  | ullong
  | tech
  | text (capacity : Nat)
  | flag

abbrev Kind.Val : Kind → Type
  | .ulong _ | .ullong => Nat
  | .tech => RadioTech
  | .text n => FixedString n
  | .flag => Bool

/-- The width of `unsigned long` depends on the platform. -/
def Kind.read (ulong : Nat) : (κ : Kind) → Str → Option κ.Val
  | .ulong width, s => (stoul ulong s).map (· % 2 ^ width)
  | .ullong, s => stoul 64 s
  | .tech, s => some (radio_tech_from_str s)
  | .text n, s => some (.ofView n s)
  | .flag, s => bool_from_str s

/-! ## Fields -/

namespace Key

/-- In the order in which the source compares them. -/
def all : List Key := [
  .cid, .attach_timeout_sec, .pdp_timeout_sec, .data_ready_timeout_sec, .transparent_timeout_sec,
  .max_network_attempts, .max_attach_retries, .max_pdp_retries, .default_lte_bands, .default_iot_tech, .default_apn,
  .fallback_lte_bands, .fallback_iot_tech, .fallback_apn, .plmn, .fPsmEnable, .fCfunSleep, .psm_t3412, .psm_t3324,
  .conn_id]

def kind : Key → Kind
  | cid | attach_timeout_sec | pdp_timeout_sec | data_ready_timeout_sec => .ulong 8
  | transparent_timeout_sec => .ulong 16
  | max_network_attempts | max_attach_retries | max_pdp_retries => .ulong 8
  | default_lte_bands | fallback_lte_bands => .ullong
  | default_iot_tech | fallback_iot_tech => .tech
  | default_apn | fallback_apn => .text MODEM_MEDIUM_STR
  | plmn => .text MODEM_SHORT_STR
  | fPsmEnable | fCfunSleep => .flag
  | psm_t3412 | psm_t3324 => .ulong 32
  | conn_id => .ulong 8

def get : (k : Key) → NetworkLteConfig → k.kind.Val
  | cid, c => c.cid
  | attach_timeout_sec, c => c.attach_timeout_sec
  | pdp_timeout_sec, c => c.pdp_timeout_sec
  | data_ready_timeout_sec, c => c.data_ready_timeout_sec
  | transparent_timeout_sec, c => c.transparent_timeout_sec
  | max_network_attempts, c => c.max_network_attempts
  | max_attach_retries, c => c.max_attach_retries
  | max_pdp_retries, c => c.max_pdp_retries
  | default_lte_bands, c => c.default_lte_bands
  | default_iot_tech, c => c.default_iot_tech
  | default_apn, c => c.default_apn
  | fallback_lte_bands, c => c.fallback_lte_bands
  | fallback_iot_tech, c => c.fallback_iot_tech
  | fallback_apn, c => c.fallback_apn
  | plmn, c => c.plmn
  | fPsmEnable, c => c.fPsmEnable
  | fCfunSleep, c => c.fCfunSleep
  | psm_t3412, c => c.psm_t3412
  | psm_t3324, c => c.psm_t3324
  | conn_id, c => c.conn_id

def put : (k : Key) → k.kind.Val → NetworkLteConfig → NetworkLteConfig
  | cid, v, c => { c with cid := v }
  | attach_timeout_sec, v, c => { c with attach_timeout_sec := v }
  | pdp_timeout_sec, v, c => { c with pdp_timeout_sec := v }
  | data_ready_timeout_sec, v, c => { c with data_ready_timeout_sec := v }
  | transparent_timeout_sec, v, c => { c with transparent_timeout_sec := v }
  | max_network_attempts, v, c => { c with max_network_attempts := v }
  | max_attach_retries, v, c => { c with max_attach_retries := v }
  | max_pdp_retries, v, c => { c with max_pdp_retries := v }
  | default_lte_bands, v, c => { c with default_lte_bands := v }
  | default_iot_tech, v, c => { c with default_iot_tech := v }
  | default_apn, v, c => { c with default_apn := v }
  | fallback_lte_bands, v, c => { c with fallback_lte_bands := v }
  | fallback_iot_tech, v, c => { c with fallback_iot_tech := v }
  | fallback_apn, v, c => { c with fallback_apn := v }
  | plmn, v, c => { c with plmn := v }
  | fPsmEnable, v, c => { c with fPsmEnable := v }
  | fCfunSleep, v, c => { c with fCfunSleep := v }
  | psm_t3412, v, c => { c with psm_t3412 := v }
  | psm_t3324, v, c => { c with psm_t3324 := v }
  | conn_id, v, c => { c with conn_id := v }

def record : Record Key (fun k => k.kind.Val) NetworkLteConfig where
  get := get
  put := put
  get_put k v c := by cases k <;> rfl
  get_other k j v c h := by cases k <;> cases j <;> first | rfl | exact absurd rfl h

/-- The chain of comparisons with the names. -/
def of_name (s : Str) : Option Key := all.find? fun k => k.name.text = s

theorem mem_all (k : Key) : k ∈ all := by cases k <;> decide

end Key

/-! ## The parser -/

/-- The next assignment, up to a blank, and what follows it. Blanks stand before the name, and within it. -/
def next_field (args : Str) : Option ((Str × Str) × Str) :=
  match cut '=' (args.dropWhile (· = ' ')) with
  | (_, none) => none
  | (key, some rest) => some ((key, (cut ' ' rest).1), (cut ' ' rest).2.getD [])

def apply_field (ulong : Nat) (f : Str × Str) (cfg : NetworkLteConfig × Bool) : NetworkLteConfig × Bool :=
  match Key.of_name f.1 with
  | none => cfg
  | some k =>
    match k.kind.read ulong f.2 with
    | none => cfg
    | some v => (k.put v cfg.1, true)

/-- Every assignment takes a character at least. -/
def apply_loop (ulong : Nat) : Nat → Str → NetworkLteConfig × Bool → NetworkLteConfig × Bool
  | 0, _, cfg => cfg
  | fuel + 1, args, cfg =>
    match next_field args with
    | none => cfg
    | some (f, rest) => apply_loop ulong fuel rest (apply_field ulong f cfg)

def apply_config_fields (ulong : Nat) (args : Str) (cfg : NetworkLteConfig) : NetworkLteConfig × Bool :=
  apply_loop ulong args.length args (cfg, false)

/-! ## What a text assigns -/

theorem cut_eq {c : Char} {s a b : Str} (h : cut c s = (a, some b)) : s = a ++ c :: b := by
  have hc : c ∈ s := mem_of_cut h
  obtain ⟨a', b', rfl, ha⟩ := List.eq_append_cons_of_mem hc
  rw [cut_append ha] at h
  cases h
  rfl

theorem next_field_some {args rest : Str} {f : Str × Str} (h : next_field args = some (f, rest)) :
    rest.length < args.length ∧ ' ' ∉ f.2 := by
  rw [next_field] at h
  rcases hcut : cut '=' (args.dropWhile (· = ' ')) with ⟨key, _ | tail⟩
  · simp only [hcut] at h
    cases h
  · simp only [hcut] at h
    cases h
    have hlen := congrArg List.length (cut_eq hcut)
    have hdrop := (List.dropWhile_suffix (l := args) (· = ' ')).length_le
    rw [List.length_append, List.length_cons] at hlen
    rcases hval : cut ' ' tail with ⟨val, _ | more⟩
    · exact ⟨by simp only [Option.getD_none, List.length_nil]; omega, not_mem_cut hval⟩
    · have hmore := congrArg List.length (cut_eq hval)
      rw [List.length_append, List.length_cons] at hmore
      exact ⟨by simp only [Option.getD_some]; omega, not_mem_cut hval⟩

def field_list : Nat → Str → List (Str × Str)
  | 0, _ => []
  | fuel + 1, args =>
    match next_field args with
    | none => []
    | some (f, rest) => f :: field_list fuel rest

/-- The assignments of a text, with names and values as they stand there. -/
def assignments (args : Str) : List (Str × Str) := field_list args.length args

theorem field_list_of_le {n : Nat} {args : Str} (h : args.length ≤ n) : field_list n args = assignments args := by
  rw [assignments]
  generalize hm : args.length = m at h ⊢
  induction m using Nat.strongRecOn generalizing n args with
  | _ m ih =>
    rcases hnext : next_field args with _ | ⟨f, rest⟩
    · cases n <;> cases m <;> simp [field_list, hnext]
    · have hlt := (next_field_some hnext).1
      obtain ⟨n, rfl⟩ : ∃ k, n = k + 1 := ⟨n - 1, by omega⟩
      obtain ⟨m, rfl⟩ : ∃ k, m = k + 1 := ⟨m - 1, by omega⟩
      simp only [field_list, hnext]
      rw [ih rest.length (by omega) (n := n) rfl (by omega), ih rest.length (by omega) (n := m) rfl (by omega)]

theorem assignments_next {args rest : Str} {f : Str × Str} (h : next_field args = some (f, rest)) :
    assignments args = f :: assignments rest := by
  have hlt := (next_field_some h).1
  obtain ⟨n, hn⟩ : ∃ n, args.length = n + 1 := ⟨args.length - 1, by omega⟩
  rw [assignments, hn, field_list, h]
  exact congrArg (f :: ·) (field_list_of_le (by omega))

theorem assignments_end {args : Str} (h : next_field args = none) : assignments args = [] := by
  rw [assignments]
  cases args.length <;> simp [field_list, h]

/-- The text holds these assignments, a name and a value each: blanks, the name up to the first `=`, the value up to the
next blank. Behind the last one there is no `=`. -/
inductive Spelled : List (Str × Str) → Str → Prop
  | rest {s : Str} (h : '=' ∉ s) : Spelled [] s
  | last (blanks : Nat) {key val : Str} (hk : key.head? ≠ some ' ') (he : '=' ∉ key) (hv : ' ' ∉ val) :
    Spelled [(key, val)] (List.replicate blanks ' ' ++ (key ++ '=' :: val))
  | more (blanks : Nat) {key val s : Str} {fs : List (Str × Str)} (hk : key.head? ≠ some ' ') (he : '=' ∉ key)
    (hv : ' ' ∉ val) (h : Spelled fs s) :
    Spelled ((key, val) :: fs) (List.replicate blanks ' ' ++ (key ++ '=' :: (val ++ ' ' :: s)))

theorem next_field_of (blanks : Nat) {key : Str} (hk : key.head? ≠ some ' ') (he : '=' ∉ key) (rest : Str) :
    next_field (List.replicate blanks ' ' ++ (key ++ '=' :: rest)) =
      some ((key, (cut ' ' rest).1), (cut ' ' rest).2.getD []) := by
  have hdrop : (List.replicate blanks ' ' ++ (key ++ '=' :: rest)).dropWhile (· = ' ') = key ++ '=' :: rest := by
    rw [dropWhile_append_all fun c hc => by simpa using (List.mem_replicate.mp hc).2]
    rcases key with _ | ⟨c, key⟩
    · rfl
    · exact List.dropWhile_cons_of_neg (by simpa using hk)
  rw [next_field, hdrop, cut_append he]

theorem assignments_nil : assignments [] = [] := rfl

theorem Spelled.eq_assignments {fs : List (Str × Str)} {s : Str} (h : Spelled fs s) : fs = assignments s := by
  induction h with
  | rest h =>
    have hn : '=' ∉ List.dropWhile (· = ' ') _ := fun hm => h ((List.dropWhile_suffix _).subset hm)
    rw [assignments_end (by rw [next_field, cut_none hn])]
  | last blanks hk he hv =>
    have hnext := next_field_of blanks hk he
    rw [assignments_next (by rw [hnext, cut_none hv, Option.getD_none]), assignments_nil]
  | more blanks hk he hv _ ih =>
    have hnext := next_field_of blanks hk he
    rw [assignments_next (by rw [hnext, cut_append hv, Option.getD_some]), ih]

theorem spelled_assignments (s : Str) : Spelled (assignments s) s := by
  generalize hm : s.length = m
  induction m using Nat.strongRecOn generalizing s with
  | _ m ih =>
    obtain ⟨blanks, hblanks⟩ : ∃ n, s.takeWhile (· = ' ') = List.replicate n ' ' :=
      ⟨_, List.eq_replicate_of_mem fun c hc => by simpa using List.mem_takeWhile_imp hc⟩
    have hs : s = List.replicate blanks ' ' ++ s.dropWhile (· = ' ') := by
      rw [← hblanks, List.takeWhile_append_dropWhile]
    rcases hcut : cut '=' (s.dropWhile (· = ' ')) with ⟨key, _ | rest⟩
    · have hn : '=' ∉ s := by
        rw [hs, List.mem_append, not_or]
        exact ⟨fun h => absurd (List.mem_replicate.mp h).2 (by decide), not_mem_of_cut hcut⟩
      rw [assignments_end (by rw [next_field, hcut])]
      exact .rest hn
    · have hkey : key.head? ≠ some ' ' := by
        intro hk
        rcases key with _ | ⟨c, key⟩
        · cases hk
        · have hhead := List.head?_dropWhile_not (· = ' ') s
          rw [cut_eq hcut, List.cons_append, List.head?_cons] at hhead
          cases hk
          exact absurd hhead (by decide)
      have he : '=' ∉ key := not_mem_cut hcut
      have hrest : s = List.replicate blanks ' ' ++ (key ++ '=' :: rest) := by rw [← cut_eq hcut, ← hs]
      have hnext := next_field_of blanks hkey he rest
      rw [← hrest] at hnext
      have hlt := (next_field_some hnext).1
      have htail := ih _ (hm ▸ hlt) _ rfl
      rw [assignments_next hnext]
      rcases hval : cut ' ' rest with ⟨val, _ | more⟩
      · rw [hval, Option.getD_none] at htail
        rw [Option.getD_none, assignments_nil]
        have hwhole : val = rest := congrArg Prod.fst (hval.symm.trans (cut_none (not_mem_of_cut hval)))
        rw [hrest, ← hwhole]
        exact .last blanks hkey he (hwhole ▸ not_mem_of_cut hval)
      · rw [hval, Option.getD_some] at htail
        rw [hrest, cut_eq hval]
        exact .more blanks hkey he (not_mem_cut hval) htail

theorem Spelled.value_blank {fs : List (Str × Str)} {s : Str} (h : Spelled fs s) : ∀ f ∈ fs, ' ' ∉ f.2 := by
  induction h with
  | rest => exact nofun
  | last _ _ _ hv => exact List.forall_mem_singleton.mpr hv
  | more _ _ _ hv _ ih => exact List.forall_mem_cons.mpr ⟨hv, ih⟩

/-! ### Values -/

/-- The text begins with this number: spaces, a sign, zeros, its digits, and no further digit. -/
def Numeral (minus : Bool) (n : Nat) (s : Str) : Prop :=
  ∃ spaces sign zeros behind, s = spaces ++ (sign ++ (List.replicate zeros '0' ++ decimal n ++ behind)) ∧
    (∀ c ∈ spaces, isSpace c = true) ∧ sign ∈ (if minus then [['-']] else [[], ['+']]) ∧
    ∀ c ∈ behind.head?, isDigit c = false

def signed (minus : Bool) (n : Nat) : Int := if minus then -n else n

def technologies : List (Str × RadioTech) :=
  [("gsm".toList, .gsm), ("lte".toList, .lte), ("cat_m1".toList, .cat_m1), ("nb_iot".toList, .nb_iot)]

def flagWords : Bool → List Str
  | true => ["1", "true", "TRUE", "on", "ON"].map (·.toList)
  | false => ["0", "false", "FALSE", "off", "OFF"].map (·.toList)

/-- What a text stands for as a value of a kind. A number that `unsigned long` can hold wraps to the width of its field,
with a minus as well, any other text is a technology that has no name, and a text is cut to its capacity. -/
def Denotes (ulong : Nat) : (κ : Kind) → Str → κ.Val → Prop
  | .ulong width, s, (v : Nat) =>
    ∃ minus n, Numeral minus n s ∧ n < 2 ^ ulong ∧ (v : Int) = signed minus n % 2 ^ ulong % 2 ^ width
  | .ullong, s, (v : Nat) => ∃ minus n, Numeral minus n s ∧ n < 2 ^ 64 ∧ (v : Int) = signed minus n % 2 ^ 64
  | .tech, s, v => (s, v) ∈ technologies ∨ s ∉ technologies.map Prod.fst ∧ v = RadioTech.cat_m1
  | .text n, s, v => v.view = s.take n
  | .flag, s, v => s ∈ flagWords v

theorem signOf_cases (s : Str) : ∃ sign, sign ∈ (if (signOf s).1 then [['-']] else [[], ['+']]) ∧
    s = sign ++ (signOf s).2 := by
  rw [signOf.eq_def]
  split
  · exact ⟨['-'], by simp, rfl⟩
  · exact ⟨['+'], by simp, rfl⟩
  · exact ⟨[], by simp, rfl⟩

theorem signOf_digit {c : Char} (hc : isDigit c = true) (s : Str) : signOf (c :: s) = (false, c :: s) := by
  rw [signOf.eq_def]
  split
  · next h =>
    cases h
    cases hc
  · next h =>
    cases h
    cases hc
  · rfl

theorem signOf_append {minus : Bool} {sign : Str} (hsign : sign ∈ (if minus then [['-']] else [[], ['+']])) {c : Char}
    (hc : isDigit c = true) (s : Str) : signOf ((sign ++ c :: s).dropWhile isSpace) = (minus, c :: s) := by
  cases minus with
  | true =>
    obtain rfl : sign = ['-'] := by simpa using hsign
    rfl
  | false =>
    have hsign : sign = [] ∨ sign = ['+'] := by simpa using hsign
    rcases hsign with rfl | rfl
    · have hspace : isSpace c = false := isSpace_of_isDigit hc
      rw [List.nil_append, List.dropWhile_cons_of_neg (by simp [hspace]), signOf_digit hc]
    · rfl

theorem takeWhile_digits {digits behind : Str} (hd : ∀ c ∈ digits, isDigit c = true)
    (hb : ∀ c ∈ behind.head?, isDigit c = false) : (digits ++ behind).takeWhile isDigit = digits := by
  rw [List.takeWhile_append_of_pos hd]
  rcases behind with _ | ⟨d, behind⟩
  · exact List.append_nil _
  · rw [List.takeWhile_cons_of_neg (by simp [hb d rfl]), List.append_nil]

theorem numeral_iff {minus : Bool} {n : Nat} {s : Str} :
    Numeral minus n s ↔ (signOf (s.dropWhile isSpace)).1 = minus ∧
      (signOf (s.dropWhile isSpace)).2.takeWhile isDigit ≠ [] ∧
      digitsVal ((signOf (s.dropWhile isSpace)).2.takeWhile isDigit) = n := by
  constructor
  · rintro ⟨spaces, sign, zeros, behind, rfl, hspaces, hsign, hbehind⟩
    obtain ⟨c, digits, hcs, hc⟩ : ∃ c digits, List.replicate zeros '0' ++ decimal n = c :: digits ∧ isDigit c = true := by
      rcases zeros with _ | zeros
      · exact head_decimal n
      · exact ⟨'0', _, rfl, rfl⟩
    have hall : ∀ d ∈ List.replicate zeros '0' ++ decimal n, isDigit d = true := by
      intro d hd
      rcases List.mem_append.mp hd with hd | hd
      · rw [(List.mem_replicate.mp hd).2]
        rfl
      · exact isDigit_of_mem_decimal hd
    have hsigned := signOf_append hsign hc (digits ++ behind)
    rw [← List.cons_append, ← hcs] at hsigned
    rw [dropWhile_append_all hspaces, hsigned, takeWhile_digits hall hbehind]
    exact ⟨rfl, fun h => decimal_ne_nil n (List.append_eq_nil_iff.mp h).2, digitsVal_zeros zeros n⟩
  · rintro ⟨hminus, hne, hval⟩
    obtain ⟨sign, hsign, hsplit⟩ := signOf_cases (s.dropWhile isSpace)
    obtain ⟨zeros, hzeros⟩ := digits_eq (fun c hc => List.mem_takeWhile_imp hc) hne
    rw [hminus] at hsign
    rw [hval] at hzeros
    refine ⟨s.takeWhile isSpace, sign, zeros, (signOf (s.dropWhile isSpace)).2.dropWhile isDigit, ?_,
      fun c hc => List.mem_takeWhile_imp hc, hsign, fun c hc => ?_⟩
    · rw [← hzeros, List.takeWhile_append_dropWhile, ← hsplit, List.takeWhile_append_dropWhile]
    · have hhead := List.head?_dropWhile_not isDigit (signOf (s.dropWhile isSpace)).2
      rw [Option.mem_def.mp hc] at hhead
      simpa using hhead

theorem stoul_iff {bits : Nat} {s : Str} {w : Nat} : stoul bits s = some w ↔
    ∃ minus n, Numeral minus n s ∧ n < 2 ^ bits ∧ (w : Int) = signed minus n % 2 ^ bits := by
  simp only [numeral_iff]
  rw [stoul]
  generalize signOf (s.dropWhile isSpace) = p
  obtain ⟨minus, t⟩ := p
  generalize hn : digitsVal (t.takeWhile isDigit) = n
  have hpow : ((2 ^ bits : Nat) : Int) = 2 ^ bits := by norm_cast
  have hwrap : n < 2 ^ bits → ∀ w : Nat, (w : Int) = signed minus n % 2 ^ bits ↔
      w = if minus then (2 ^ bits - n) % 2 ^ bits else n := by
    intro hlt w
    rw [← hpow]
    cases minus with
    | true =>
      have hneg : -(n : Int) % (2 ^ bits : Nat) = ((2 ^ bits - n) % 2 ^ bits : Nat) := by
        rw [← Int.add_emod_right, Int.natCast_emod, Int.ofNat_sub hlt.le, Int.add_comm, Int.sub_eq_add_neg]
      rw [signed, if_pos rfl, if_pos rfl, hneg, Int.ofNat_inj]
    | false =>
      rw [signed, if_neg Bool.false_ne_true, if_neg Bool.false_ne_true, ← Int.natCast_emod, Nat.mod_eq_of_lt hlt,
        Int.ofNat_inj]
  constructor
  · intro h
    simp only [hn] at h
    split_ifs at h with hbad hm
    all_goals
      rw [not_or, Nat.not_le] at hbad
      refine ⟨minus, n, ⟨rfl, hbad.1, rfl⟩, hbad.2, (hwrap hbad.2 w).mpr ?_⟩
      simp only [hm]
      exact (Option.some.inj h).symm
  · rintro ⟨_, _, ⟨rfl, hne, rfl⟩, hlt, hw⟩
    rw [(hwrap hlt w).mp hw]
    simp only [hn]
    rw [if_neg (not_or.mpr ⟨hne, Nat.not_le.mpr hlt⟩)]
    cases minus <;> rfl

theorem radio_tech_from_str_iff {s : Str} {v : RadioTech} :
    radio_tech_from_str s = v ↔ (s, v) ∈ technologies ∨ s ∉ technologies.map Prod.fst ∧ v = .cat_m1 := by
  have hgsm : (Json.name "gsm").text = "gsm".toList := rfl
  have hlte : (Json.name "lte").text = "lte".toList := rfl
  have hcat : (Json.name "cat_m1").text = "cat_m1".toList := rfl
  have hiot : (Json.name "nb_iot").text = "nb_iot".toList := rfl
  simp only [radio_tech_from_str, hgsm, hlte, hcat, hiot]
  constructor
  · rintro rfl
    split_ifs with h₁ h₂ h₃ h₄
    · exact .inl (by simp [technologies, h₁])
    · exact .inl (by simp [technologies, h₂])
    · exact .inl (by simp [technologies, h₃])
    · exact .inl (by simp [technologies, h₄])
    · refine .inr ⟨?_, rfl⟩
      simp only [technologies, List.map_cons, List.map_nil, List.mem_cons, List.not_mem_nil, or_false, not_or]
      exact ⟨h₁, h₂, h₃, h₄⟩
  · rintro (h | ⟨h, rfl⟩)
    · simp only [technologies, List.mem_cons, Prod.mk.injEq, List.not_mem_nil, or_false] at h
      rcases h with ⟨rfl, rfl⟩ | ⟨rfl, rfl⟩ | ⟨rfl, rfl⟩ | ⟨rfl, rfl⟩ <;> rfl
    · simp only [technologies, List.map_cons, List.map_nil, List.mem_cons, List.not_mem_nil, or_false, not_or] at h
      rw [if_neg h.1, if_neg h.2.1, if_neg h.2.2.1, if_neg h.2.2.2]

theorem bool_from_str_iff {s : Str} {v : Bool} : bool_from_str s = some v ↔ s ∈ flagWords v := by
  have happart : ∀ t ∈ flagWords true, t ∉ flagWords false := by simp [flagWords]
  have htrue : (s = ['1'] ∨ s = "true".toList ∨ s = "TRUE".toList ∨ s = "on".toList ∨ s = "ON".toList) ↔
      s ∈ flagWords true := by
    simp only [flagWords, List.map_cons, List.map_nil, List.mem_cons, List.not_mem_nil, or_false]
    exact Iff.rfl
  have hfalse : (s = ['0'] ∨ s = "false".toList ∨ s = "FALSE".toList ∨ s = "off".toList ∨ s = "OFF".toList) ↔
      s ∈ flagWords false := by
    simp only [flagWords, List.map_cons, List.map_nil, List.mem_cons, List.not_mem_nil, or_false]
    exact Iff.rfl
  simp only [bool_from_str, htrue, hfalse]
  cases v with
  | true => by_cases h : s ∈ flagWords true <;> simp [h]
  | false =>
    by_cases h : s ∈ flagWords true
    · simp [h, happart s h]
    · simp [h]

theorem denotes_iff {ulong : Nat} {κ : Kind} {s : Str} {v : κ.Val} : Denotes ulong κ s v ↔ κ.read ulong s = some v := by
  cases κ with
  | ulong width =>
    have hpow : ((2 ^ width : Nat) : Int) = 2 ^ width := by norm_cast
    simp only [Denotes, Kind.read, Option.map_eq_some_iff, stoul_iff]
    constructor
    · rintro ⟨minus, n, hn, hlt, hv⟩
      have hwrapped : ((signed minus n % 2 ^ ulong).toNat : Int) = signed minus n % 2 ^ ulong :=
        Int.toNat_of_nonneg (Int.emod_nonneg _ (Int.pow_ne_zero (by decide)))
      refine ⟨(signed minus n % 2 ^ ulong).toNat, ⟨minus, n, hn, hlt, hwrapped⟩, Int.ofNat_inj.mp ?_⟩
      rw [Int.natCast_emod, hwrapped, hpow, hv]
    · rintro ⟨w, ⟨minus, n, hn, hlt, hw⟩, rfl⟩
      exact ⟨minus, n, hn, hlt, by rw [Int.natCast_emod, hw, hpow]⟩
  | ullong => exact stoul_iff.symm
  | tech => exact radio_tech_from_str_iff.symm.trans Option.some_inj.symm
  | text n =>
    simp only [Denotes, Kind.read, Option.some.injEq, FixedString.ext_iff]
    exact eq_comm
  | flag => exact bool_from_str_iff.symm

/-- The assignment of a value to a field, if there is such a field and the value can be read. -/
def effect (ulong : Nat) (f : Str × Str) : Option (Σ k : Key, k.kind.Val) :=
  (Key.of_name f.1).bind fun k => (k.kind.read ulong f.2).map fun v => ⟨k, v⟩

theorem apply_field_eq (ulong : Nat) (f : Str × Str) (cfg : NetworkLteConfig × Bool) :
    apply_field ulong f cfg =
      (Key.record.assign (effect ulong f).toList cfg.1, cfg.2 || (effect ulong f).isSome) := by
  unfold apply_field effect
  rcases Key.of_name f.1 with _ | k
  · exact Prod.ext rfl (Bool.or_false _).symm
  · rcases h : k.kind.read ulong f.2 with _ | v
    · simp only [Option.bind_some, h]
      exact Prod.ext rfl (Bool.or_false _).symm
    · simp only [Option.bind_some, h]
      exact Prod.ext rfl (Bool.or_true _).symm

theorem apply_loop_eq (ulong fuel : Nat) (args : Str) (cfg : NetworkLteConfig × Bool) :
    apply_loop ulong fuel args cfg = ((field_list fuel args).filterMap (effect ulong) |> fun l =>
      (Key.record.assign l cfg.1, cfg.2 || !l.isEmpty)) := by
  induction fuel generalizing args cfg with
  | zero => exact Prod.ext rfl (Bool.or_false _).symm
  | succ fuel ih =>
    rw [apply_loop, field_list]
    rcases next_field args with _ | ⟨f, rest⟩
    · exact Prod.ext rfl (Bool.or_false _).symm
    · simp only
      rw [ih, apply_field_eq, List.filterMap_cons]
      rcases effect ulong f with _ | a
      · exact Prod.ext rfl (by simp)
      · exact Prod.ext rfl (by simp)

theorem apply_config_fields_eq (ulong : Nat) (args : Str) (cfg : NetworkLteConfig) :
    apply_config_fields ulong args cfg = ((assignments args).filterMap (effect ulong) |> fun l =>
      (Key.record.assign l cfg, !l.isEmpty)) := by
  rw [apply_config_fields, apply_loop_eq]
  rfl

theorem find?_of_nodup {α β : Type} [DecidableEq β] {f : α → β} {l : List α} (hl : (l.map f).Nodup) {a : α}
    (ha : a ∈ l) : l.find? (fun b => f b = f a) = some a := by
  induction l with
  | nil => cases ha
  | cons b l ih =>
    rw [List.map_cons, List.nodup_cons] at hl
    rcases List.mem_cons.mp ha with rfl | ha
    · exact List.find?_cons_of_pos (by simp)
    · have hne : f b ≠ f a := fun h => hl.1 (h ▸ List.mem_map_of_mem ha)
      rw [List.find?_cons_of_neg (by simpa using hne)]
      exact ih hl.2 ha

theorem Key.names_nodup : (Key.all.map fun k => k.name.text).Nodup := by decide +kernel

theorem Key.of_name_name (k : Key) : Key.of_name k.name.text = some k := find?_of_nodup Key.names_nodup k.mem_all

theorem Key.of_name_eq_some {s : Str} {k : Key} : Key.of_name s = some k ↔ s = k.name.text := by
  constructor
  · intro h
    have := List.find?_some h
    exact (of_decide_eq_true this).symm
  · rintro rfl
    exact Key.of_name_name k

theorem effect_some {ulong : Nat} {f : Str × Str} {k : Key} {v : k.kind.Val} :
    effect ulong f = some ⟨k, v⟩ ↔ f.1 = k.name.text ∧ k.kind.read ulong f.2 = some v := by
  simp only [effect, Option.bind_eq_some_iff, Option.map_eq_some_iff, Key.of_name_eq_some]
  constructor
  · rintro ⟨j, hj, w, hw, h⟩
    cases h
    exact ⟨hj, hw⟩
  · rintro ⟨hk, hv⟩
    exact ⟨k, hk, v, hv, rfl⟩

def valuesOf (ulong : Nat) (k : Key) (fs : List (Str × Str)) : List k.kind.Val :=
  fs.filterMap fun f => if f.1 = k.name.text then k.kind.read ulong f.2 else none

/-- The values for a field that can be read from a text, in their order. -/
def values (ulong : Nat) (args : Str) (k : Key) : List k.kind.Val := valuesOf ulong k (assignments args)

theorem last_effects (ulong : Nat) (k : Key) (fs : List (Str × Str)) :
    Record.last k (fs.filterMap (effect ulong)) = (valuesOf ulong k fs).getLast? := by
  induction fs with
  | nil => rfl
  | cons f fs ih =>
    rw [valuesOf, List.filterMap_cons, List.filterMap_cons]
    rcases he : effect ulong f with _ | ⟨j, v⟩
    · have hnone : (if f.1 = k.name.text then k.kind.read ulong f.2 else none) = none := by
        by_contra h
        obtain ⟨v, hv⟩ := Option.ne_none_iff_exists'.mp h
        split at hv
        · next hk =>
          rw [effect_some.mpr ⟨hk, hv⟩] at he
          cases he
        · cases hv
      simp only [hnone]
      exact ih
    · obtain ⟨hj, hv⟩ := effect_some.mp he
      simp only [Record.last, ih]
      by_cases hjk : j = k
      · subst hjk
        rw [dif_pos rfl, if_pos hj, hv]
        simp only [List.getLast?_cons]
        rw [← valuesOf]
        cases (valuesOf ulong j fs).getLast? <;> rfl
      · have hne : f.1 ≠ k.name.text := by
          intro hk
          have hname := Key.of_name_name j
          rw [← hj, hk, Key.of_name_name] at hname
          exact hjk (Option.some.inj hname).symm
        rw [dif_neg hjk, if_neg hne, Option.or_none]
        rfl

theorem get_apply_config_fields (ulong : Nat) (args : Str) (cfg : NetworkLteConfig) (k : Key) :
    k.get (apply_config_fields ulong args cfg).1 = (values ulong args k).getLast?.getD (k.get cfg) := by
  rw [apply_config_fields_eq, values, ← last_effects]
  exact Key.record.get_assign k _ cfg

theorem apply_config_fields_keeps (ulong : Nat) (args : Str) (cfg : NetworkLteConfig) :
    (apply_config_fields ulong args cfg).1.gps_timeout_sec = cfg.gps_timeout_sec := by
  rw [apply_config_fields_eq]
  exact Key.record.assign_keeps (f := (·.gps_timeout_sec)) (fun k v c => by cases k <;> rfl) _ cfg

theorem apply_config_fields_accepts (ulong : Nat) (args : Str) (cfg : NetworkLteConfig) :
    (apply_config_fields ulong args cfg).2 = true ↔ ∃ f ∈ assignments args, (effect ulong f).isSome = true := by
  rw [apply_config_fields_eq]
  simp only [Bool.not_eq_true', List.isEmpty_eq_false_iff, ne_eq, List.filterMap_eq_nil_iff, not_forall,
    ← Option.isSome_iff_ne_none, exists_prop]

/-- The assignment gives the field a value. -/
def Gives (ulong : Nat) (k : Key) (f : Str × Str) (v : k.kind.Val) : Prop :=
  f.1 = k.name.text ∧ Denotes ulong k.kind f.2 v

theorem gives_iff {ulong : Nat} {k : Key} {f : Str × Str} {v : k.kind.Val} :
    Gives ulong k f v ↔ (if f.1 = k.name.text then k.kind.read ulong f.2 else none) = some v := by
  unfold Gives
  rw [denotes_iff]
  split_ifs with hk
  · exact and_iff_right hk
  · simp [hk]

theorem not_gives_iff {ulong : Nat} {k : Key} {f : Str × Str} :
    (∀ v, ¬ Gives ulong k f v) ↔ (if f.1 = k.name.text then k.kind.read ulong f.2 else none) = none := by
  simp only [gives_iff, Option.eq_none_iff_forall_ne_some, ne_eq]

/-- The value comes from the last assignment that gives the field one, or is the old one. -/
def Left (ulong : Nat) (k : Key) (fs : List (Str × Str)) (old v : k.kind.Val) : Prop :=
  (∃ before f after, fs = before ++ f :: after ∧ Gives ulong k f v ∧ ∀ g ∈ after, ∀ w, ¬ Gives ulong k g w) ∨
    (∀ g ∈ fs, ∀ w, ¬ Gives ulong k g w) ∧ v = old

theorem left_getLast (ulong : Nat) (k : Key) (fs : List (Str × Str)) (old : k.kind.Val) :
    Left ulong k fs old ((valuesOf ulong k fs).getLast?.getD old) := by
  simp only [Left, not_gives_iff]
  rw [valuesOf, List.getLast?_filterMap]
  rcases hf : fs.reverse.findSome? _ with _ | v
  · exact .inr ⟨fun g hg => List.findSome?_eq_none_iff.mp hf g (List.mem_reverse.mpr hg), rfl⟩
  · obtain ⟨after, f, before, hfs, hv, hafter⟩ := List.findSome?_eq_some_iff.mp hf
    refine .inl ⟨before.reverse, f, after.reverse, ?_, gives_iff.mpr hv, fun g hg => hafter g (List.mem_reverse.mp hg)⟩
    rw [← List.reverse_reverse fs, hfs]
    simp

/-- Every text spells one list of assignments. What is left in each field is the value of the last one that gives the
field a value, or what was there, and the text counts as accepted when one of them gives some field a value. -/
theorem last_valid_value_wins (ulong : Nat) (args : Str) (cfg : NetworkLteConfig) :
    ∃ fs, Spelled fs args ∧ (∀ gs, Spelled gs args → gs = fs) ∧
      (∀ k : Key, Left ulong k fs (k.get cfg) (k.get (apply_config_fields ulong args cfg).1)) ∧
      (apply_config_fields ulong args cfg).1.gps_timeout_sec = cfg.gps_timeout_sec ∧
      ((apply_config_fields ulong args cfg).2 = true ↔ ∃ f ∈ fs, ∃ k v, Gives ulong k f v) := by
  refine ⟨assignments args, spelled_assignments args, fun gs h => h.eq_assignments, fun k => ?_,
    apply_config_fields_keeps ulong args cfg, ?_⟩
  · rw [get_apply_config_fields]
    exact left_getLast ulong k (assignments args) (k.get cfg)
  · rw [apply_config_fields_accepts]
    refine exists_congr fun f => and_congr_right fun _ => ?_
    constructor
    · intro h
      obtain ⟨⟨k, v⟩, hkv⟩ := Option.isSome_iff_exists.mp h
      obtain ⟨hk, hv⟩ := effect_some.mp hkv
      exact ⟨k, v, hk, denotes_iff.mpr hv⟩
    · rintro ⟨k, v, hk, hv⟩
      rw [effect_some.mpr ⟨hk, denotes_iff.mp hv⟩]
      rfl

/-! ## From `GET CONFIG` back to `SET CONFIG` -/

/-- A member of an object without its quotes. -/
def bare : Json → Str
  | .num n => n.lexeme
  | .str s => s
  | .bool b => if b then "true".toList else "false".toList
  | _ => []

/-- The members of an object as assignments, with blanks between them. -/
def spell : Json → Str
  | .obj fields => [' '].intercalate (fields.map fun f => f.1 ++ '=' :: bare f.2)
  | _ => []

def Kind.item : (κ : Kind) → κ.Val → Item
  | .ulong _, v | .ullong, v => .nat v
  | .tech, v => .name v.to_str
  | .text _, v => .cstr v.view
  | .flag, v => .bool v

/-- A technology with a name of its own. -/
def RadioTech.named : RadioTech → Bool
  | .unknown | .other _ => false
  | _ => true

theorem named_of_str (s : Str) : RadioTech.named (radio_tech_from_str s) = true := by
  unfold radio_tech_from_str
  split_ifs <;> rfl

theorem radio_tech_to_str {t : RadioTech} (h : RadioTech.named t = true) : radio_tech_from_str t.to_str.text = t := by
  cases t <;> first | exact absurd h Bool.false_ne_true | rfl

theorem stoul_decimal {n bits : Nat} (h : n < 2 ^ bits) : stoul bits (decimal n) = some n := by
  obtain ⟨c, s, hs, hc⟩ := head_decimal n
  have hdrop : (decimal n).dropWhile isSpace = decimal n := by
    rw [hs, List.dropWhile_cons_of_neg (by simp [isSpace_of_isDigit hc])]
  have hsign : signOf (decimal n) = (false, decimal n) := by rw [hs, signOf_digit hc]
  rw [stoul, hdrop, hsign]
  simp only [takeWhile_decimal, digitsVal_decimal, decimal_ne_nil, false_or, Bool.false_eq_true, if_false]
  rw [if_neg (by omega)]

theorem bool_from_bare (b : Bool) : bool_from_str (bare (.bool b)) = some b := by
  cases b <;> rfl

/-- The value can be written without blanks. -/
def Kind.Spellable : (κ : Kind) → κ.Val → Prop
  | .ulong _, _ | .ullong, _ | .flag, _ => True
  | .tech, v => RadioTech.named v = true
  | .text _, v => ' ' ∉ v.view

def Kind.InRange : (κ : Kind) → κ.Val → Prop
  | .ulong width, v => v < 2 ^ width
  | .ullong, v => v < 2 ^ 64
  | _, _ => True

theorem Kind.read_bare {ulong : Nat} (κ : Kind) (hw : ∀ w, κ = .ulong w → w ≤ ulong) {v : κ.Val} (hr : κ.InRange v)
    (hs : κ.Spellable v) : κ.read ulong (bare (κ.item v).json) = some v := by
  cases κ with
  | ulong width =>
    have hv : (v : Nat) < 2 ^ width := hr
    have hle : 2 ^ width ≤ 2 ^ ulong := Nat.pow_le_pow_right (by decide) (hw width rfl)
    change (stoul ulong (decimal v)).map (· % 2 ^ width) = some v
    rw [stoul_decimal (Nat.lt_of_lt_of_le hv hle), Option.map_some, Nat.mod_eq_of_lt hv]
  | ullong => exact stoul_decimal hr
  | tech => exact congrArg some (radio_tech_to_str hs)
  | text n => exact congrArg some (FixedString.ext (List.take_of_length_le v.fits))
  | flag => exact bool_from_bare v

theorem not_mem_to_str (t : RadioTech) : ' ' ∉ t.to_str.text := by
  have hunknown : ' ' ∉ RadioTech.unknown.to_str.text := by simp [RadioTech.to_str]
  cases t <;> first | exact hunknown | simp [RadioTech.to_str]

theorem Kind.bare_blank (κ : Kind) {v : κ.Val} (hs : κ.Spellable v) : ' ' ∉ bare (κ.item v).json := by
  cases κ with
  | ulong _ | ullong => exact not_mem_decimal rfl
  | tech => exact not_mem_to_str v
  | text n => exact hs
  | flag => cases v <;> decide

theorem Kind.read_spellable {ulong : Nat} (κ : Kind) {s : Str} {v : κ.Val} (h : κ.read ulong s = some v) (hs : ' ' ∉ s) :
    κ.Spellable v := by
  cases κ with
  | ulong _ | ullong | flag => trivial
  | tech =>
    cases h
    exact named_of_str s
  | text n =>
    cases h
    exact fun hm => hs (List.mem_of_mem_take hm)

theorem spelled_intercalate (l : List (Str × Str)) (h : ∀ f ∈ l, f.1.head? ≠ some ' ' ∧ '=' ∉ f.1 ∧ ' ' ∉ f.2) :
    Spelled l ([' '].intercalate (l.map fun f => f.1 ++ '=' :: f.2)) := by
  induction l with
  | nil => exact .rest (List.not_mem_nil)
  | cons f l ih =>
    obtain ⟨⟨hk, he, hv⟩, hl⟩ := List.forall_mem_cons.mp h
    rcases l with _ | ⟨g, l⟩
    · rw [List.map_cons, List.map_nil, List.intercalate_singleton]
      exact .last 0 hk he hv
    · have hsplit : [' '].intercalate ((f :: g :: l).map fun f => f.1 ++ '=' :: f.2) =
          f.1 ++ '=' :: (f.2 ++ ' ' :: [' '].intercalate ((g :: l).map fun f => f.1 ++ '=' :: f.2)) := by
        rw [List.map_cons, List.map_cons, List.intercalate_cons_cons]
        simp only [List.append_assoc, List.cons_append, List.nil_append]
      rw [hsplit]
      exact .more 0 hk he hv (ih hl)

theorem Key.name_spelled (k : Key) : k.name.text.head? ≠ some ' ' ∧ '=' ∉ k.name.text := by
  cases k <;> simp [Key.name]

/-- The members of a configuration as assignments. -/
def fieldsOf (c : NetworkLteConfig) : List (Str × Str) :=
  Key.all.map fun k => (k.name.text, bare (k.kind.item (k.get c)).json)

theorem spell_config (c : NetworkLteConfig) :
    spell c.item.json = [' '].intercalate ((fieldsOf c).map fun f => f.1 ++ '=' :: f.2) := rfl

theorem effects_fieldsOf {ulong : Nat} (hu : 32 ≤ ulong) {c : NetworkLteConfig} (h : c.InRange)
    (hs : ∀ k : Key, k.kind.Spellable (k.get c)) :
    (fieldsOf c).filterMap (effect ulong) = Key.all.map fun k => ⟨k, k.get c⟩ := by
  have hr : ∀ k : Key, k.kind.InRange (k.get c) := by
    obtain ⟨h₁, h₂, h₃, h₄, h₅, h₆, h₇, h₈, h₉, h₁₀, h₁₁, h₁₂, h₁₃⟩ := h
    intro k
    cases k <;> trivial
  have hwidth : ∀ k : Key, ∀ w, k.kind = .ulong w → w ≤ ulong := by
    intro k w hw
    cases k <;> cases hw <;> omega
  rw [fieldsOf, List.filterMap_map, ← List.filterMap_eq_map]
  refine List.filterMap_congr fun k _ => ?_
  exact effect_some.mpr ⟨rfl, k.kind.read_bare (hwidth k) (hr k) (hs k)⟩

theorem assign_all (c d : NetworkLteConfig) : Key.record.assign (Key.all.map fun k => ⟨k, k.get c⟩) d =
    { c with gps_timeout_sec := d.gps_timeout_sec } := by
  rcases c with ⟨c, _, _, _⟩
  rcases d with ⟨d, _, _, _⟩
  cases c
  cases d
  rfl

/-- What `GET CONFIG` shows of a configuration with printable texts, read as JSON and written back as assignments,
makes any configuration this one, but for the field that has no name, exactly when no text in it has a blank and its
technologies have names. -/
theorem config_restored_iff {ulong : Nat} (hu : 32 ≤ ulong) (c : NetworkLteConfig) (h : c.InRange)
    (hp : ∀ s ∈ [c.default_apn.view, c.fallback_apn.view, c.plmn.view], plain s = true) :
    ∃ j, parse (config_to_json c) = some j ∧
      ((∀ d : NetworkLteConfig, apply_config_fields ulong (spell j) d =
        ({ c with gps_timeout_sec := d.gps_timeout_sec }, true)) ↔ ∀ k : Key, k.kind.Spellable (k.get c)) := by
  have hgood : c.item.good := ⟨hp, nofun⟩
  refine ⟨c.item.json, by rw [NetworkLteConfig.whole h, c.item.parse_iff.mpr hgood], fun hall k => ?_, fun hs d => ?_⟩
  · let blank : NetworkLteConfig :=
      { c with
        default_iot_tech := .gsm, fallback_iot_tech := .gsm, default_apn := .empty _, fallback_apn := .empty _
        plmn := .empty _ }
    have hget := get_apply_config_fields ulong (spell c.item.json) blank k
    rw [hall blank] at hget
    have hk : k.get { c with gps_timeout_sec := blank.gps_timeout_sec } = k.get c := by cases k <;> rfl
    rw [← hk, hget]
    rcases hlast : (values ulong (spell c.item.json) k).getLast? with _ | v
    · rw [Option.getD_none]
      cases k <;> first | trivial | exact List.not_mem_nil
    · obtain ⟨f, hf, hv⟩ := List.mem_filterMap.mp (List.mem_of_getLast? hlast)
      split at hv
      · exact k.kind.read_spellable hv ((spelled_assignments _).value_blank f hf)
      · cases hv
  · have hfields : ∀ f ∈ fieldsOf c, f.1.head? ≠ some ' ' ∧ '=' ∉ f.1 ∧ ' ' ∉ f.2 := by
      intro f hf
      obtain ⟨k, -, rfl⟩ := List.mem_map.mp hf
      exact ⟨k.name_spelled.1, k.name_spelled.2, k.kind.bare_blank (hs k)⟩
    rw [apply_config_fields_eq, spell_config, ← (spelled_intercalate _ hfields).eq_assignments, effects_fieldsOf hu h hs]
    exact Prod.ext (assign_all c d) rfl

/-- A configuration of which every field was set. -/
def tuned : NetworkLteConfig where
  cid := 3
  attach_timeout_sec := 90
  pdp_timeout_sec := 45
  data_ready_timeout_sec := 0
  transparent_timeout_sec := 40000
  max_network_attempts := 5
  max_attach_retries := 4
  max_pdp_retries := 7
  default_lte_bands := 134217728
  default_iot_tech := .nb_iot
  default_apn := .ofView _ "iot.\"m\"=1".toList
  fallback_lte_bands := 18446744073709551615
  fallback_iot_tech := .cat_m1
  fallback_apn := .empty _
  plmn := .ofView _ "26806".toList
  fPsmEnable := true
  fCfunSleep := true
  psm_t3412 := 3600
  psm_t3324 := 4294967295
  conn_id := 6

theorem config_restored_tuned : ∃ j, parse (config_to_json tuned) = some j ∧
    ∀ d : NetworkLteConfig, apply_config_fields 64 (spell j) d =
      ({ tuned with gps_timeout_sec := d.gps_timeout_sec }, true) := by
  have hrange : tuned.InRange := by
    unfold NetworkLteConfig.InRange
    decide
  have hlong : 32 ≤ 64 := by decide
  obtain ⟨j, hj, hiff⟩ := config_restored_iff hlong tuned hrange (by decide)
  have hspellable : ∀ k : Key, k.kind.Spellable (k.get tuned) := by
    have happ : ' ' ∉ tuned.default_apn.view := by decide
    have hplmn : ' ' ∉ tuned.plmn.view := by decide
    intro k
    cases k
    case default_apn => exact happ
    case fallback_apn => exact List.not_mem_nil
    case plmn => exact hplmn
    case default_iot_tech | fallback_iot_tech => rfl
    all_goals exact True.intro
  exact ⟨j, hj, hiff.mpr hspellable⟩

end LteModem.Rpc
