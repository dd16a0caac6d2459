import LteModem.XE310.Outcomes

/-!
# What is left of an earlier answer (`xe310.cpp`)

Seven queries return `ok` for an answer with too few fields, and leave the fields that are missing as they were.
-/

open Strings

namespace LteModem.Leftovers

open XE310 Replies

/-! ## Two runs -/

section

variable {τ : Type} {read : τ → ModemStatus × τ} {current : τ → τ}

/-- If the read succeeds, the fields that count do not depend on what was there before. -/
def Settles (read : τ → ModemStatus × τ) (current : τ → τ) : Prop :=
  ∀ out out', (read out).1 = .ok → current (read out).2 = current (read out').2

theorem settles_of_failed (h : ∀ out, (read out).1 ≠ .ok) : Settles read current :=
  fun out _ ho => absurd ho (h out)

theorem settles_of_eq (h : ∀ out out', current (read out).2 = current (read out').2) : Settles read current :=
  fun out out' _ => h out out'

theorem not_settles {β : Type} (g : τ → β) (hok : ∀ out, (read out).1 = .ok)
    (hg : ∀ out, g (current (read out).2) = g out) {o p : τ} (ho : g o ≠ g p) : ¬ Settles read current := by
  intro h
  apply ho
  rw [← hg o, ← hg p, h o p (hok o)]

theorem not_settles_of_kept (h : ∀ out, read out = (.ok, out)) {o p : τ} (ho : current o ≠ current p) :
    ¬ Settles read current := by
  intro hs
  apply ho
  have he := hs o p (by rw [h])
  rwa [h, h] at he

theorem settles_cut (c : Char) (body : Str) (f : Str → τ) {o p : τ} (ho : o ≠ p) :
    Settles (fun out => match cut c body with
      | (_, none) => (.ok, out)
      | (_, some rest) => (.ok, f rest)) id ↔ c ∈ body := by
  rcases hc : cut c body with ⟨t, _ | rest⟩
  · simp only [not_mem_of_cut hc, iff_false]
    exact not_settles_of_kept (fun _ => rfl) ho
  · simp only [mem_of_cut hc, iff_true]
    apply settles_of_eq
    intro out out'
    rfl

end

/-! ## The queries -/

section

variable (body : Str)

/-- The fields of the output that the query reports: the name of the operator and the APN come from others. -/
def reported (info : RegistrationInfo) : RegistrationInfo := { info with operator_name := .empty _, apn := .empty _ }

theorem registration_settles : Settles (get_registration_status ⟨.ok, body⟩) reported ↔
    ∀ params, afterColon body = some params → 5 ≤ (fields 8 params).length := by
  unfold get_registration_status
  cases hc : afterColon body with
  | none => simp [Settles]
  | some params =>
    simp only [Option.some.injEq, forall_eq', ne_eq, not_true_eq_false, if_false, List.length_map]
    constructor
    · intro hs
      by_contra hn
      apply not_settles RegistrationInfo.act _ _ (o := { act := .gsm }) (p := { act := .lte }) (by simp) hs
      · simp
      · simp [reported, hn]
    · intro hn
      have h2 : 2 ≤ (fields 8 params).length := by omega
      have h4 : 4 ≤ (fields 8 params).length := by omega
      apply settles_of_eq
      intro out out'
      simp only [reported, h2, h4, hn, if_true]

theorem iot_tech_settles : Settles (get_iot_tech_priority ⟨.ok, body⟩) id ↔ ':' ∈ body := by
  unfold get_iot_tech_priority get_iot_tech afterColon
  rcases hc : cut ':' body with ⟨t, _ | params⟩
  · simp only [not_mem_of_cut hc, iff_false]
    apply not_settles_of_kept (fun _ => rfl) (o := (.gsm, 0)) (p := (.lte, 0))
    simp
  · simp only [mem_of_cut hc, iff_true]
    apply settles_of_eq
    intro out out'
    rfl

theorem signal_quality_settles : Settles (get_signal_quality ⟨.ok, body⟩) id ↔
    ∃ values, afterColon body = some values ∧ 6 ≤ (fields 6 values).length := by
  have ho : id ({ rsrp := 0 } : SignalQuality) ≠ id { rsrp := 1 } := by simp
  unfold get_signal_quality
  cases hc : afterColon body with
  | none =>
    simp only [reduceCtorEq, false_and, exists_false, iff_false]
    exact not_settles_of_kept (fun _ => rfl) ho
  | some values =>
    simp only [Option.some.injEq, exists_eq_left', ne_eq, not_true_eq_false, if_false, List.length_map]
    by_cases hn : (fields 6 values).length < 6
    · simp only [hn, if_true, show ¬ 6 ≤ (fields 6 values).length by omega, iff_false]
      exact not_settles_of_kept (fun _ => rfl) ho
    · simp only [hn, if_false, not_lt.mp hn, iff_true]
      apply settles_of_eq
      intro out out'
      rfl

theorem telit_psm_settles : Settles (get_telit_psm ⟨.ok, body⟩) id ↔
    ∀ params, afterColon body = some params →
      let f := (fields 6 params).map (unpadded 32)
      6 ≤ f.length ∧ f.getD 1 [] ≠ [] ∧ f.getD 2 [] ≠ [] := by
  unfold get_telit_psm
  cases hc : afterColon body with
  | none => simp [Settles]
  | some params =>
    simp only [Option.some.injEq, forall_eq', ne_eq, not_true_eq_false, if_false]
    generalize (fields 6 params).map (unpadded 32) = f
    constructor
    · intro hs
      by_cases h6 : 6 ≤ f.length
      · refine ⟨h6, fun h => ?_, fun h => ?_⟩
        · apply not_settles TelitCpsmsStatus.t3324 _ _ (o := { t3324 := 0 }) (p := { t3324 := 1 }) (by simp) hs
          · simp
          · simp only [id, h, not_true_eq_false, and_false, if_false, implies_true]
        · apply not_settles TelitCpsmsStatus.t3412 _ _ (o := { t3412 := 0 }) (p := { t3412 := 1 }) (by simp) hs
          · simp
          · simp only [id, h, not_true_eq_false, and_false, if_false, implies_true]
      · apply absurd hs
        apply not_settles TelitCpsmsStatus.mode (o := { mode := .disable }) (p := { mode := .enable })
        · simp
        · simp [h6]
        · simp
    · rintro ⟨h6, h1, h2⟩
      apply settles_of_eq
      intro out out'
      simp only [id, show 1 ≤ f.length by omega, show 2 ≤ f.length by omega, show 3 ≤ f.length by omega,
        show 4 ≤ f.length by omega, show 5 ≤ f.length by omega, h6, h1, h2, not_false_eq_true, and_self, if_true]

theorem sim_status_settles : Settles (query_sim_status ⟨.ok, body⟩) id ↔ ',' ∈ body :=
  settles_cut ',' body _ (show SimStatus.inserted ≠ .not_inserted by simp)

theorem udp_status_settles : Settles (udp_status ⟨.ok, body⟩) id ↔ ',' ∈ body :=
  settles_cut ',' body _ Nat.zero_ne_one

theorem ip_address_settles : Settles (get_ip_address ⟨.ok, body⟩) id ↔ 2 ≤ body.count '"' := by
  have ho : id (FixedString.empty MODEM_IP_STR) ≠ id (.ofView _ ['1']) := by decide
  unfold get_ip_address
  rcases hc : cut '"' body with ⟨t, _ | rest⟩
  · simp only [List.count_eq_zero.mpr (not_mem_of_cut hc), show ¬ 2 ≤ 0 by omega, iff_false]
    exact not_settles_of_kept (fun _ => rfl) ho
  · rw [count_cut hc]
    by_cases hr : '"' ∈ rest
    · have hp := List.count_pos_iff.mpr hr
      simp only [hr, if_true, show 2 ≤ rest.count '"' + 1 by omega, iff_true]
      apply settles_of_eq
      intro out out'
      rfl
    · simp only [hr, if_false, List.count_eq_zero.mpr hr, show ¬ 2 ≤ 0 + 1 by omega, iff_false]
      exact not_settles_of_kept (fun _ => rfl) ho

end

/-! ## All seven -/

/-- The queries whose outputs the state machine keeps, or leaves uninitialised. -/
inductive StatusQuery where
  | get_registration_status (tech : RadioTech) | get_iot_tech | get_signal_quality | get_telit_psm
  | query_sim_status | udp_status (conn_id : Nat) | get_ip_address (cid : Nat)

def StatusQuery.query : StatusQuery → Query
  | .get_registration_status tech => .get_registration_status tech
  | .get_iot_tech => .get_iot_tech
  | .get_signal_quality => .get_signal_quality
  | .get_telit_psm => .get_telit_psm
  | .query_sim_status => .query_sim_status
  | .udp_status conn_id => .udp_status conn_id
  | .get_ip_address cid => .get_ip_address cid

def StatusQuery.reported (L : FloatLib) : (q : StatusQuery) → q.query.Out L → q.query.Out L
  | .get_registration_status _ => Leftovers.reported
  | _ => id

/-- The answer has every field, or is found malformed. -/
def StatusQuery.Complete (body : Str) : StatusQuery → Prop
  | .get_registration_status _ => ∀ params, afterColon body = some params → 5 ≤ (fields 8 params).length
  | .get_iot_tech => ':' ∈ body
  | .get_signal_quality => ∃ values, afterColon body = some values ∧ 6 ≤ (fields 6 values).length
  | .get_telit_psm => ∀ params, afterColon body = some params →
    let f := (fields 6 params).map (unpadded 32)
    6 ≤ f.length ∧ f.getD 1 [] ≠ [] ∧ f.getD 2 [] ≠ []
  | .query_sim_status | .udp_status _ => ',' ∈ body
  | .get_ip_address _ => 2 ≤ body.count '"'

theorem read_settles (L : FloatLib) (q : StatusQuery) (a : Answer) :
    Settles (q.query.read L a) (q.reported L) ↔ (a.status = .ok → q.Complete a.body) := by
  obtain ⟨status, body⟩ := a
  by_cases h : status = .ok
  · subst h
    simp only [true_imp_iff]
    cases q with
    | get_registration_status tech => exact registration_settles body
    | get_iot_tech => exact iot_tech_settles body
    | get_signal_quality => exact signal_quality_settles body
    | get_telit_psm => exact telit_psm_settles body
    | query_sim_status => exact sim_status_settles body
    | udp_status conn_id => exact udp_status_settles body
    | get_ip_address cid => exact ip_address_settles body
  · simp only [h, false_imp_iff, iff_true]
    apply settles_of_failed
    intro out ho
    exact h ((q.query.read_ends L ⟨status, body⟩ out).ok ho)

section

variable {σ : Type} (u : Uart σ) (fuel : Nat) (L : FloatLib) (q : StatusQuery) (x : XE310 σ)

/-- Two runs that get one answer report the same, whatever their outputs held before. -/
def Fresh : Prop :=
  ∀ out out' r r', (q.query.run u fuel L out x).1 = some r → (q.query.run u fuel L out' x).1 = some r' →
    r.1 = .ok → q.reported L r.2 = q.reported L r'.2

theorem fresh_report_iff : Fresh u fuel L q x ↔
    ∀ a, (q.query.ask u fuel x).1 = some a → a.status = .ok → q.Complete a.body := by
  constructor
  · intro h a ha
    apply (read_settles L q a).mp
    intro out out' ho
    have hr (o : q.query.Out L) : (q.query.run u fuel L o x).1 = some (q.query.read L a o) := by
      rw [Query.run_result, ha]
      rfl
    exact h out out' _ _ (hr out) (hr out') ho
  · intro h out out' r r' hr hr' ho
    rw [Query.run_result] at hr hr'
    obtain ⟨a, ha, rfl⟩ := Option.map_eq_some_iff.mp hr
    obtain ⟨a', ha', rfl⟩ := Option.map_eq_some_iff.mp hr'
    obtain rfl : a = a' := Option.some.inj (ha.symm.trans ha')
    exact (read_settles L q a).mpr (h a ha) out out' ho

end

/-- Not registered, and still in a cell: the answer has two fields. -/
theorem stale_location :
    let L : FloatLib := ⟨Int, 0, atoi, id⟩
    let located : RegistrationInfo := { lac := .ofView _ "1A2B".toList, act := .cat_m1, fHasLocation := true }
    let ask (info : RegistrationInfo) := (Query.run ModemController.scripted 1 L
      (.get_registration_status .cat_m1) info
      { controller_ := { uart_ := ["+CEREG: 4,2\r\nOK\r\n".toList] } }).1
    (ask {}).map (fun r : ModemStatus × RegistrationInfo => (r.1, r.2.fHasLocation, r.2.lac.view)) =
        some (.ok, false, []) ∧
      (ask located).map (fun r : ModemStatus × RegistrationInfo => (r.1, r.2.fHasLocation, r.2.lac.view)) =
        some (.ok, true, "1A2B".toList) := by
  decide +kernel

end LteModem.Leftovers
