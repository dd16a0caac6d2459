import LteModem.XE310.Operations

/-!
# What an operation leaves behind

A query passes on the status of its exchange, finds the answer malformed, or reads it; only the last of
these writes to the output. Every status but that of `udp_send` goes through `last_status_`.
-/

open Strings

namespace LteModem

/-! ## The three ends of a query -/

inductive Ends {τ : Type} (a : Answer) (out : τ) : ModemStatus × τ → Prop
  | refused (h : a.status ≠ .ok) : Ends a out (a.status, out)
  | malformed (h : a.status = .ok) : Ends a out (.at_error, out)
  | read (h : a.status = .ok) (new : τ) : Ends a out (.ok, new)

section

variable {τ : Type} {a : Answer} {out : τ}

theorem Ends.guard {r : ModemStatus × τ} (h : a.status = .ok → Ends a out r) :
    Ends a out (if a.status ≠ .ok then (a.status, out) else r) := by
  split
  · exact .refused ‹_›
  · exact h (not_not.mp ‹_›)

theorem Ends.keeps {r : ModemStatus × τ} (h : Ends a out r) (hr : r.1 ≠ .ok) : r.2 = out := by
  cases h with
  | refused => rfl
  | malformed => rfl
  | read => exact absurd rfl hr

theorem Ends.ok {r : ModemStatus × τ} (h : Ends a out r) (hr : r.1 = .ok) : a.status = .ok := by
  cases h with
  | refused h => exact hr
  | malformed => cases hr
  | read h => exact h

theorem Ends.refused_eq {r : ModemStatus × τ} (h : Ends a out r) (ha : a.status ≠ .ok) : r = (a.status, out) := by
  cases h with
  | refused => rfl
  | malformed h => exact absurd h ha
  | read h => exact absurd h ha

theorem Ends.timeout {r : ModemStatus × τ} (h : Ends a out r) (hr : r.1 = .timeout) : a.status = .timeout := by
  cases h with
  | refused => exact hr
  | malformed => cases hr
  | read => cases hr

end

theorem Replies.get_iot_tech_priority_ends (a : Answer) (out : RadioTech × Nat) :
    Ends a out (get_iot_tech_priority a out) := by
  unfold get_iot_tech_priority get_iot_tech
  by_cases h : a.status = .ok
  · simp only [h, ne_eq, not_true_eq_false, if_false]
    split <;> exact .read h _
  · simp only [h, ne_eq, not_false_eq_true, if_true]
    exact .refused h

namespace XE310

open Prog

theorem Query.read_ends (L : FloatLib) (q : Query) (a : Answer) (out : q.Out L) : Ends a out (q.read L a out) := by
  cases q with
  -- These make something of every body.
  | request_imei_sv | request_model_id | request_sw_package_version | request_telit_id | request_identification
  | get_imei | read_iccid | read_imsi | send_sim_command | network_survey | get_available_operators | scan_networks
  | get_pdp_info | send_at_command =>
    apply Ends.guard
    intro h
    exact .read h _
  -- These return `ok` for a body they cannot read, too.
  | get_clock | query_sim_status | get_psm_urc | get_pdp_state | udp_receive | udp_status =>
    apply Ends.guard
    intro h
    split <;> exact .read h _
  | get_signal_quality =>
    apply Ends.guard
    intro h
    split
    · exact .read h _
    · simp only
      split <;> exact .read h _
  | get_ip_address =>
    apply Ends.guard
    intro h
    split
    · exact .read h _
    · split <;> exact .read h _
  | get_iot_tech => exact Replies.get_iot_tech_priority_ends a out
  -- And these tell such a body from others.
  | get_psm | get_telit_psm | get_registration_status | get_apn | get_gnss_position =>
    apply Ends.guard
    intro h
    split
    · exact .malformed h
    · exact .read h _
  | get_operator =>
    apply Ends.guard
    intro h
    split
    · exact .malformed h
    · split <;> exact .read h _
  | get_bands =>
    apply Ends.guard
    intro h
    split
    · exact .malformed h
    · split
      · exact .read h _
      · exact .malformed h

section

variable {σ : Type} (u : Uart σ) (fuel : Nat) {L : FloatLib}

/-! ## The answer to a query -/

/-- The status and the body that are read. Without a format there is no answer to read. -/
def Query.ask (q : Query) : Prog (XE310 σ) Answer := do
  let (status, response) ← q.prepare u fuel
  if status ≠ .ok then pure ⟨status, []⟩
  else
    let (status, response) ← send_raw u fuel q.text response q.timeout_ms
    pure ⟨status, response.body.view⟩

theorem Query.run_eq (q : Query) (out : q.Out L) :
    q.run u fuel L out = (do let a ← q.ask u fuel; pure (q.read L a out)) := by
  unfold Query.run Query.ask
  rw [bind_assoc]
  congr 1
  funext ⟨status, response⟩
  by_cases hr : status = .ok
  · simp only [hr, ne_eq, not_true_eq_false, if_false, bind_assoc]
    rfl
  · simp only [hr, ne_eq, not_false_eq_true, if_true]
    rw [Prog.pure_bind, (q.read_ends L ⟨status, []⟩ out).refused_eq hr]

theorem Query.run_result (q : Query) (out : q.Out L) (x : XE310 σ) :
    (q.run u fuel L out x).1 = (q.ask u fuel x).1.map (q.read L · out) := by
  rw [run_eq, bind_run]
  rcases q.ask u fuel x with ⟨_ | a, y⟩ <;> rfl

/-! ## A failed query -/

theorem failed_query_keeps (q : Query) (out out' : q.Out L) (x : XE310 σ) (status : ModemStatus)
    (h : (q.run u fuel L out x).1 = some (status, out')) (hs : status ≠ .ok) : out' = out := by
  rw [q.run_result] at h
  obtain ⟨a, -, ha⟩ := Option.map_eq_some_iff.mp h
  have he := q.read_ends L a out
  rw [ha] at he
  exact he.keeps hs

end

theorem failed_query_keeps_bands :
    let L : FloatLib := ⟨Int, 0, atoi, id⟩
    let r := (Query.get_bands.run ModemController.scripted 1 L ({ lte_mask := 7 } : BandConfig)
      { controller_ := { uart_ := ["#BND: 1,2,3,4,x\r\nOK\r\n".toList] } }).1
    r.map (·.1) = some .at_error ∧ r.map (fun q : ModemStatus × BandConfig => q.2.lte_mask) = some 7 := by
  intro L r
  have hs : r.map (·.1) = some .at_error := by decide +kernel
  obtain ⟨⟨status, out'⟩, hr, rfl⟩ := Option.map_eq_some_iff.mp hs
  have hk := failed_query_keeps ModemController.scripted 1 Query.get_bands _ out' _ .at_error hr (by simp)
  refine ⟨hs, ?_⟩
  rw [hr, hk]
  rfl

/-! ## A timeout is reported -/

section

variable {σ : Type} (u : Uart σ) (fuel : Nat) {L : FloatLib}

/-- A timeout has not got past `last_status_`. -/
def Reported (status : ModemStatus) (x : XE310 σ) : Prop := status = .timeout → x.last_status_ = .timeout

theorem send_raw_reports (command : Str) (response : AtResponse) (timeout_ms : Nat) :
    Triple (fun _ => True) (send_raw u fuel command response timeout_ms) (fun r x => x.last_status_ = r.1)
      fun _ => True := by
  apply Triple.bind Triple.any
  intro r x hx
  rfl

theorem sent_reports (command : Str) (response : AtResponse) (timeout_ms : Nat) :
    Triple (fun _ => True) (do let r ← send_raw u fuel command response timeout_ms; pure r.1) Reported
      fun _ => True := by
  apply Triple.bind (send_raw_reports u fuel command response timeout_ms)
  intro r
  apply Triple.pure
  intro x hx ht
  rw [hx, ht]

theorem Query.prepare_reports (q : Query) :
    Triple (fun _ => True) (q.prepare u fuel) (fun r => Reported r.1) fun _ => True := by
  have sent : Triple (fun _ => True) (send_raw u fuel Command.csurv_format.text {} 5000) (fun r => Reported r.1)
      fun _ => True :=
    (send_raw_reports u fuel _ {} 5000).post fun r x hx ht => hx.trans ht
  have skipped : Triple (fun _ => True) (pure (ModemStatus.ok, ({} : AtResponse)))
      (fun r (x : XE310 σ) => Reported r.1 x) fun _ => True :=
    Triple.pure fun x _ ht => by cases ht
  cases q with
  | scan_networks => exact sent
  | _ => exact skipped

theorem Query.ask_reports (q : Query) :
    Triple (fun _ => True) (q.ask u fuel) (fun a => Reported a.status) fun _ => True := by
  apply Triple.bind (q.prepare_reports u fuel)
  intro r
  apply Triple.ite
  · intro hr
    exact Triple.pure fun _ hx => hx
  · intro hr
    apply Triple.bind ((send_raw_reports u fuel _ _ _).pre fun _ _ => trivial)
    intro r
    exact Triple.pure fun x hx ht => hx.trans ht

theorem Query.run_reports (q : Query) (out : q.Out L) :
    Triple (fun _ => True) (q.run u fuel L out) (fun r => Reported r.1) fun _ => True := by
  rw [q.run_eq]
  apply Triple.bind (q.ask_reports u fuel)
  intro a
  exact Triple.pure fun _ hx ht => hx ((q.read_ends L a out).timeout ht)

theorem send_each_reports (response : AtResponse) (commands : List String) :
    Triple (fun _ => True) (send_each u fuel response commands) Reported fun _ => True := by
  induction commands generalizing response with
  | nil => exact Triple.pure fun _ _ ht => by cases ht
  | cons command rest ih =>
    apply Triple.bind (send_raw_reports u fuel _ response 5000)
    intro r
    apply Triple.ite
    · intro hr
      apply Triple.pure
      intro x hx ht
      rw [hx, ht]
    · intro hr
      exact (ih r.2).pre fun _ _ => trivial

theorem set_iot_tech_reports (tech : RadioTech) (gsm_priority : Nat) :
    Triple (fun _ => True) (set_iot_tech u fuel tech gsm_priority) Reported fun _ => True := by
  apply Triple.ite
  · intro h
    exact sent_reports u fuel _ {} 5000
  · intro h
    apply Triple.ite
    · intro h'
      exact sent_reports u fuel _ {} 5000
    · intro h'
      exact Triple.pure fun _ _ ht => by cases ht

/-- `power_radio` may overwrite the status. It is put back. -/
theorem set_gnss_power_reports (enable : Bool) :
    Triple (fun _ => True) (set_gnss_power u fuel enable) Reported fun _ => True := by
  apply Triple.bind Triple.any
  intro r
  apply Triple.bind Triple.any
  intro _ x hx ht
  exact ht

/-- The operation goes through the `send_raw` of `xE310`. -/
def Operation.throughSendRaw : Operation L → Bool
  | .udp_send _ _ => false
  | _ => true

theorem Operation.run_reports (op : Operation L) (h : op.throughSendRaw = true) :
    Triple (fun _ => True) (op.run u fuel) Reported fun _ => True := by
  cases op with
  | setting c => exact sent_reports u fuel c.text {} c.timeout_ms
  | query q out =>
    apply Triple.bind (q.run_reports u fuel out)
    intro r
    exact Triple.pure fun _ hx => hx
  | is_gnss_powered =>
    rw [run, XE310.is_gnss_powered, bind_assoc]
    exact sent_reports u fuel _ {} 5000
  | shutdown =>
    apply Triple.bind Triple.any
    intro r
    exact sent_reports u fuel _ _ 15000
  | set_scan_tables => exact send_each_reports u fuel {} _
  | select_tables => exact send_each_reports u fuel {} _
  | set_iot_tech tech gsm_priority => exact set_iot_tech_reports u fuel tech gsm_priority
  | set_gnss_power enable => exact set_gnss_power_reports u fuel enable
  | udp_send conn_id data => cases h

theorem udp_send_last_status (conn_id : Nat) (data : Str) (x : XE310 σ) :
    (udp_send u conn_id data x).2.last_status_ = x.last_status_ := by
  have kept : Triple (fun y : XE310 σ => y.last_status_ = x.last_status_) (udp_send u conn_id data)
      (fun _ y => y.last_status_ = x.last_status_) fun y => y.last_status_ = x.last_status_ := by
    apply Triple.bind (Q := fun _ y => y.last_status_ = x.last_status_)
    · intro y hy
      unfold onController
      rcases ModemController.send_with_prompt u _ data {} 5000 y.controller_ with ⟨_ | r, c⟩ <;> exact hy
    · intro r
      exact Triple.pure fun _ hy => hy
  exact kept.final rfl

/-- A timeout is seen exactly when the operation goes through `send_raw`, or an older timeout still stands. -/
theorem timeout_reported_iff (op : Operation L) (x : XE310 σ) (h : (op.run u fuel x).1 = some .timeout) :
    (op.run u fuel x).2.last_status_ = .timeout ↔ op.throughSendRaw = true ∨ x.last_status_ = .timeout := by
  by_cases ho : op.throughSendRaw = true
  · simp only [ho, true_or, iff_true]
    exact (op.run_reports u fuel ho).result trivial h rfl
  · cases op with
    | udp_send conn_id data =>
      rw [or_iff_right ho, ← udp_send_last_status u conn_id data x]
      rfl
    | _ => exact absurd rfl ho

end

theorem timeout_reported_silent :
    let at_ok : Operation ⟨Int, 0, atoi, id⟩ := .setting .at_ok
    (at_ok.run ModemController.scripted 1 { controller_ := { uart_ := [] } }).2.last_status_ = .timeout := by
  intro at_ok
  exact (timeout_reported_iff ModemController.scripted 1 at_ok { controller_ := { uart_ := [] } }
    (by decide +kernel)).mpr (.inl rfl)

/-- The prompt comes and the final answer does not: nothing shows that the modem has stopped answering. -/
theorem udp_send_timeout_hidden :
    let op : Operation ⟨Int, 0, atoi, id⟩ := .udp_send 1 "hello".toList
    let r := op.run ModemController.scripted 1 { controller_ := { uart_ := ["> ".toList] } }
    r.1 = some .timeout ∧ r.2.last_status_ = .ok := by
  decide +kernel

end XE310

end LteModem
