import LteModem.NetworkLte.Frame

/-!
# The lines of a batch

`handle_urc` reads a line and then does one of a few things. `readUrc` is the reading alone, so that a
batch can be judged before the machine handles it.
-/

open Prog Strings

set_option synthInstance.maxSize 100000

namespace LteModem.NetworkLte

/-- What a line makes the machine do. -/
inductive Urc where
  | registered
  | raises (e : NetworkLteEvent)
  | data (conn_id : Nat)
  | nothing
deriving DecidableEq

def readUrc (urc : Str) : Urc :=
  if urc.take 6 = "+CREG:".toList ∨ urc.take 7 = "+CEREG:".toList then
    let stat := registrationStat ((cut ':' urc).2.getD [])
    if stat = 1 ∨ stat = 5 then .registered else .nothing
  else if urc.take 6 = "+CGEV:".toList then
    let ev := (urc.drop 6).dropWhile (· = ' ')
    if ev.take 8 = "NW_DEACT".toList ∨ ev.take 8 = "ME DEACT".toList then .raises .context_closed
    else if ev.take 9 = "NW_DETACH".toList ∨ ev.take 9 = "ME_DETACH".toList ∨ ev.take 9 = "ME DETACH".toList then
      .raises .network_detached
    else if ev.take 6 = "REJECT".toList then .raises .context_rejected
    else .nothing
  else if urc.take 8 = "%STATEV:".toList then .nothing
  else if urc.take 8 = "#PSMURC:".toList then .raises .psm_enter
  else if urc.take 25 = "%NOTIFYEV:\"PLMNSEARCHEXH\"".toList then .raises .network_detached
  else if urc.take 6 = "SRING:".toList then
    let id := (urc.drop 6).dropWhile (· = ' ')
    if id = [] then .nothing else .data (toUInt8 (atoi (cstr id)))
  else if urc.take 7 = "$GPGSA,".toList then .raises .gps_available
  else .nothing

def Urc.handle : Urc → Prog World Unit
  | .registered => do
    call_action .query_pdp_context
    updateData fun d => { d with nAttachRetries := 0 }
  | .raises e => on_event e
  | .data conn_id => do
    updateData fun d => { d with last_data_conn_id_ := conn_id }
    on_event .data_available
  | .nothing => pure ()

theorem handle_urc_eq (urc : Str) : handle_urc urc = (readUrc urc).handle := by
  unfold handle_urc readUrc
  dsimp only
  split_ifs <;> rfl

/-- The events that lines other than `SRING:` raise. -/
def ofUrc : NetworkLteEvent → Bool
  | .context_closed | .network_detached | .context_rejected | .psm_enter | .gps_available => true
  | _ => false

theorem ofUrc_of_raises {urc : Str} {e : NetworkLteEvent} (h : readUrc urc = .raises e) :
    ofUrc e = true := by
  unfold readUrc at h
  dsimp only at h
  split_ifs at h <;> cases h <;> rfl

section Batch

variable {G : Entry → Prop} {P : Net → List Entry → Prop} {X : World → Prop}

theorem handle_preserves [Still G P]
    (he : ∀ e, ofUrc e = true ∨ e = .data_available → Preserves (Under G P) (on_event e) X) {urc : Str}
    (hr : readUrc urc ≠ .registered) : Preserves (Under G P) (readUrc urc).handle X := by
  have (conn_id : Nat) : Preserves (Under G P) (updateData fun d => { d with last_data_conn_id_ := conn_id }) X :=
    updateData_preserves fun _ => {}
  have : Preserves (Under G P) (on_event .data_available) X := he _ (.inr rfl)
  cases hu : readUrc urc with
  | registered => exact absurd hu hr
  | raises e => exact he e (.inl (ofUrc_of_raises hu))
  | data conn_id => unfold Urc.handle; infer_instance
  | nothing => unfold Urc.handle; infer_instance

theorem ne_timeout_of_urc {e : NetworkLteEvent} (h : ofUrc e = true ∨ e = .data_available) : e ≠ .timeout := by
  rintro rfl
  simp [ofUrc] at h

theorem handle_urcs_preserves {I : World → Prop} {urcs : List Str}
    (h : ∀ urc ∈ urcs, Preserves I (readUrc urc).handle X) : Preserves I (handle_urcs urcs) X := by
  induction urcs with
  | nil => unfold handle_urcs; infer_instance
  | cons urc urcs ih =>
    have hu := h urc (by simp)
    have hs := ih fun u hu => h u (by simp [hu])
    rw [← handle_urc_eq] at hu
    unfold handle_urcs
    infer_instance

theorem poll_urc_preserves [Still G P]
    (hg : ∀ urcs, G (.polled urcs) → ∀ urc ∈ urcs, readUrc urc ≠ .registered)
    (hp : ∀ n l urcs, P n l → P n (.polled urcs :: l))
    (he : ∀ e, ofUrc e = true ∨ e = .data_available → Preserves (Under G P) (on_event e) X) :
    Preserves (Under G P) poll_urc X := by
  refine ⟨Triple.bind (Preserves.out (m := net)) fun n => Triple.ite (fun _ => ?_) fun _ => Preserves.out⟩
  refine Triple.bind (Preserves.out (m := tick)) fun t => ?_
  refine Triple.bind (Q := fun _ => Under G fun n l => (∀ urc ∈ t.urcs, readUrc urc ≠ .registered) ∧ P n l)
    (triple_record fun n l hgt h => ⟨hg _ hgt, hp n l _ h⟩) fun _ => triple_fact fun hr => ?_
  exact (handle_urcs_preserves fun urc hu => handle_preserves he (hr urc hu)).out

end Batch

end LteModem.NetworkLte
