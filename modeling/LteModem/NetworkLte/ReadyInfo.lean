import LteModem.NetworkLte.Frame

/-!
# The network information in `data_ready`

`networkInfo` is what the RPC server reports as the state of the context and the address. The machine resets
the state of the context with the rest of the information and never sets it.
-/

open Prog Strings

set_option synthInstance.maxSize 100000

namespace LteModem.NetworkLte.ReadyInfo

/-- The information of a machine whose context is open. -/
def Truthful (n : Net) : Prop := n.data.context_state = .active ∧ n.data.ip_address.view ≠ []

def Inactive (n : Net) (_ : List Entry) : Prop := n.data.context_state = .inactive

theorem Inactive.not_truthful {n : Net} {l : List Entry} (h : Inactive n l) : ¬ Truthful n := by
  rintro ⟨ha, -⟩
  rw [show n.data.context_state = .inactive from h] at ha
  cases ha

section Steps

variable {G : Entry → Prop} {X : World → Prop}

instance : Uncounted Inactive := ⟨fun _ _ _ h => h⟩
instance : Unqueued Inactive := ⟨fun _ _ _ h => h⟩
instance : Addressless Inactive := ⟨fun _ _ _ h => h, fun _ _ _ => rfl⟩
instance : Unflagged Inactive := ⟨fun _ _ _ _ h => h⟩
instance : Fixless Inactive := ⟨fun _ _ _ h => h⟩
instance : Untimed Inactive := ⟨fun _ _ _ _ h => h⟩
instance : Restarting Inactive := ⟨fun _ _ h => h⟩

instance : Free G Inactive where
  move n _ m h := (move_same n m).context_state.trans h
  data _ _ _ hd h := hd.context_state.trans h
  last_status _ _ _ h := h
  other _ _ _ _ _ _ h := h
  prompt _ _ _ _ _ _ h := h
  cold _ _ _ h := h
  warm _ _ _ h := h
  config _ _ _ h := h
  reset _ _ h := h
  action _ _ _ _ h := h
  event _ _ _ _ h := h
  urc _ _ _ _ _ _ h := h
  cfun _ _ _ _ _ _ h := h
  ran _ _ _ _ _ _ h := h
  polled _ _ _ _ h := h
  loopEnd _ _ _ _ h := h
  called _ _ _ _ _ h := h

instance : Timeless G Inactive where
  st_timer _ _ _ h := h
  timer _ _ _ h := h
  started _ _ _ _ h := h

instance (cmd : AtCmd) : Preserves (Under G Inactive) (exchange cmd) X := exchange_preserves fun _ _ _ _ h => h
instance (e : Entry) : Preserves (Under G Inactive) (record e) X := ⟨triple_record fun _ _ _ h => h⟩
instance (k : Conn) (f : ServerInfo → ServerInfo) : Preserves (Under G Inactive) (update_server k f) X :=
  ⟨triple_updateNet fun _ _ h => h⟩

instance (s : NetworkLteState) : Preserves (Under G Inactive) (change_state s) X :=
  ⟨triple_post (fun _ _ _ h => h.2) (triple_change_state_in (fun _ _ h => h) fun _ _ _ h => h)⟩

instance : Preserves (Under G Inactive) force_psm X := by
  unfold force_psm
  infer_instance

end Steps

theorem exec_inactive (fuel : Nat) (c : Call) : Preserves (Under Always Inactive) (c.exec fuel) :=
  exec_preserves fuel c (fun _ _ => inferInstance) (fun _ _ => inferInstance) (fun _ => inferInstance)
    (fun _ _ => inferInstance) fun _ _ => inferInstance

theorem run_inactive (fuel : Nat) (calls : List Call) : Preserves (Under Always Inactive) (run fuel calls) := by
  refine run_preserves fuel (fun c => ?_) calls
  have := exec_inactive fuel c
  infer_instance

/-- At the end of every call of every run: where the machine is in `data_ready`, the information is wrong. -/
theorem data_ready_info_truthful (config : NetworkLteConfig) (with_timer : Bool) (env : Nat → Tick) (fuel : Nat)
    (calls : List Call) :
    let n := (run fuel calls (initial config with_timer env)).2.net
    (n.state_ = .data_ready → Truthful n) ↔ n.state_ ≠ .data_ready := by
  intro n
  have h : Inactive n [] := (run_inactive fuel calls).final (s := initial config with_timer env)
    (fun _ => rfl) fun _ _ => trivial
  constructor
  · exact fun ht hd => h.not_truthful (ht hd)
  · exact fun hd hs => absurd hs hd

/-- The modem reports an open context and an address whenever it is asked. -/
def reports : Entry → Bool
  | .exchange (.other .get_pdp_state) a => (Replies.get_pdp_state a 1 false).2
  | .exchange (.other (.get_ip_address _)) a => (Replies.get_ip_address a (.empty _)).2.view ≠ []
  | _ => true

theorem ready_with_inactive_context :
    let w := (run 6 [.network_connect] (initial {} false
      (script [(25, "+CEREG: 0,1"), (31, "#SGACT: 1,1"), (32, "+CGPADDR: 1,\"10.0.0.7\"")] []))).2
    w.log.all reports = true ∧ w.net.state_ = .data_ready ∧ w.net.data.context_state = .inactive ∧
      w.net.data.ip_address.view = "10.0.0.7".toList := by
  decide +kernel

end LteModem.NetworkLte.ReadyInfo
