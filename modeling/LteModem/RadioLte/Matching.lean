import LteModem.RadioLte.Channels
import Mathlib.Tactic.SplitIfs

/-!
# Responses and the requests they belong to

A client that sends one request after the other as `RpcServer` does, and a worker that runs
`process_radio_requests`, in any interleaving. Frames carry no request number, so the client takes
whatever has the length it expects.
-/

namespace LteModem.Matching

open Messages

variable {ρ δ : Type}

/-! ## The two parties -/

/-- Where the client is with request `n`. -/
inductive Client where
  | idle
  | waitResponse (n : Nat) (type : RadioLteRequestType)
  | recvResponse (n : Nat) (type : RadioLteRequestType)
  | waitDone (n : Nat)
  | recvDone (n : Nat)
deriving DecidableEq, Repr

def Client.request : Client → Option Nat
  | .idle => none
  | .waitResponse n _ | .recvResponse n _ | .waitDone n | .recvDone n => some n

/-- The request under work, the jobs left of it, and an event bit still to be posted. -/
structure Worker (δ : Type) where
  request : Nat
  data : δ
  todo : List Job
  post : Option ModemEvt

structure Sys (ρ δ : Type) where
  chan : Channels ρ
  tx : List (Nat × RequestFrame δ) := []
  worker : Option (Worker δ) := none
  client : Client := .idle
  next : Nat := 0
  /-- the request that the client was at, and the frame it took as the answer -/
  accepted : List (Nat × Frame) := []

inductive Act (δ : Type) where
  | send (type : RadioLteRequestType) (data : δ)
  | giveUp
  | wake
  | receive
  | take
  | work

/-! ## Steps -/

/-- `!ack.ok || !ack.value` fails. -/
def Frame.accepts (f : Frame) : Bool := f.bytes.1 ≠ 0 ∧ f.bytes.2 ≠ 0

/-- `send_request`, which gives up when the queue is full. -/
def sendStep (type : RadioLteRequestType) (data : δ) (s : Sys ρ δ) : Option (Sys ρ δ) :=
  match s.client with
  | .idle =>
    if MODEM_TX_Q_DEPTH ≤ s.tx.length then some s
    else some { s with
      tx := s.tx ++ [(s.next, { length := requestLength type, type := some type, data })]
      next := s.next + 1
      client := .waitResponse s.next type }
  | _ => none

def giveUpStep (s : Sys ρ δ) : Option (Sys ρ δ) :=
  match s.client with
  | .waitResponse _ _ | .waitDone _ => some { s with client := .idle }
  | _ => none

/-- `wait` finds its event bit and clears it. -/
def wakeStep (s : Sys ρ δ) : Option (Sys ρ δ) :=
  match s.client with
  | .waitResponse n type =>
    if s.chan.response then
      some { s with chan := { s.chan with response := false }, client := .recvResponse n type }
    else none
  | .waitDone n =>
    if s.chan.action_done then
      some { s with chan := { s.chan with action_done := false }, client := .recvDone n }
    else none
  | _ => none

/-- `receive_message` for request `n` and a message of `length` bytes. -/
def receiveAs (n length : Nat) (next : Frame → Client) (s : Sys ρ δ) : Sys ρ δ :=
  match s.chan.rx with
  | [] => { s with client := .idle }
  | f :: rest =>
    let s := { s with chan := { s.chan with rx := rest } }
    if f.length ≠ length then { s with client := .idle }
    else { s with client := next f, accepted := (n, f) :: s.accepted }

def receiveStep (s : Sys ρ δ) : Option (Sys ρ δ) :=
  match s.client with
  | .recvResponse n type =>
    some (receiveAs n (responseLength type)
      (fun f => if blocking type ∧ Frame.accepts f then .waitDone n else .idle) s)
  | .recvDone n => some (receiveAs n ModemActionCompleteMsg.size (fun _ => .idle) s)
  | _ => none

/-- The worker takes the next request off `modem_tx_q`. -/
def takeStep (s : Sys ρ δ) : Option (Sys ρ δ) :=
  match s.worker, s.tx with
  | none, (n, f) :: rest =>
    some { s with tx := rest, worker := some { request := n, data := f.data, todo := jobs f, post := none } }
  | _, _ => none

/-- The next action of the worker: an event bit, a call of the radio, a message, or the end. -/
def workStep (r : Radio ρ δ) (s : Sys ρ δ) : Option (Sys ρ δ) :=
  match s.worker with
  | none => none
  | some w =>
    match w.post, w.todo with
    | some evt, _ => some { s with chan := s.chan.set evt, worker := some { w with post := none } }
    | none, [] => some { s with worker := none }
    | none, .call type :: todo =>
      some { s with chan := s.chan.callRadio r w.data type, worker := some { w with todo } }
    | none, job :: todo =>
      match s.chan.message r w.request job with
      | none => some { s with worker := some { w with todo } }
      | some (frame, kind) =>
        let (err, chan) := s.chan.send frame
        let post := if err = .ok then some kind.evt else none
        some { s with chan, worker := some { w with todo, post } }

def step (r : Radio ρ δ) (s : Sys ρ δ) : Act δ → Option (Sys ρ δ)
  | .send type data => sendStep type data s
  | .giveUp => giveUpStep s
  | .wake => wakeStep s
  | .receive => receiveStep s
  | .take => takeStep s
  | .work => workStep r s

/-- The state after `acts`, when each of them can happen in its turn. -/
def run (r : Radio ρ δ) : List (Act δ) → Sys ρ δ → Option (Sys ρ δ)
  | [], s => some s
  | a :: acts, s => (step r s a).bind (run r acts)

/-! ## Matching -/

/-- Every frame the client took was published for the request it was at. -/
def Matched (s : Sys ρ δ) : Prop := ∀ x ∈ s.accepted, x.2.request = x.1

/-- Nothing of an earlier request is waiting, under work or unread. -/
def Quiet (s : Sys ρ δ) : Prop :=
  s.tx = [] ∧ s.chan.rx = [] ∧ ∀ w, s.worker = some w → w.todo = []

/-- Every request of the run that gets on the queue is sent in a quiet state. -/
def SendsQuietly (r : Radio ρ δ) : List (Act δ) → Sys ρ δ → Prop
  | [], _ => True
  | a :: acts, s =>
    (∀ type data, a = .send type data → s.tx.length < MODEM_TX_Q_DEPTH → Quiet s) ∧
      ∀ t, step r s a = some t → SendsQuietly r acts t

/-- Whatever is under way belongs to the last request. -/
structure Current (s : Sys ρ δ) : Prop where
  matched : Matched s
  tx : ∀ x ∈ s.tx, x.1 + 1 = s.next
  rx : ∀ f ∈ s.chan.rx, f.request + 1 = s.next
  worker : ∀ w, s.worker = some w → w.todo ≠ [] → w.request + 1 = s.next
  client : ∀ n, s.client.request = some n → n + 1 = s.next

theorem send_current {type : RadioLteRequestType} {data : δ} {s t : Sys ρ δ} (hs : Current s)
    (hq : s.tx.length < MODEM_TX_Q_DEPTH → Quiet s) (h : sendStep type data s = some t) :
    Current t := by
  unfold sendStep at h
  split at h
  · split_ifs at h with hfull
    · cases h
      exact hs
    · cases h
      obtain ⟨htx, hrx, hw⟩ := hq (by omega)
      exact {
        matched := hs.matched
        tx := by simp [htx]
        rx := by simp [hrx]
        worker := fun w hw' hne => absurd (hw w hw') hne
        client := by simp [Client.request] }
  · cases h

theorem giveUp_current {s t : Sys ρ δ} (hs : Current s) (h : giveUpStep s = some t) : Current t := by
  unfold giveUpStep at h
  split at h <;> cases h
  all_goals exact { hs with client := fun n hn => absurd hn (by simp [Client.request]) }

theorem wake_current {s t : Sys ρ δ} (hs : Current s) (h : wakeStep s = some t) : Current t := by
  unfold wakeStep at h
  split at h
  case h_1 hc | h_2 hc =>
    split_ifs at h
    cases h
    exact { hs with client := fun m hm => hs.client m (by rw [hc]; exact hm) }
  case h_3 => cases h

theorem receiveAs_current {n length : Nat} {next : Frame → Client} {s : Sys ρ δ} (hs : Current s)
    (hn : n + 1 = s.next) (hnext : ∀ f m, (next f).request = some m → m = n) :
    Current (receiveAs n length next s) := by
  unfold receiveAs
  rcases hrx : s.chan.rx with _ | ⟨f, rest⟩
  · exact { hs with client := fun m hm => absurd hm (by simp [Client.request]) }
  · have hall := hs.rx
    rw [hrx, List.forall_mem_cons] at hall
    dsimp only
    split_ifs
    · exact { hs with rx := hall.2, client := fun m hm => absurd hm (by simp [Client.request]) }
    · refine { hs with rx := hall.2, matched := ?_, client := ?_ }
      · refine List.forall_mem_cons.mpr ⟨?_, hs.matched⟩
        exact Nat.succ.inj (hall.1.trans hn.symm)
      · intro m hm
        rw [hnext f m hm]
        exact hn

theorem receive_current {s t : Sys ρ δ} (hs : Current s) (h : receiveStep s = some t) : Current t := by
  unfold receiveStep at h
  split at h
  case h_1 n type hc =>
    cases h
    refine receiveAs_current hs (hs.client n (by rw [hc]; rfl)) fun f m hm => ?_
    split_ifs at hm
    · exact (Option.some.inj hm).symm
    · cases hm
  case h_2 n hc =>
    cases h
    exact receiveAs_current hs (hs.client n (by rw [hc]; rfl)) fun f m hm => absurd hm (by simp [Client.request])
  case h_3 => cases h

theorem take_current {s t : Sys ρ δ} (hs : Current s) (h : takeStep s = some t) : Current t := by
  unfold takeStep at h
  split at h
  case h_1 n f rest hw htx =>
    cases h
    have hall := hs.tx
    rw [htx, List.forall_mem_cons] at hall
    exact { hs with
      tx := hall.2
      worker := by
        rintro w hw' -
        cases hw'
        exact hall.1 }
  case h_2 => cases h

theorem message_request {r : Radio ρ δ} {n : Nat} {c : Channels ρ} {job : Job} {frame : Frame}
    {kind : Kind} (h : c.message r n job = some (frame, kind)) : frame.request = n := by
  cases job <;> simp [Channels.message] at h <;> rw [← h.1]

theorem send_rx (frame : Frame) (c : Channels ρ) :
    ∀ f ∈ (c.send frame).2.rx, f ∈ c.rx ∨ f = frame := by
  intro f hf
  unfold Channels.send at hf
  dsimp only at hf
  split_ifs at hf
  · simpa using hf
  · exact .inl hf

theorem work_current {r : Radio ρ δ} {s t : Sys ρ δ} (hs : Current s) (h : workStep r s = some t) :
    Current t := by
  unfold workStep at h
  rcases hw : s.worker with _ | w <;> simp only [hw] at h
  · cases h
  · split at h
    case h_1 evt hp =>
      cases h
      refine { hs with rx := ?_, worker := ?_ }
      · cases evt <;> exact hs.rx
      · intro w' hw' hne
        cases hw'
        exact hs.worker w hw hne
    case h_2 => 
      cases h
      exact { hs with worker := fun w' hw' => absurd hw' (by simp) }
    case h_3 type todo hp htodo =>
      cases h
      refine { hs with worker := ?_ }
      intro w' hw' hne
      cases hw'
      exact hs.worker w hw (by simp [htodo])
    case h_4 job todo hcall hp htodo =>
      have hcur := hs.worker w hw (by simp [htodo])
      rcases hm : s.chan.message r w.request job with _ | ⟨frame, kind⟩ <;> simp only [hm] at h
      · cases h
        refine { hs with worker := ?_ }
        intro w' hw' hne
        cases hw'
        exact hcur
      · cases h
        refine { hs with rx := ?_, worker := ?_ }
        · intro f hf
          rcases send_rx frame s.chan f hf with hf | rfl
          · exact hs.rx f hf
          · rw [message_request hm]
            exact hcur
        · intro w' hw' hne
          cases hw'
          exact hcur

theorem step_current {r : Radio ρ δ} {s t : Sys ρ δ} {a : Act δ} (hs : Current s)
    (hq : ∀ type data, a = .send type data → s.tx.length < MODEM_TX_Q_DEPTH → Quiet s)
    (h : step r s a = some t) : Current t := by
  cases a with
  | send type data => exact send_current hs (hq type data rfl) h
  | giveUp => exact giveUp_current hs h
  | wake => exact wake_current hs h
  | receive => exact receive_current hs h
  | take => exact take_current hs h
  | work => exact work_current hs h

theorem run_current {r : Radio ρ δ} (acts : List (Act δ)) (s t : Sys ρ δ) (hs : Current s)
    (hq : SendsQuietly r acts s) (h : run r acts s = some t) : Current t := by
  induction acts generalizing s with
  | nil => exact Option.some.inj h ▸ hs
  | cons a acts ih =>
    obtain ⟨m, h1, h2⟩ := Option.bind_eq_some_iff.mp h
    exact ih m (step_current hs hq.1 h1) (hq.2 m h1) h2

/-- A client that sends only when nothing of an earlier request is left takes its own answers. -/
theorem run_matched (r : Radio ρ δ) (radio : ρ) (acts : List (Act δ)) (t : Sys ρ δ)
    (hq : SendsQuietly r acts { chan := { radio } })
    (h : run r acts { chan := { radio } } = some t) : Matched t := by
  refine (run_current acts _ t ?_ hq h).matched
  exact {
    matched := by simp [Matched]
    tx := by simp
    rx := by simp
    worker := by simp
    client := by simp [Client.request] }

/-- A radio whose actions all succeed. -/
def obliging : Radio Unit Unit where
  call _ _ s := (true, s)
  value _ _ := 0

def lateAck : List (Act Unit) :=
  [.send .network_connect (), .giveUp, .send .force_psm (), .take, .work, .work, .wake, .receive]

/-- The client gives up on `network_connect` and then takes its acknowledgement for that of
`force_psm`. -/
theorem late_ack_taken :
    ∃ t, run obliging lateAck { chan := { radio := () } } = some t ∧
      t.accepted = [(1, ⟨0, 2, (1, 1)⟩)] ∧ ¬ Matched t := by
  refine ⟨_, rfl, rfl, fun h => ?_⟩
  exact absurd (h _ List.mem_cons_self) (by decide)

def promptAck : List (Act Unit) :=
  [.send .force_psm (), .take, .work, .work, .wake, .receive, .work, .work, .work, .wake, .receive]

theorem sendsQuietly_of_no_send (r : Radio ρ δ) (acts : List (Act δ)) (s : Sys ρ δ)
    (h : ∀ a ∈ acts, ∀ type data, a ≠ .send type data) : SendsQuietly r acts s := by
  induction acts generalizing s with
  | nil => trivial
  | cons a acts ih =>
    rw [List.forall_mem_cons] at h
    exact ⟨fun type data ha => absurd ha (h.1 type data), fun t _ => ih t h.2⟩

theorem run_matched_prompt :
    ∃ t, run obliging promptAck { chan := { radio := () } } = some t ∧
      t.accepted.length = 2 ∧ Matched t := by
  refine ⟨_, rfl, rfl, run_matched obliging () promptAck _ ?_ rfl⟩
  refine ⟨fun _ _ _ _ => ⟨rfl, rfl, fun w hw => absurd hw (by simp)⟩, fun t _ => ?_⟩
  exact sendsQuietly_of_no_send _ _ t (by simp)

end LteModem.Matching
