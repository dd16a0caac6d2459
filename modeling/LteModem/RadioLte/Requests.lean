import LteModem.RadioLte.Channels
import Mathlib.Data.List.Basic

/-!
# One answer for each request

`publish_typed_response` ignores a message that does not fit into a frame, and no event bit is posted
for it. Four requests have such an answer.
-/

namespace LteModem.Requests

open Messages

variable {ρ δ : Type} (r : Radio ρ δ)

/-! ## process_radio_requests -/

/-- One job of request number `n`. Before its publication number `k` the client has taken `taken k`
frames off `modem_rx_q`. -/
def runJob (taken : Nat → Nat) (n : Nat) (data : δ) (c : Channels ρ) (job : Job) : Channels ρ :=
  let c := { c with rx := c.rx.drop (taken c.log.length) }
  match job, c.message r n job with
  | .call type, _ => c.callRadio r data type
  | _, some (frame, kind) => c.publish frame kind
  | _, none => c

/-- The loop over the frames of `modem_tx_q`. -/
def process_radio_requests (taken : Nat → Nat) : Nat → List (RequestFrame δ) → Channels ρ → Channels ρ
  | _, [], c => c
  | n, f :: fs, c =>
    process_radio_requests taken (n + 1) fs ((jobs f).foldl (runJob r taken n f.data) c)

/-! ## What is asked of it -/

def WellFormed (f : RequestFrame δ) : Prop := ∃ t, f.type = some t ∧ f.length = requestLength t

/-- What the response to a request is typed by. A blocking action and a new configuration are answered yes or no. -/
def responseType (t : RadioLteRequestType) : Option RadioLteRequestType :=
  if blocking t ∨ t = .set_config then none else some t

/-- The messages that request `n` is to put on the queue. -/
def answers (n : Nat) (f : RequestFrame δ) : List Publication :=
  match f.type with
  | some t =>
    ⟨n, .response (responseType t), responseLength t, .ok, some .response⟩ ::
      if blocking t then [⟨n, .complete t, ModemActionCompleteMsg.size, .ok, some .action_done⟩] else []
  | none => [⟨n, .response none, (ModemTypedResponseMsg bool).size, .ok, some .response⟩]

/-- One after the other, numbered from `n`. -/
def inTurn (each : Nat → RequestFrame δ → List Publication) : Nat → List (RequestFrame δ) → List Publication
  | _, [] => []
  | n, f :: fs => each n f ++ inTurn each (n + 1) fs

/-- The messages that did get on the queue, in their order. -/
def enqueued (log : List Publication) : List Publication := log.filter (·.err = .ok)

def fitsFrame (f : RequestFrame δ) : Bool :=
  match f.type with
  | some t => !oversized t
  | none => true

/-! ## One request -/

/-- A response that is too long for a frame, of the type of its request. -/
def refused (n : Nat) (f : RequestFrame δ) : List Publication :=
  f.type.toList.map fun t => ⟨n, .response (some t), responseLength t, .invalid_size, none⟩

/-- What request `n` puts on a queue with room. -/
def attempts (n : Nat) (f : RequestFrame δ) : List Publication :=
  if fitsFrame f then answers n f else refused n f

theorem publish_log (c : Channels ρ) (frame : Frame) (kind : Kind) :
    ∃ p, (c.publish frame kind).log = c.log ++ [p] ∧ (p.err ≠ .full →
      p = if frame.length ≤ MESSAGE_CHANNEL_MAX_DATA then ⟨frame.request, kind, frame.length, .ok, some kind.evt⟩
        else ⟨frame.request, kind, frame.length, .invalid_size, none⟩) := by
  unfold Channels.publish Channels.send sendError
  by_cases hlen : MESSAGE_CHANNEL_MAX_DATA < frame.length
  · refine ⟨⟨frame.request, kind, frame.length, .invalid_size, none⟩, by simp [hlen], fun _ => ?_⟩
    rw [if_neg (by omega)]
  · by_cases hfull : MODEM_RX_Q_DEPTH ≤ c.rx.length
    · exact ⟨⟨frame.request, kind, frame.length, .full, none⟩, by simp [hlen, hfull], fun h => absurd rfl h⟩
    · refine ⟨⟨frame.request, kind, frame.length, .ok, some kind.evt⟩, by simp [hlen, hfull], fun _ => ?_⟩
      rw [if_pos (by omega)]

/-- The log of a job, when the queue has room for what it publishes. -/
def jobLog (n : Nat) : Job → List Publication
  | .call _ => []
  | .respond t =>
    [if responseLength t ≤ MESSAGE_CHANNEL_MAX_DATA then
        ⟨n, .response (some t), responseLength t, .ok, some .response⟩
      else ⟨n, .response (some t), responseLength t, .invalid_size, none⟩]
  | .reply _ => [⟨n, .response none, (ModemTypedResponseMsg bool).size, .ok, some .response⟩]
  | .complete t => [⟨n, .complete t, ModemActionCompleteMsg.size, .ok, some .action_done⟩]

theorem runJob_log (taken : Nat → Nat) (n : Nat) (data : δ) (c : Channels ρ) (job : Job) :
    ∃ ps, (runJob r taken n data c job).log = c.log ++ ps ∧
      ((∀ p ∈ ps, p.err ≠ .full) → ps = jobLog n job) := by
  unfold runJob
  rcases job with t | t | b | t
  · exact ⟨[], by simp [Channels.callRadio], fun _ => rfl⟩
  all_goals
    obtain ⟨p, hp, hroom⟩ := publish_log { c with rx := c.rx.drop (taken c.log.length) } _ _
    refine ⟨[p], hp, fun h => ?_⟩
    rw [hroom (h p List.mem_cons_self)]
    rfl

theorem runJobs_log (taken : Nat → Nat) (n : Nat) (data : δ) (js : List Job) (c : Channels ρ) :
    ∃ ps, (js.foldl (runJob r taken n data) c).log = c.log ++ ps ∧
      ((∀ p ∈ ps, p.err ≠ .full) → ps = js.flatMap (jobLog n)) := by
  induction js generalizing c with
  | nil => exact ⟨[], by simp, fun _ => rfl⟩
  | cons j js ih =>
    obtain ⟨ps, h1, h2⟩ := runJob_log r taken n data c j
    obtain ⟨qs, h3, h4⟩ := ih (runJob r taken n data c j)
    refine ⟨ps ++ qs, ?_, fun h => ?_⟩
    · rw [List.foldl_cons, h3, h1, List.append_assoc]
    · rw [List.forall_mem_append] at h
      rw [h2 h.1, h4 h.2]
      rfl

theorem jobs_log (n : Nat) (f : RequestFrame δ) (hf : WellFormed f) :
    (jobs f).flatMap (jobLog n) = attempts n f := by
  obtain ⟨t, ht, hl⟩ := hf
  unfold jobs attempts answers refused fitsFrame
  rw [ht, hl]
  cases t <;> rfl

/-! ## All requests -/

theorem process_log (taken : Nat → Nat) (fs : List (RequestFrame δ)) (hf : ∀ f ∈ fs, WellFormed f)
    (n : Nat) (c : Channels ρ) :
    ∃ ps, (process_radio_requests r taken n fs c).log = c.log ++ ps ∧
      ((∀ p ∈ ps, p.err ≠ .full) → ps = inTurn attempts n fs) := by
  induction fs generalizing n c with
  | nil => exact ⟨[], by simp [process_radio_requests], fun _ => rfl⟩
  | cons f fs ih =>
    obtain ⟨ps, h1, h2⟩ := runJobs_log r taken n f.data (jobs f) c
    obtain ⟨qs, h3, h4⟩ := ih (fun g hg => hf g (List.mem_cons_of_mem _ hg)) (n + 1)
      ((jobs f).foldl (runJob r taken n f.data) c)
    refine ⟨ps ++ qs, ?_, fun h => ?_⟩
    · rw [process_radio_requests, h3, h1, List.append_assoc]
    · rw [List.forall_mem_append] at h
      rw [h2 h.1, h4 h.2, jobs_log n f (hf f List.mem_cons_self)]
      rfl

theorem enqueued_attempts (n : Nat) (f : RequestFrame δ) :
    enqueued (attempts n f) = if fitsFrame f then answers n f else [] := by
  unfold attempts
  split_ifs
  · unfold enqueued answers
    rcases f.type with _ | t
    · rfl
    · by_cases hb : blocking t = true <;> simp [hb]
  · unfold enqueued refused
    rcases f.type with _ | t <;> rfl

theorem enqueued_inTurn (fs : List (RequestFrame δ)) (n : Nat) :
    enqueued (inTurn attempts n fs) = inTurn (fun n f => if fitsFrame f then answers n f else []) n fs := by
  induction fs generalizing n with
  | nil => rfl
  | cons f fs ih =>
    rw [inTurn, inTurn, ← ih, ← enqueued_attempts]
    exact List.filter_append ..

theorem answers_length_pos (n : Nat) (f : RequestFrame δ) : 0 < (answers n f).length := by
  unfold answers
  split <;> simp

theorem inTurn_length_le (fs : List (RequestFrame δ)) (n : Nat) :
    (inTurn (fun n f => if fitsFrame f then answers n f else []) n fs).length ≤
      (inTurn answers n fs).length := by
  induction fs generalizing n with
  | nil => exact Nat.le_refl _
  | cons f fs ih =>
    have := ih (n + 1)
    simp only [inTurn, List.length_append]
    split_ifs
    · omega
    · simp only [List.length_nil]
      omega

/-- A dropped answer is missed: the later ones cannot make up for it. -/
theorem inTurn_eq_iff (fs : List (RequestFrame δ)) (n : Nat) :
    inTurn (fun n f => if fitsFrame f then answers n f else []) n fs = inTurn answers n fs ↔
      ∀ f ∈ fs, fitsFrame f = true := by
  induction fs generalizing n with
  | nil => simp [inTurn]
  | cons f fs ih =>
    rw [List.forall_mem_cons, ← ih (n + 1)]
    simp only [inTurn]
    by_cases h : fitsFrame f = true
    · simp [h]
    · simp only [h, Bool.false_eq_true, if_false, List.nil_append, false_and, iff_false]
      intro he
      have h1 := congrArg List.length he
      have h2 := inTurn_length_le fs (n + 1)
      have h3 := answers_length_pos n f
      rw [List.length_append] at h1
      omega

/-- While the queue has room, a sequence of requests is answered one by one exactly when none of them
asks for the modem info, a survey result, the operators or the scan result. -/
theorem one_answer_iff (taken : Nat → Nat) (fs : List (RequestFrame δ)) (hf : ∀ f ∈ fs, WellFormed f)
    (c : Channels ρ) (hlog : c.log = [])
    (room : ∀ p ∈ (process_radio_requests r taken 0 fs c).log, p.err ≠ .full) :
    enqueued (process_radio_requests r taken 0 fs c).log = inTurn answers 0 fs ↔
      ∀ f ∈ fs, f.type ∉ [some .get_modem_info, some .get_network_survey_result,
        some .get_available_operators, some .get_csurv_result] := by
  obtain ⟨ps, h1, h2⟩ := process_log r taken fs hf 0 c
  rw [hlog, List.nil_append] at h1
  rw [h1] at room ⊢
  rw [h2 room, enqueued_inTurn, inTurn_eq_iff]
  refine forall₂_congr fun f hm => ?_
  obtain ⟨t, ht, -⟩ := hf f hm
  unfold fitsFrame
  rw [ht]
  cases t <;> decide

/-- A radio whose actions all succeed. -/
def willing : Radio Unit Unit where
  call _ _ s := (true, s)
  value _ _ := 0

def requestOf (t : RadioLteRequestType) : RequestFrame Unit :=
  { length := requestLength t, type := some t, data := () }

/-- The modem info is asked for and nothing comes back, not even an event bit. -/
theorem modem_info_unanswered :
    let c := process_radio_requests willing (fun _ => 0) 0 [requestOf .get_modem_info] { radio := () }
    c.rx = [] ∧ c.response = false ∧ c.log = [⟨0, .response (some .get_modem_info), 1080, .invalid_size, none⟩] ∧
      enqueued c.log ≠ inTurn answers 0 [requestOf .get_modem_info] := by
  decide

theorem one_answer_connect :
    enqueued (process_radio_requests willing (fun _ => 0) 0
        [requestOf .network_connect, requestOf .get_imsi] { radio := () }).log =
      inTurn answers 0 [requestOf .network_connect, requestOf .get_imsi] :=
  (one_answer_iff willing (fun _ => 0) [requestOf .network_connect, requestOf .get_imsi]
    (List.forall_mem_cons.mpr ⟨⟨_, rfl, rfl⟩, List.forall_mem_cons.mpr ⟨⟨_, rfl, rfl⟩, by simp⟩⟩)
    { radio := () } rfl (by decide)).mpr (by decide)

end LteModem.Requests
