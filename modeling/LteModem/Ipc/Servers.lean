import LteModem.Lib.Mailbox
import LteModem.NetworkLte.Deliveries
import LteModem.Rpc.Json

/-!
# The ports 9000 to 9002 (`examples/desktop/app_ipc_servers.cpp`)

The threads of the ports put commands into the queue of the network thread, which runs them before each round of its
loop (`main.cpp`). What the rounds and the commands do to the machine is one history, for all interleavings.
-/

open Strings Prog

namespace LteModem.IpcServers

open NetworkLte

/-! ## Commands -/

inductive Command where
  /-- A frame of port 9001 or a line of port 9000. -/
  | data (payload : Str)
  | enter_transparent_mode
  | leave_transparent_mode
  | send_at_command (cmd : Str)
  | get_network_state
  /-- What `main` does on its own. -/
  | network_connect
  | server_connect
  | hello
deriving DecidableEq

def hello : Str := "Hello, World!".toList

/-- What `tx_write` returned, where it was called, and what goes back to the client. -/
structure Outcome where
  queued : Option QueueError := none
  reply : Option Str := none
deriving DecidableEq

def QueueError.code : QueueError → Nat
  | .ok => 0
  | .full => 1
  | .empty => 2
  | .timeout => 3
  | .invalid_id => 4

/-- The call with its entry in the log. -/
def tx_write (conn_id : Nat) (data : Str) : Prog World QueueError := do
  let n ← net
  record (.called (.tx_write conn_id data) n)
  NetworkLte.tx_write conn_id data

/-- The command of `configure_data_ipc` and `configure_coap_ipc`. -/
def write_data (conn_id : Nat) (payload : Str) : Prog World Outcome := do
  let n ← net
  if n.state_ ≠ .data_ready then
    pure { reply := some ("ERROR: network not ready, state=".toList ++ n.state_.to_str.text) }
  else do
    let queue_err ← tx_write conn_id payload
    if queue_err ≠ .ok then
      pure ⟨some queue_err, some ("ERROR: tx_write failed, code=".toList ++ decimal (QueueError.code queue_err))⟩
    else do
      call_action .send_data
      pure ⟨some queue_err, none⟩

def send_at_command_sync (cmd : Str) : Prog World Outcome := do
  let result ← NetworkLte.send_at_command cmd
  let response : FixedString AT_RESPONSE_MAX := .ofView _ result.2
  if result.1 then
    let response := if response.view = [] then response else response.append "\r\n".toList
    pure { reply := some (cstr (response.append "OK\r\n".toList).view) }
  else pure { reply := some (cstr response.view) }

def write_hello (conn_id : Nat) : Prog World Outcome := do
  let queue_err ← tx_write conn_id hello
  call_action .send_data
  pure { queued := some queue_err }

def connect_server (conn_id : Nat) : Prog World Bool :=
  match slot conn_id with
  | some k => NetworkLte.server_connect k "UDP".toList "185.205.209.91".toList 10000
  | none => pure false

def Command.exec (conn_id fuel : Nat) : Command → Prog World Outcome
  | .data payload => write_data conn_id payload
  | .enter_transparent_mode => do
    let _ ← NetworkLte.enter_transparent_mode fuel
    pure {}
  | .leave_transparent_mode => do
    let _ ← NetworkLte.leave_transparent_mode fuel
    pure {}
  | .send_at_command cmd => send_at_command_sync cmd
  | .get_network_state => do
    let n ← net
    pure { reply := some ('"' :: (n.state_.to_str.text ++ ['"'])) }
  | .network_connect => do
    let _ ← NetworkLte.network_connect fuel
    pure {}
  | .server_connect => do
    let _ ← connect_server conn_id
    pure {}
  | .hello => write_hello conn_id

/-! ## A round of the network thread -/

/-- What a request on the channels may call. -/
def requested : Call → Bool
  | .refresh_clock | .scan_networks _ _ | .set_config _ | .network_connect | .network_disconnect
  | .server_connect _ _ _ _ | .server_disconnect _ | .force_psm | .acquire_gnss_position => true
  | _ => false

/-- `rx_msg.data` is an array of `MAX_MSG_DATA` bytes, with zeros behind the payload. -/
def array (msg : QueueMessage) : Str :=
  msg.data ++ List.replicate (MAX_MSG_DATA - msg.data.length) '\x00'

/-- The messages for the clients of port 9000: `data.size()` bytes, whatever the `length` is. -/
def drain_rx (conn_id : Nat) : Nat → Prog World (List Str)
  | 0 => .cutOff
  | fuel + 1 => do
    let out ← rx_read conn_id
    match out with
    | (.ok, some rx_msg) => do
      let rest ← drain_rx conn_id fuel
      pure (array rx_msg :: rest)
    | _ => pure []

def round (conn_id fuel : Nat) (requests : List Call) : Prog World (List Str) := do
  let _ ← loop fuel .none
  run fuel requests
  drain_rx conn_id fuel

/-- The network thread, or a thread that holds the lock before there is one. -/
def owner (conn_id : Nat) : Mailbox.Owner World Command Outcome where
  runs c w out v := ∃ fuel, c.exec conn_id fuel w = (some out, v)
  pass w v := ∃ fuel requests sent, (∀ c ∈ requests, requested c = true) ∧
    round conn_id fuel requests w = (some sent, v)

/-! ## Received payloads -/

theorem filter_of_find {α : Type} {p : α → Bool} {l : List α} {a : α} (h : l.find? p = some a) :
    l.filter p = a :: (l.eraseP p).filter p ∧ (l.eraseP p).filter (! p ·) = l.filter (! p ·) := by
  induction l with
  | nil => cases h
  | cons b l ih =>
    rcases hb : p b with _ | _
    · rw [List.find?_cons_of_neg (by simp [hb])] at h
      obtain ⟨h₁, h₂⟩ := ih h
      simp [hb, h₁, h₂]
    · rw [List.find?_cons_of_pos hb] at h
      obtain rfl := Option.some.inj h
      simp [hb]

theorem rx_read_run (conn_id : Nat) {w : World} {msgs : Fifo} (hq : InStep w.net.data.message_queue_.rx msgs) :
    ∃ v, rx_read conn_id w = (some (msgs.pop conn_id).1, v) ∧
      InStep v.net.data.message_queue_.rx (msgs.pop conn_id).2 ∧
      v.net.data.message_queue_.tx = w.net.data.message_queue_.tx := by
  obtain ⟨hout, hnext⟩ := hq.pop conn_id
  refine ⟨(rx_read conn_id w).2, ?_, hnext, rfl⟩
  rw [← hout]
  rfl

/-- By induction on the rounds. Each but the last takes one message of the connection out. -/
theorem drain_rx_run {conn_id : Nat} (hid : (slot conn_id).isSome) {fuel : Nat} {w : World} {msgs : Fifo}
    (hq : InStep w.net.data.message_queue_.rx msgs) (hf : msgs.count conn_id < fuel) :
    ∃ v, drain_rx conn_id fuel w = (some ((msgs.filter (·.cid = conn_id)).map array), v) ∧
      InStep v.net.data.message_queue_.rx (msgs.filter (·.cid ≠ conn_id)) ∧
      v.net.data.message_queue_.tx = w.net.data.message_queue_.tx := by
  induction fuel generalizing w msgs with
  | zero => exact absurd hf (Nat.not_lt_zero _)
  | succ fuel ih =>
    obtain ⟨u, hu, hrest, htx⟩ := rx_read_run conn_id hq
    have hvalid : ¬ (slot conn_id).isNone = true := by
      rw [Option.isNone_iff_eq_none]
      exact Option.isSome_iff_ne_none.mp hid
    unfold drain_rx
    rw [Prog.bind_of hu]
    cases hfind : msgs.find? (·.cid = conn_id) with
    | none =>
      have hpop : msgs.pop conn_id = ((.empty, none), msgs) := by
        rw [Fifo.pop, if_neg hvalid, hfind]
      have hnone : ∀ m ∈ msgs, ¬ m.cid = conn_id := by simpa using List.find?_eq_none.mp hfind
      rw [hpop] at hrest ⊢
      refine ⟨u, ?_, ?_, htx⟩
      · rw [List.filter_eq_nil_iff.mpr (by simpa using hnone)]
        rfl
      · rwa [List.filter_eq_self.mpr (by simpa using hnone)]
    | some msg =>
      have hpop : msgs.pop conn_id = ((.ok, some msg), msgs.eraseP (·.cid = conn_id)) := by
        rw [Fifo.pop, if_neg hvalid, hfind]
      obtain ⟨htaken, hleft⟩ := filter_of_find hfind
      rw [hpop] at hrest ⊢
      have hcount : Fifo.count conn_id (msgs.eraseP (·.cid = conn_id)) < fuel := by
        rw [Fifo.count, List.countP_eq_length_filter] at hf ⊢
        rw [htaken, List.length_cons] at hf
        omega
      obtain ⟨v, hv, hend, hsame⟩ := ih hrest hcount
      refine ⟨v, ?_, ?_, hsame.trans htx⟩
      · dsimp only
        rw [Prog.bind_of hv, htaken]
        rfl
      · have hothers : (msgs.eraseP (·.cid = conn_id)).filter (·.cid ≠ conn_id) = msgs.filter (·.cid ≠ conn_id) := by
          simpa only [decide_not] using hleft
        rwa [hothers] at hend

/-- After any history of the queue, the worker hands on what waits for its connection, in order and once, leaves the
messages of the other connections as they are, and comes to an end. -/
theorem drain_rx_forwards (capacity conn_id : Nat) (hid : (slot conn_id).isSome) (ops : List QueueOp) (w : World) :
    let v := SendData.withQueue (Machine.final (PosixMessageQueue capacity) ops {}) w
    let msgs := (pushed capacity ops).rx
    ∀ fuel, msgs.count conn_id < fuel → ∃ u,
      drain_rx conn_id fuel v = (some ((msgs.filter (·.cid = conn_id)).map array), u) ∧
        InStep u.net.data.message_queue_.rx (msgs.filter (·.cid ≠ conn_id)) ∧
        u.net.data.message_queue_.tx = v.net.data.message_queue_.tx :=
  fun _ hf => drain_rx_run hid (stores_pushed capacity ops).rx hf

theorem drain_rx_forwards_two :
    let ops : List QueueOp := [.rx_push 1 ['a'], .rx_push 2 ['b'], .rx_push 1 ['c']]
    (pushed 0 ops).rx = [⟨1, ['a']⟩, ⟨2, ['b']⟩, ⟨1, ['c']⟩] ∧
      (drain_rx 1 3 (SendData.withQueue (Machine.final (PosixMessageQueue 0) ops {})
        (initial {} false fun _ => {}))).1 = some [array ⟨1, ['a']⟩, array ⟨1, ['c']⟩] := by
  intro ops
  have hrx : (pushed 0 ops).rx = [⟨1, ['a']⟩, ⟨2, ['b']⟩, ⟨1, ['c']⟩] := by decide +kernel
  obtain ⟨u, hu, -⟩ := drain_rx_forwards 0 1 (by decide) ops (initial {} false fun _ => {}) 3
    (by rw [hrx]; decide)
  rw [hrx] at hu
  exact ⟨hrx, congrArg Prod.fst hu⟩

/-! ## Payloads -/

section Payloads

open Deliveries

variable {msgs : Fifo} {conn_id fuel : Nat}

def payload : Command → Option Str
  | .data payload => some payload
  | .hello => some hello
  | _ => none

/-- What the queue got from a command. -/
def written (conn_id : Nat) (c : Command) (out : Outcome) : Fifo :=
  if out.queued = some .ok then (payload c).toList.map fun data => ⟨conn_id, data.take MAX_MSG_DATA⟩ else []

theorem tx_write_books (conn_id : Nat) (data : Str) {w : World} (h : Books w) :
    ∃ err v, tx_write conn_id data w = (some err, v) ∧ Books v ∧
      accepted v.log = accepted w.log ++ if err = .ok then [⟨conn_id, data.take MAX_MSG_DATA⟩] else [] := by
  obtain ⟨v, hv, hl⟩ := tx_write_ledger conn_id data h
  have hrun : tx_write conn_id data w = (some (w.net.data.message_queue_.tx.push_to DEFAULT_CAPACITY conn_id data).1, v) := by
    unfold tx_write
    rw [Prog.bind_of (ServerConnect.net_run w)]
    exact hv
  refine ⟨_, v, hrun, ?_, ?_⟩
  · rw [Books, hl.accepted]
    exact hl
  · rw [hl.accepted]
    rfl

theorem write_data_spec (conn_id : Nat) (payload : Str) {w : World} (h : Books w) :
    ∃ out v, write_data conn_id payload w = (some out, v) ∧ Books v ∧
      accepted v.log = accepted w.log ++ written conn_id (.data payload) out ∧
      (out.reply = none ↔ out.queued = some .ok) ∧ (out.queued = some .ok → v.net.modem_action_ = .send_data) := by
  unfold write_data
  rw [Prog.bind_of (ServerConnect.net_run w)]
  by_cases hs : w.net.state_ ≠ .data_ready
  · rw [if_pos hs]
    exact ⟨_, w, rfl, h, (List.append_nil _).symm, by simp, by simp⟩
  · obtain ⟨err, u, hu, hb, ha⟩ := tx_write_books conn_id payload h
    rw [if_neg hs, Prog.bind_of hu]
    by_cases herr : err ≠ .ok
    · rw [if_pos herr]
      rw [if_neg herr] at ha
      refine ⟨_, u, rfl, hb, ?_, by simp [herr], by simp [herr]⟩
      rw [ha, written, if_neg (by simpa using herr)]
    · rw [if_neg herr]
      rw [not_not] at herr
      rw [if_pos herr] at ha
      refine ⟨_, _, rfl, Ledger.same hb rfl, ?_, by simp [herr], fun _ => rfl⟩
      rw [written, if_pos (congrArg some herr)]
      exact ha

theorem write_hello_spec (conn_id : Nat) {w : World} (h : Books w) :
    ∃ out v, write_hello conn_id w = (some out, v) ∧ Books v ∧
      accepted v.log = accepted w.log ++ written conn_id .hello out := by
  obtain ⟨err, u, hu, hb, ha⟩ := tx_write_books conn_id hello h
  refine ⟨{ queued := some err }, (call_action .send_data u).2, ?_, Ledger.same hb rfl, ?_⟩
  · unfold write_hello
    rw [Prog.bind_of hu]
    rfl
  · refine ha.trans ?_
    simp only [written, Option.some.injEq]
    rfl

theorem books_of_keeps {α : Type} {m : Prog World α} {w v : World} {a : α}
    (h : ∀ msgs, Preserves (Kept msgs) m) (hw : Books w) (hm : m w = (some a, v)) :
    Books v ∧ accepted v.log = accepted w.log := by
  have hv : Kept (accepted w.log) v := by
    have := (h (accepted w.log)).out w fun _ => hw
    rwa [hm] at this
  exact ⟨Kept.books hv, (hv fun _ _ => trivial).accepted⟩

theorem exec_books (c : Command) {w v : World} {out : Outcome} (h : Books w)
    (hrun : c.exec conn_id fuel w = (some out, v)) :
    Books v ∧ accepted v.log = accepted w.log ++ written conn_id c out := by
  have quietly (hp : payload c = none) (hm : ∀ msgs, Preserves (Kept msgs) (c.exec conn_id fuel)) :
      Books v ∧ accepted v.log = accepted w.log ++ written conn_id c out := by
    obtain ⟨hb, ha⟩ := books_of_keeps hm h hrun
    refine ⟨hb, ?_⟩
    rw [ha, written, hp, Option.toList_none, List.map_nil, ite_self, List.append_nil]
  cases c with
  | data payload =>
    obtain ⟨_, _, hw, hb, ha, -⟩ := write_data_spec conn_id payload h
    cases hw.symm.trans hrun
    exact ⟨hb, ha⟩
  | hello =>
    obtain ⟨_, _, hw, hb, ha⟩ := write_hello_spec conn_id h
    cases hw.symm.trans hrun
    exact ⟨hb, ha⟩
  | enter_transparent_mode => exact quietly rfl fun msgs => by unfold Command.exec; infer_instance
  | leave_transparent_mode => exact quietly rfl fun msgs => by unfold Command.exec; infer_instance
  | send_at_command cmd => exact quietly rfl fun msgs => by unfold Command.exec send_at_command_sync; infer_instance
  | get_network_state => exact quietly rfl fun msgs => by unfold Command.exec; infer_instance
  | network_connect => exact quietly rfl fun msgs => by unfold Command.exec; infer_instance
  | server_connect =>
    refine quietly rfl fun msgs => ?_
    unfold Command.exec connect_server
    rcases slot conn_id with _ | k <;> infer_instance

theorem run_requested {requests : List Call} (hr : ∀ c ∈ requests, requested c = true) :
    Preserves (Kept msgs) (run fuel requests) := by
  induction requests with
  | nil => unfold run; infer_instance
  | cons c requests ih =>
    obtain ⟨hc, hr⟩ := List.forall_mem_cons.mp hr
    have := ih hr
    have : Preserves (Kept msgs) (c.exec fuel) := exec_keeps fuel fun _ _ h => by
      subst h
      cases hc
    have (n : Net) : Preserves (Kept msgs) (record (.called c n)) :=
      record_keeps (by cases c <;> first | rfl | cases hc)
    unfold run
    infer_instance

instance (fuel : Nat) : Preserves (Kept msgs) (drain_rx conn_id fuel) := by
  induction fuel with
  | zero => unfold drain_rx; infer_instance
  | succ fuel ih =>
    unfold drain_rx
    refine ⟨Triple.bind (Preserves.out (m := rx_read conn_id)) fun out => ?_⟩
    split <;> exact Preserves.out

theorem round_books {requests : List Call} {w v : World} {sent : List Str} (hr : ∀ c ∈ requests, requested c = true)
    (h : Books w) (hrun : round conn_id fuel requests w = (some sent, v)) :
    Books v ∧ accepted v.log = accepted w.log := by
  refine books_of_keeps (fun msgs => ?_) h hrun
  have : Preserves (Kept msgs) (run fuel requests) := run_requested hr
  unfold round
  infer_instance

/-! ## All interleavings -/

open Mailbox

variable {τ : Type}

def writtenBy (conn_id : Nat) : Event τ Command Outcome → Fifo
  | .ran _ i out => written conn_id i.command out
  | _ => []

/-- Each payload was queued, or its client was told. -/
def answered : Event τ Command Outcome → Prop
  | .ran _ ⟨_, .data _, _⟩ out => out.reply = none ↔ out.queued = some .ok
  | _ => True

theorem exec_answered {q : Bool} (i : Item τ Command) {w v : World} {out : Outcome} (h : Books w)
    (hrun : i.command.exec conn_id fuel w = (some out, v)) : answered (.ran q i out) := by
  obtain ⟨t, c, waits⟩ := i
  cases c
  case data payload =>
    obtain ⟨_, _, hw, -, -, hout, -⟩ := write_data_spec conn_id payload h
    cases hw.symm.trans hrun
    exact hout
  all_goals trivial

theorem explains_books {w₀ w : World} {trace : List (Event τ Command Outcome)}
    (h : Explains (owner conn_id) w₀ trace w) (h₀ : Books w₀) :
    Books w ∧ accepted w.log = accepted w₀.log ++ trace.flatMap (writtenBy conn_id) ∧ ∀ e ∈ trace, answered e := by
  have quietly {l : List (Event τ Command Outcome)} {v : World} {e : Event τ Command Outcome} (he : answered e)
      (hw : writtenBy conn_id e = []) (hv : accepted v.log = accepted w₀.log ++ l.flatMap (writtenBy conn_id))
      (ha : ∀ e ∈ l, answered e) :
      accepted v.log = accepted w₀.log ++ (l ++ [e]).flatMap (writtenBy conn_id) ∧ ∀ f ∈ l ++ [e], answered f := by
    refine ⟨?_, List.forall_mem_append.mpr ⟨ha, List.forall_mem_singleton.mpr he⟩⟩
    rw [List.flatMap_append, List.flatMap_singleton, hw, List.append_nil, hv]
  induction h with
  | none => exact ⟨h₀, (List.append_nil _).symm, fun _ h => absurd h List.not_mem_nil⟩
  | ran q i out v hr _ ih =>
    obtain ⟨fuel, hr⟩ := hr
    obtain ⟨hbooks, hwritten, hanswered⟩ := ih
    obtain ⟨hb, ha⟩ := exec_books i.command hbooks hr
    refine ⟨hb, ?_, List.forall_mem_append.mpr ⟨hanswered, List.forall_mem_singleton.mpr (exec_answered i hbooks hr)⟩⟩
    rw [ha, hwritten, List.flatMap_append, List.flatMap_singleton, List.append_assoc]
    rfl
  | passed v hp _ ih =>
    obtain ⟨fuel, requests, sent, hr, hrun⟩ := hp
    obtain ⟨hbooks, hwritten, hanswered⟩ := ih
    obtain ⟨hb, ha⟩ := round_books hr hbooks hrun
    exact ⟨hb, quietly trivial rfl (ha.trans hwritten) hanswered⟩
  | called t c _ ih | put i _ ih | returned t r _ ih =>
    obtain ⟨hbooks, hwritten, hanswered⟩ := ih
    exact ⟨hbooks, quietly trivial rfl hwritten hanswered⟩

variable [DecidableEq τ]

/-- For every interleaving: commands are run in the order in which they were put into the queue, each once. A payload
is queued or its client is told, the queue holds what was queued and not taken, in order, and what is sent is what was
taken for a connection that was up. -/
theorem frames_conserved (conn_id : Nat) (config : NetworkLteConfig) (with_timer : Bool) (env : Nat → Tick)
    {s : State τ Command Outcome World} (h : Reachable (owner conn_id) (initial config with_timer env) s) :
    let w := s.world
    let queued := s.trace.flatMap (writtenBy conn_id)
    runs s.trace ++ s.worker.pending ++ s.queue = puts s.trace ∧ (∀ e ∈ s.trace, answered e) ∧
      queued = taken w.log ++ w.net.data.message_queue_.tx.messages ∧ SendData.sent w.log = delivered w.log ∧
      (SendData.sent w.log).Sublist (queued.map fun msg => (msg.cid, msg.data)) := by
  intro w queued
  have hinv := h.inv
  obtain ⟨hbooks, hwritten, hanswered⟩ := explains_books hinv.world ⟨InStep.empty, rfl, rfl, rfl⟩
  have hqueued : queued = taken w.log ++ w.net.data.message_queue_.tx.messages := by
    rw [← hbooks.kept, hwritten]
    rfl
  refine ⟨hinv.order.symm, hanswered, hqueued, hbooks.sent, ?_⟩
  rw [hqueued, hbooks.sent, List.map_append]
  exact (delivered_sublist w.log).trans (List.sublist_append_left _ _)

/-! ### A session -/

/-- A modem that lets `main` connect, and has no socket open when it is asked for one. -/
def online : Nat → Tick := fun i =>
  { body := .ofView _ (if i = 42 then "#SS: 1,0" else "+CGACT: 1,1\n+CEREG: 0,1,1,1 \"10.0.0.2\"").toList }

def Command.after (w : World) (c : Command) : World := (c.exec 1 9 w).2

theorem runs_after {c : Command} {w : World} {out : Outcome} (h : (c.exec 1 9 w).1 = some out) :
    (owner 1).runs c w out (c.after w) := ⟨9, Prod.ext h rfl⟩

theorem pass_after {w : World} {l : List Str} (h : (round 1 9 [] w).1 = some l) :
    (owner 1).pass w (round 1 9 [] w).2 := ⟨9, [], l, nofun, Prod.ext h rfl⟩

theorem direct_call {w₀ : World} {s : State τ Command Outcome World} (h : Reachable (owner 1) w₀ s) {t : τ} {c : Command}
    {o : Outcome} (hs : s.started = false) (hw : s.worker = .out) (ht : s.clients t = .idle)
    (hr : (c.exec 1 9 s.world).1 = some o) :
    Reachable (owner 1) w₀
      { s with
        world := c.after s.world
        trace := s.trace ++ [.called t c, .ran false ⟨t, c, true⟩ o, .returned t o] } := by
  have hcall := h.tail (.call t c ht)
  have hdirect := hcall.tail (.direct t c o (c.after s.world) (by simp [hs]) hw (runs_after hr))
  have hreturn := hdirect.tail (.return t c o (by simp))
  have hclients : Function.update s.clients t .idle = s.clients := ht ▸ Function.update_eq_self t s.clients
  simpa [Reachable, hclients] using hreturn

def shown : Outcome := { reply := some "\"data_ready\"".toList }

/-- What `main` does, and a payload of one client. -/
def beforeCall : List (Event Bool Command Outcome) :=
  [.called false .network_connect, .ran false ⟨false, .network_connect, true⟩ {}, .returned false {},
    .called false .server_connect, .ran false ⟨false, .server_connect, true⟩ {}, .returned false {},
    .called false .hello, .ran false ⟨false, .hello, true⟩ ⟨some .ok, none⟩, .returned false ⟨some .ok, none⟩,
    .put ⟨false, .data ['x'], false⟩]

/-- The call of the other client is served between two payloads. -/
def duringCall : List (Event Bool Command Outcome) :=
  [.put ⟨true, .get_network_state, true⟩, .put ⟨false, .data ['y'], false⟩,
    .ran true ⟨false, .data ['x'], false⟩ ⟨some .ok, none⟩, .ran true ⟨true, .get_network_state, true⟩ shown,
    .ran true ⟨false, .data ['y'], false⟩ ⟨some .ok, none⟩, .passed]

def session : List (Event Bool Command Outcome) :=
  beforeCall ++ .called true .get_network_state :: duringCall ++ .returned true shown :: []

theorem session_reachable : ∃ s : State Bool Command Outcome World,
    Reachable (owner 1) (initial {} false online) s ∧ s.trace = session ∧
      SendData.sent s.world.log = [(1, hello), (1, ['x']), (1, ['y'])] := by
  have h₀ : Reachable (owner 1) (initial {} false online)
      ({ world := initial {} false online } : State Bool Command Outcome World) := .refl
  have h₁ := direct_call h₀ (t := false) (c := .network_connect) (o := {}) rfl rfl rfl (by decide +kernel)
  have h₂ := direct_call h₁ (t := false) (c := .server_connect) (o := {}) rfl rfl rfl (by decide +kernel)
  have h₃ := direct_call h₂ (t := false) (c := .hello) (o := ⟨some .ok, none⟩) rfl rfl rfl (by decide +kernel)
  have hwaiting := ((((h₃.tail .start).tail (.post false (.data ['x']) rfl)).tail (.call true .get_network_state rfl)).tail
    (.send true .get_network_state rfl)).tail (.post false (.data ['y']) rfl)
  have htaken := (hwaiting.tail (.lock rfl rfl)).tail (.swap rfl)
  have hx := htaken.tail (.run ⟨false, .data ['x'], false⟩ _ ⟨some .ok, none⟩ _ rfl (runs_after (by decide +kernel)))
  have hstate := hx.tail (.run ⟨true, .get_network_state, true⟩ _ shown _ rfl (runs_after (by decide +kernel)))
  have hy := hstate.tail (.run ⟨false, .data ['y'], false⟩ _ ⟨some .ok, none⟩ _ rfl (runs_after (by decide +kernel)))
  have hpass := hy.tail (.pass _ rfl (pass_after (l := []) (by decide +kernel)))
  exact ⟨_, hpass.tail (.return true .get_network_state shown rfl), rfl, by decide +kernel⟩

theorem frames_conserved_session : ∃ s : State Bool Command Outcome World,
    s.trace = session ∧ SendData.sent s.world.log = [(1, hello), (1, ['x']), (1, ['y'])] ∧
      runs s.trace ++ s.worker.pending ++ s.queue = puts s.trace ∧ (∀ e ∈ s.trace, answered e) ∧
      s.trace.flatMap (writtenBy 1) = taken s.world.log ++ s.world.net.data.message_queue_.tx.messages := by
  obtain ⟨s, hs, htrace, hsent⟩ := session_reachable
  obtain ⟨hruns, hanswered, hqueued, -, -⟩ := frames_conserved 1 {} false online hs
  exact ⟨s, htrace, hsent, hruns, hanswered, hqueued⟩

/-- A call that returned took effect at one moment in between, on the machine of that moment. The state that
`GET STATE` shows is the one of that moment. -/
theorem calls_linearized (conn_id : Nat) (w₀ : World) {s : State τ Command Outcome World}
    (h : Reachable (owner conn_id) w₀ s) {t : τ} {c : Command} {out : Outcome}
    {before during after : List (Event τ Command Outcome)}
    (htrace : s.trace = before ++ .called t c :: during ++ .returned t out :: after)
    (hd : ∀ c', .called t c' ∉ during) :
    ∃ d₁ d₂ q w, during = d₁ ++ .ran q ⟨t, c, true⟩ out :: d₂ ∧
      Explains (owner conn_id) w₀ (before ++ .called t c :: d₁) w ∧ (∃ fuel v, c.exec conn_id fuel w = (some out, v)) ∧
      (c = .get_network_state → out.reply = some ('"' :: (w.net.state_.to_str.text ++ ['"']))) := by
  obtain ⟨d₁, d₂, q, w, v, hduring, hw, fuel, hrun⟩ := h.inv.linearized htrace hd
  refine ⟨d₁, d₂, q, w, hduring, hw, ⟨fuel, v, hrun⟩, ?_⟩
  rintro rfl
  cases hrun
  rfl

theorem calls_linearized_session :
    ∃ d₁ d₂ q w, duringCall = d₁ ++ .ran q ⟨true, .get_network_state, true⟩ shown :: d₂ ∧
      Explains (owner 1) (initial {} false online) (beforeCall ++ .called true .get_network_state :: d₁) w ∧
      (∃ fuel v, Command.get_network_state.exec 1 fuel w = (some shown, v)) ∧
      shown.reply = some ('"' :: (w.net.state_.to_str.text ++ ['"'])) := by
  obtain ⟨s, hs, htrace, -⟩ := session_reachable
  obtain ⟨d₁, d₂, q, w, hduring, hw, hrun, hshown⟩ := calls_linearized 1 (initial {} false online) hs htrace
    (by simp [duringCall])
  exact ⟨d₁, d₂, q, w, hduring, hw, hrun, hshown rfl⟩

end Payloads

end LteModem.IpcServers
