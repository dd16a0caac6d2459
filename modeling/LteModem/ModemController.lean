import LteModem.AtCommand
import LteModem.Lib.Prog

/-!
# The AT exchange (`hal/modem_controller.h`, `modem_controller.cpp`)

The UART, the I/O lock and the command timer are an interface over an arbitrary state. `fuel`
bounds the number of reads of one exchange; a program that needs more is cut off.
-/

open Strings

namespace LteModem

def MAX_AT_RETRIES : Nat := 3
def URC_RX_BUFFER_MAX : Nat := 1024
def URC_LINE_MAX : Nat := 256
def MAX_URC_LINES : Nat := 8

/-- `sizeof(buffer) - 1` of every read. -/
def READ_MAX : Nat := 511

inductive UartError where
  | ok | timeout | write_failed | read_failed | port_not_open | invalid_config
deriving DecidableEq, Repr

inductive ModemStatus where
  | ok | busy | uart_error | not_connected | at_error | timeout | invalid_param
deriving DecidableEq, Repr

/-- `UartInterface`, with `io_mutex_.lock_for` and `cmd_timer_`. -/
structure Uart (σ : Type) where
  lock : σ → Bool × σ
  is_open : σ → Bool
  write : Str → σ → UartError × σ
  /-- `cmd_timer_->stop(); cmd_timer_->start(total_ms, nullptr)` -/
  restart_timer : Nat → σ → σ
  elapsed_ms : σ → Nat × σ
  /-- `read(buffer, buffer_size, bytes_read, timeout_ms)` -/
  read : Nat → Nat → σ → (UartError × Str) × σ
  read_fits : ∀ size timeout s, (read size timeout s).1.2.length ≤ size

structure AtCommand where
  command_ : FixedString AT_CMD_MAX
  timeout_ms : Nat

structure ModemController (σ : Type) where
  uart_ : σ
  urc_rx_buffer_ : FixedString URC_RX_BUFFER_MAX := .empty _

namespace ModemController

variable {σ : Type} (u : Uart σ)

def onUart {α : Type} (f : σ → α × σ) : Prog (ModemController σ) α :=
  fun c => (some (f c.uart_).1, { c with uart_ := (f c.uart_).2 })

/-! ## send_command -/

def searchTerm : AtStatus → Str
  | .ok => "OK".toList
  | .error => "ERROR".toList
  | _ => "BUSY".toList

/-- What follows the line of the first occurrence of the status word. -/
def afterStatus (acc : Str) (status : AtStatus) : Str :=
  match find (searchTerm status) acc with
  | none => []
  | some i =>
    match find crlf (acc.drop i) with
    | none => []
    | some j => acc.drop (i + j + 2)

/-- The read loop of `send_command`. -/
def readAnswer (total : Nat) :
    Nat → FixedString AT_RESPONSE_MAX → AtResponse → Prog (ModemController σ) (ModemStatus × AtResponse)
  | 0, _, _ => .cutOff
  | fuel + 1, acc, response => do
    let elapsed ← onUart u.elapsed_ms
    if total ≤ elapsed then pure (.timeout, response)
    else
      let (err, bytes) ← onUart (u.read READ_MAX (total - elapsed))
      if err = .timeout then pure (.timeout, response)
      else if err ≠ .ok then pure (.uart_error, response)
      else if bytes = [] then readAnswer total fuel acc response
      else
        let acc := acc.append bytes
        let response := parse_response acc.view
        if response.status = .ok ∨ response.status = .error ∨ response.status = .busy then
          .modify fun c => { c with
            urc_rx_buffer_ := c.urc_rx_buffer_.append (afterStatus acc.view response.status) }
          pure (if response.status = .ok then .ok else .at_error, response)
        else readAnswer total fuel acc response

def send_command (fuel : Nat) (cmd : AtCommand) (response : AtResponse) :
    Prog (ModemController σ) (ModemStatus × AtResponse) := do
  let locked ← onUart u.lock
  if locked = false then pure (.busy, response)
  else
    let is_open ← .gets fun c => u.is_open c.uart_
    if is_open = false then pure (.not_connected, response)
    else
      let err ← onUart (u.write (cmd.command_.view ++ crlf))
      if err ≠ .ok then pure (.uart_error, response)
      else
        onUart fun s => ((), u.restart_timer cmd.timeout_ms s)
        readAnswer u cmd.timeout_ms fuel (.empty _) response

/-! ## send_raw -/

/-- The retry loop of `send_raw`, with `attempts` left. -/
def resend (fuel : Nat) (cmd : AtCommand) :
    Nat → ModemStatus × AtResponse → Prog (ModemController σ) (ModemStatus × AtResponse)
  | 0, r => pure r
  | attempts + 1, r =>
    if r.1 = .timeout then do
      let r ← send_command u fuel cmd r.2
      resend fuel cmd attempts r
    else pure r

def send_raw (fuel : Nat) (command : Str) (response : AtResponse) (timeout_ms : Nat) (retry : Bool) :
    Prog (ModemController σ) (ModemStatus × AtResponse) := do
  let cmd : AtCommand := { command_ := .ofView _ command, timeout_ms }
  let r ← send_command u fuel cmd response
  if retry = true ∧ r.1 = .timeout then resend u fuel cmd (MAX_AT_RETRIES - 1) r
  else pure r

/-! ## send_binary, send_with_prompt -/

/-- The read of the final response, which is parsed and then dropped. -/
def readFinal (response : AtResponse) (timeout_ms : Nat) : Prog (ModemController σ) (ModemStatus × AtResponse) := do
  let (err, raw) ← onUart (u.read READ_MAX timeout_ms)
  if err = .timeout then pure (.timeout, response)
  else if err ≠ .ok then pure (.uart_error, response)
  else
    let response := parse_response raw
    pure (if response.status ≠ .ok then .at_error else .ok, response)

def send_binary (data : Str) (response : AtResponse) (timeout_ms : Nat) :
    Prog (ModemController σ) (ModemStatus × AtResponse) := do
  let locked ← onUart u.lock
  if locked = false then pure (.busy, response)
  else
    let is_open ← .gets fun c => u.is_open c.uart_
    if is_open = false then pure (.not_connected, response)
    else
      let err ← onUart (u.write data)
      if err ≠ .ok then pure (.uart_error, response)
      else readFinal u response timeout_ms

def send_with_prompt (command data : Str) (response : AtResponse) (timeout_ms : Nat) :
    Prog (ModemController σ) (ModemStatus × AtResponse) := do
  let locked ← onUart u.lock
  if locked = false then pure (.busy, response)
  else
    let is_open ← .gets fun c => u.is_open c.uart_
    if is_open = false then pure (.not_connected, response)
    else
      let err ← onUart (u.write (command.take AT_CMD_MAX ++ crlf))
      if err ≠ .ok then pure (.uart_error, response)
      else
        let (err, prompt) ← onUart (u.read READ_MAX timeout_ms)
        if err = .timeout then pure (.timeout, response)
        else if err ≠ .ok then pure (.uart_error, response)
        else if '>' ∉ prompt then pure (.at_error, response)
        else
          let err ← onUart (u.write data)
          if err ≠ .ok then pure (.uart_error, response)
          else readFinal u response timeout_ms

/-! ## poll_urc -/

/-- `kPrefixes` -/
def kPrefixes : List Str :=
  ["+CREG:", "+CGREG:", "+CEREG:", "+CGEV:", "%STATEV:", "%NOTIFYEV:", "#PSMURC:", "+CME ERROR:",
    "+CMS ERROR:", "#CSURV:", "SRING:", "RING", "NO CARRIER", "BUSY", "NO DIALTONE", "$GPGGA,",
    "$GPGSA,", "$GPGSV,", "$GPRMC,"].map String.toList

def isUrc (line : Str) : Bool := kPrefixes.any (·.isPrefixOf line)

/-- `StaticVector::push_back`: a full vector stays as it is. -/
def push_back {α : Type} (capacity : Nat) (v : List α) (a : α) : List α :=
  if capacity ≤ v.length then v else v ++ [a]

/-- The line loop of `poll_urc`. -/
def drainLines : Nat → FixedString URC_RX_BUFFER_MAX → List (FixedString URC_LINE_MAX) →
    List (FixedString URC_LINE_MAX) × FixedString URC_RX_BUFFER_MAX
  | 0, buf, urcs => (urcs, buf)
  | fuel + 1, buf, urcs =>
    match find ['\n'] buf.view with
    | none => (urcs, buf)
    | some stop =>
      -- NMEA sentences end in LF alone, AT result codes in CRLF.
      let len := if 0 < stop ∧ buf.view[stop - 1]? = some '\r' then stop - 1 else stop
      let line := FixedString.ofView URC_LINE_MAX (buf.view.take len)
      let urcs := if line.view ≠ [] ∧ isUrc line.view then push_back MAX_URC_LINES urcs line else urcs
      drainLines fuel (buf.erase 0 (stop + 1)) urcs

/-- The guard against unbounded growth at the end of `poll_urc`. -/
def trimBuffer (buf : FixedString URC_RX_BUFFER_MAX) : FixedString URC_RX_BUFFER_MAX :=
  if 1024 < buf.size then buf.erase 0 (buf.size - 512) else buf

/-- What `poll_urc` makes of the buffer once the chunk is in it. -/
def parseBuffer (buf : FixedString URC_RX_BUFFER_MAX) :
    List (FixedString URC_LINE_MAX) × FixedString URC_RX_BUFFER_MAX :=
  let (urcs, buf) := drainLines (buf.size + 1) buf []
  (urcs, trimBuffer buf)

def poll_urc (timeout_ms : Nat) : Prog (ModemController σ) (List (FixedString URC_LINE_MAX)) := do
  let locked ← onUart u.lock
  if locked = false then pure []
  else
    let is_open ← .gets fun c => u.is_open c.uart_
    if is_open = false then pure []
    else
      let (err, bytes) ← onUart (u.read READ_MAX timeout_ms)
      if err ≠ .timeout ∧ err ≠ .ok then pure []
      else
        let bytes := if err = .ok then bytes else []
        let buf ← .gets fun c => c.urc_rx_buffer_.append bytes
        let (urcs, buf) := parseBuffer buf
        .modify fun c => { c with urc_rx_buffer_ := buf }
        pure urcs

/-! ## What an exchange keeps -/

section Keeps

variable {I : ModemController σ → Prop}

/-- The read loop keeps what its reads and the buffer's growth keep. -/
instance readAnswer_keeps [Prog.Preserves I (onUart u.elapsed_ms)]
    [∀ size timeout, Prog.Preserves I (onUart (u.read size timeout))]
    [∀ t, Prog.Preserves I (.modify fun c => { c with urc_rx_buffer_ := c.urc_rx_buffer_.append t })]
    (total fuel : Nat) (acc : FixedString AT_RESPONSE_MAX) (response : AtResponse) :
    Prog.Preserves I (readAnswer u total fuel acc response) := by
  induction fuel generalizing acc response with
  | zero =>
    unfold readAnswer
    infer_instance
  | succ fuel ih =>
    unfold readAnswer
    infer_instance

instance resend_keeps (fuel : Nat) (cmd : AtCommand) [∀ response, Prog.Preserves I (send_command u fuel cmd response)]
    (attempts : Nat) (r : ModemStatus × AtResponse) : Prog.Preserves I (resend u fuel cmd attempts r) := by
  induction attempts generalizing r with
  | zero =>
    unfold resend
    infer_instance
  | succ attempts ih =>
    unfold resend
    infer_instance

end Keeps

/-! ## A scripted port -/

/-- A free, open port that returns the chunks of its state, one a read. -/
def scripted : Uart (List Str) where
  lock s := (true, s)
  is_open _ := true
  write _ s := (.ok, s)
  restart_timer _ s := s
  elapsed_ms s := (0, s)
  read size _ s :=
    match s with
    | [] => ((.timeout, []), [])
    | c :: rest => ((.ok, c.take size), rest)
  read_fits size _ s := by
    rcases s with _ | ⟨c, rest⟩
    · exact Nat.zero_le _
    · exact List.length_take_le _ _

end ModemController

end LteModem
