import LteModem.RadioLte.Messages

/-!
# Answering requests (`i_radio_lte.cpp`, `RadioLteChannels`, `posix_message_channel.cpp`)

The radio behind the requests is an interface over an arbitrary state. Frames and publications carry
the number of the request they belong to, which the real ones do not.
-/

namespace LteModem

open Messages

def MODEM_TX_Q_DEPTH : Nat := 8
def MODEM_RX_Q_DEPTH : Nat := 8

inductive MessageChannelError where
  | ok | full | empty | timeout | invalid_argument | invalid_size
deriving DecidableEq, Repr

inductive ModemEvt where
  | response | action_done
deriving DecidableEq, Repr

/-- `type` is what the first byte names, `none` when it is past the last request type. -/
structure RequestFrame (δ : Type) where
  length : Nat
  type : Option RadioLteRequestType
  data : δ

/-- What one branch of the switch does, in order. -/
inductive Job where
  | call (type : RadioLteRequestType)
  | respond (type : RadioLteRequestType)
  | reply (value : Bool)
  | complete (type : RadioLteRequestType)
deriving DecidableEq, Repr

/-- The acknowledgement, the action, its completion. -/
def blockingJobs (type : RadioLteRequestType) : List Job := [.reply true, .call type, .complete type]

/-- The branch of `process_radio_requests` that a frame takes. -/
def jobs {δ : Type} (frame : RequestFrame δ) : List Job :=
  if frame.length < 1 then [.reply false]
  else match frame.type with
    | some .set_config =>
      if frame.length ≠ ModemSetConfigMsg.size then [.reply false] else [.call .set_config, .reply true]
    | some .server_connect =>
      if frame.length ≠ ModemServerConnectMsg.size then [.reply false] else blockingJobs .server_connect
    | type =>
      if frame.length ≠ ModemTxMsg.size then [.reply false]
      else match type with
        | none => [.reply false]
        | some .get_clock => [.call .get_clock, .respond .get_clock]
        | some type => if blocking type then blockingJobs type else [.respond type]

/-- `NetworkLte` as the requests see it. `call` is the method that the request runs, `value` the first
byte of what it returns. -/
structure Radio (ρ δ : Type) where
  call : RadioLteRequestType → δ → ρ → Bool × ρ
  value : RadioLteRequestType → ρ → Nat

/-- A message on `modem_rx_q`: its length and its first two bytes. -/
structure Frame where
  request : Nat
  length : Nat
  bytes : Nat × Nat
deriving DecidableEq, Repr

/-- A response is typed by the request whose value it carries, or holds a `bool`. -/
inductive Kind where
  | response (value : Option RadioLteRequestType)
  | complete (type : RadioLteRequestType)
deriving DecidableEq, Repr

/-- An attempt to put a message on `modem_rx_q`, and the event bit posted after it. -/
structure Publication where
  request : Nat
  kind : Kind
  length : Nat
  err : MessageChannelError
  evt : Option ModemEvt
deriving DecidableEq, Repr

/-- The error of `PosixMessageChannel::send` without a timeout. -/
def sendError (capacity count length : Nat) : MessageChannelError :=
  if MESSAGE_CHANNEL_MAX_DATA < length then .invalid_size
  else if capacity ≤ count then .full
  else .ok

def Kind.evt : Kind → ModemEvt
  | .response _ => .response
  | .complete _ => .action_done

def RadioLteRequestType.toByte (t : RadioLteRequestType) : Nat := t.ctorIdx

structure Channels (ρ : Type) where
  radio : ρ
  result : Bool := false
  rx : List Frame := []
  response : Bool := false
  action_done : Bool := false
  log : List Publication := []

namespace Channels

variable {ρ δ : Type}

def set (evt : ModemEvt) (c : Channels ρ) : Channels ρ :=
  match evt with
  | .response => { c with response := true }
  | .action_done => { c with action_done := true }

/-- `send` on `modem_rx_q`. -/
def send (frame : Frame) (c : Channels ρ) : MessageChannelError × Channels ρ :=
  let err := sendError MODEM_RX_Q_DEPTH c.rx.length frame.length
  (err, if err = .ok then { c with rx := c.rx ++ [frame] } else c)

/-- `publish_typed_response` and `publish_action_complete`. -/
def publish (frame : Frame) (kind : Kind) (c : Channels ρ) : Channels ρ :=
  let (err, c) := c.send frame
  if err = .ok then
    { c.set kind.evt with log := c.log ++ [⟨frame.request, kind, frame.length, err, some kind.evt⟩] }
  else { c with log := c.log ++ [⟨frame.request, kind, frame.length, err, none⟩] }

/-- The message a job publishes. -/
def message (r : Radio ρ δ) (request : Nat) (c : Channels ρ) : Job → Option (Frame × Kind)
  | .call _ => none
  | .respond type => some (⟨request, responseLength type, (1, r.value type c.radio)⟩, .response (some type))
  | .reply value =>
    some (⟨request, (ModemTypedResponseMsg bool).size, (1, value.toNat)⟩, .response none)
  | .complete type =>
    some (⟨request, ModemActionCompleteMsg.size, (type.toByte, c.result.toNat)⟩, .complete type)

def callRadio (r : Radio ρ δ) (data : δ) (type : RadioLteRequestType) (c : Channels ρ) : Channels ρ :=
  { c with radio := (r.call type data c.radio).2, result := (r.call type data c.radio).1 }

end Channels

end LteModem
