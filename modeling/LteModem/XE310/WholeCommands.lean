import LteModem.XE310.Commands

/-!
# Commands with an argument of any length

On its way out a command passes an `snprintf` buffer, the string of the `AtCommand` and the write buffer,
and each of them cuts without a word.
-/

open Strings

namespace LteModem.WholeCommands

open ModemController

/-! ## What was written -/

/-- The port, and what was written to it. -/
def recorded {σ : Type} (u : Uart σ) : Uart (σ × List Str) where
  lock s := ((u.lock s.1).1, (u.lock s.1).2, s.2)
  is_open s := u.is_open s.1
  write text s := ((u.write text s.1).1, (u.write text s.1).2, s.2 ++ [text])
  restart_timer total_ms s := (u.restart_timer total_ms s.1, s.2)
  elapsed_ms s := ((u.elapsed_ms s.1).1, (u.elapsed_ms s.1).2, s.2)
  read size timeout s := ((u.read size timeout s.1).1, (u.read size timeout s.1).2, s.2)
  read_fits size timeout s := u.read_fits size timeout s.1

abbrev Recorded (σ : Type) : Type := ModemController (σ × List Str)

/-- What was written has the property `P`. -/
def Wrote {σ : Type} (P : List Str → Prop) (m : Recorded σ) : Prop := P m.uart_.2

section

variable {σ : Type} {P : List Str → Prop} (u : Uart σ)

instance lock_keeps : Prog.Preserves (Wrote P) (onUart (recorded u).lock) :=
  ⟨fun _ h => h⟩

instance elapsed_keeps : Prog.Preserves (Wrote P) (onUart (recorded u).elapsed_ms) :=
  ⟨fun _ h => h⟩

instance read_keeps (size timeout : Nat) :
    Prog.Preserves (Wrote P) (onUart ((recorded u).read size timeout)) :=
  ⟨fun _ h => h⟩

instance restart_keeps (total_ms : Nat) : Prog.Preserves (Wrote P)
    (onUart fun s => ((), (recorded u).restart_timer total_ms s)) :=
  ⟨fun _ h => h⟩

instance append_keeps (t : Str) : Prog.Preserves (Wrote P)
    (.modify fun c : Recorded σ => { c with urc_rx_buffer_ := c.urc_rx_buffer_.append t }) :=
  ⟨fun _ h => h⟩

/-- Only the line of the command was written. -/
def Only (command : Str) : Recorded σ → Prop := Wrote fun written => ∀ w ∈ written, w = command.take AT_CMD_MAX ++ crlf

/-- Something was written, if the status is `ok`. -/
def Heard (r : ModemStatus × AtResponse) : Recorded σ → Prop := Wrote fun written => r.1 = .ok → written ≠ []

/-- An exchange writes its command, and nothing else. -/
instance send_command_only (fuel : Nat) (command : Str) (timeout_ms : Nat) (response : AtResponse) :
    Prog.Preserves (Only command) (send_command (recorded u) fuel ⟨.ofView _ command, timeout_ms⟩ response) := by
  have hw : Prog.Preserves (Only command)
      (onUart ((recorded u).write ((FixedString.ofView AT_CMD_MAX command).view ++ crlf))) := by
    constructor
    intro m h w hm
    rcases List.mem_append.mp hm with hm | hm
    · exact h w hm
    · exact List.mem_singleton.mp hm
  unfold Only at hw ⊢
  unfold send_command
  infer_instance

theorem send_raw_only (fuel : Nat) (command : Str) (response : AtResponse) (timeout_ms : Nat) (retry : Bool) :
    Prog.Preserves (Only command) (ModemController.send_raw (recorded u) fuel command response timeout_ms retry) := by
  unfold ModemController.send_raw
  infer_instance

/-- Without a write there is no `ok`, and no read that could cut the exchange off. -/
theorem send_command_heard (fuel : Nat) (cmd : AtCommand) (response : AtResponse) :
    Prog.Triple (fun _ => True) (send_command (recorded u) fuel cmd response) Heard
      (Wrote fun written => written ≠ []) := by
  have refused (status : ModemStatus) (hs : status ≠ .ok) : Prog.Triple (fun _ => True)
      (pure (status, response)) (Heard : _ → Recorded σ → Prop) (Wrote fun written => written ≠ []) :=
    Prog.Triple.pure fun _ _ h => absurd h hs
  unfold send_command
  apply Prog.Triple.bind (Q := fun _ _ => True)
  · intro m hm
    trivial
  intro locked
  apply Prog.Triple.ite
  · intro hl
    exact refused .busy (by simp)
  intro hl
  apply Prog.Triple.bind (Q := fun _ _ => True)
  · intro m hm
    trivial
  intro is_open
  apply Prog.Triple.ite
  · intro ho
    exact refused .not_connected (by simp)
  intro ho
  apply Prog.Triple.bind (Q := fun _ => Wrote fun written => written ≠ [])
  · intro m hm
    exact List.concat_ne_nil _ _
  intro err
  apply Prog.Triple.ite
  · intro he
    exact (refused .uart_error (by simp)).pre fun _ _ => trivial
  intro he
  have hr : Prog.Preserves (Wrote fun written => written ≠ []) (do
      onUart fun s => ((), (recorded u).restart_timer cmd.timeout_ms s)
      readAnswer (recorded u) cmd.timeout_ms fuel (.empty _) response) := inferInstance
  exact Prog.Triple.post (fun r m h _ => h) hr.out

theorem resend_heard (fuel : Nat) (cmd : AtCommand) (attempts : Nat) (r : ModemStatus × AtResponse) :
    Prog.Triple (Heard r) (resend (recorded u) fuel cmd attempts r) Heard (Wrote fun written => written ≠ []) := by
  induction attempts generalizing r with
  | zero => exact Prog.Triple.pure fun _ h => h
  | succ attempts ih =>
    apply Prog.Triple.ite
    · intro ht
      exact Prog.Triple.bind ((send_command_heard u fuel cmd r.2).pre fun _ _ => trivial) ih
    · intro ht
      exact Prog.Triple.pure fun _ h => h

theorem send_raw_heard (fuel : Nat) (command : Str) (response : AtResponse) (timeout_ms : Nat) (retry : Bool) :
    Prog.Triple (fun _ => True) (ModemController.send_raw (recorded u) fuel command response timeout_ms retry) Heard
      (Wrote fun written => written ≠ []) := by
  apply Prog.Triple.bind (send_command_heard u fuel _ response)
  intro r
  apply Prog.Triple.ite
  · intro ht
    exact resend_heard u fuel _ _ r
  · intro ht
    exact Prog.Triple.pure fun _ h => h

end

/-! ## The five functions -/

inductive Call where
  | send_sim_command (command : Str)
  | set_apn (cid : Nat) (apn : Str)
  | udp_open (conn_id : Nat) (host : Str) (remote_port local_port : Nat)
  | set_operator_manual (oper : Str) (tech : RadioTech)
  | send_at_command (command : Str) (timeout_ms : Nat)

/-- The command that is handed to `send_raw`. -/
def Call.text : Call → Str
  | .send_sim_command command =>
    snprintf 256 ("AT+CSIM=".toList ++ decimal (command.length % 2 ^ 32) ++ ",\"".toList ++
      cstr (printed command) ++ ['"'])
  | .set_apn cid apn => (Command.set_apn cid (printed apn)).text
  | .udp_open conn_id host remote_port local_port =>
    (AtCmd.udp_open conn_id (printed host) remote_port (if local_port = 0 then remote_port else local_port)).text
  | .set_operator_manual oper tech =>
    if oper = [] then Command.set_operator_auto.text else (Command.set_operator_manual (printed oper) tech).text
  | .send_at_command command _ => command

def Call.timeout_ms : Call → Nat
  | .set_operator_manual _ _ => 210000
  | .send_at_command _ timeout_ms => timeout_ms
  | _ => 5000

def Call.run {σ : Type} (u : Uart σ) (fuel : Nat) (c : Call) : Prog (ModemController σ) (ModemStatus × AtResponse) :=
  ModemController.send_raw u fuel c.text {} c.timeout_ms true

/-! ## Whole or not at all -/

/-- The command line that is meant: the fixed text and the whole argument. -/
def Call.intended : Call → Str
  | .send_sim_command command =>
    "AT+CSIM=".toList ++ decimal command.length ++ ",\"".toList ++ command ++ ['"']
  | .set_apn cid apn => "AT+CGDCONT=".toList ++ decimal cid ++ ",\"IP\",\"".toList ++ apn ++ ['"']
  | .udp_open conn_id host remote_port local_port =>
    "AT#SD=".toList ++ decimal conn_id ++ ",1,".toList ++ decimal remote_port ++ ",\"".toList ++ host ++
      ("\",0,".toList ++ decimal (if local_port = 0 then remote_port else local_port) ++ ",1,0,1".toList)
  | .set_operator_manual oper tech =>
    if oper = [] then "AT+COPS=0".toList
    else "AT+COPS=1,2,\"".toList ++ oper ++ ("\",".toList ++ decimalInt tech.toInt)
  | .send_at_command command _ => command

/-- The line and its NUL fit into the buffer of the function, and the argument has no NUL. -/
def Call.Fits (c : Call) : Prop :=
  match c with
  | .send_sim_command command => '\x00' ∉ command ∧ c.intended.length < 256
  | .set_apn _ apn => '\x00' ∉ apn ∧ c.intended.length < 128
  | .udp_open _ host _ _ => '\x00' ∉ host ∧ c.intended.length < 256
  | .set_operator_manual oper _ => oper = [] ∨ '\x00' ∉ oper ∧ c.intended.length < 128
  | .send_at_command command _ => command.length ≤ AT_CMD_MAX

/-- Every attempt writes the whole line, or nothing is written and the status is not `ok`. -/
def Whole (c : Call) : Prop :=
  ∀ {σ : Type} (u : Uart σ) (fuel : Nat) (s : σ) (b : FixedString URC_RX_BUFFER_MAX),
    let r := c.run (recorded u) fuel { uart_ := (s, []), urc_rx_buffer_ := b }
    (r.2.uart_.2 ≠ [] ∧ ∀ w ∈ r.2.uart_.2, w = c.intended ++ crlf) ∨
      (r.2.uart_.2 = [] ∧ ∀ a, r.1 = some a → a.1 ≠ .ok)

theorem whole_iff_text (c : Call) : Whole c ↔ c.text.take AT_CMD_MAX = c.intended := by
  constructor
  · intro h
    rcases h scripted 0 [] (.empty _) with ⟨-, hw⟩ | ⟨hn, -⟩
    · have hm := hw (c.text.take AT_CMD_MAX ++ crlf) (by
        change _ ∈ [] ++ [_]
        exact List.mem_singleton.mpr rfl)
      exact List.append_cancel_right hm
    · cases hn
  · intro h σ u fuel s b r
    have ho : Only c.text r.2 := (send_raw_only u fuel c.text {} c.timeout_ms true).final (by
      intro w hw
      cases hw)
    have hh := send_raw_heard u fuel c.text {} c.timeout_ms true { uart_ := (s, []), urc_rx_buffer_ := b } trivial
    by_cases hn : r.2.uart_.2 = []
    · right
      refine ⟨hn, fun a ha hok => ?_⟩
      rcases hr : c.run (recorded u) fuel { uart_ := (s, []), urc_rx_buffer_ := b } with ⟨_ | a', m⟩
      · simp [r, hr] at ha
      · rw [show ModemController.send_raw (recorded u) fuel c.text {} c.timeout_ms true
          { uart_ := (s, []), urc_rx_buffer_ := b } = (some a', m) from hr] at hh
        have he : a' = a := by simpa [r, hr] using ha
        have hm : m.uart_.2 = [] := by simpa [r, hr] using hn
        exact hh (he ▸ hok) hm
    · left
      refine ⟨hn, fun w hw => ?_⟩
      rw [ho w hw, h]

theorem printed_whole_iff {n : Nat} (h0 : 0 < n) (hn : n ≤ AT_CMD_MAX) (a arg b : Str) :
    (snprintf n (a ++ cstr (printed arg) ++ b)).take AT_CMD_MAX = a ++ arg ++ b ↔
      '\x00' ∉ arg ∧ (a ++ arg ++ b).length < n := by
  have hm : AT_CMD_MAX = 256 := rfl
  have hl : (snprintf n (a ++ cstr (printed arg) ++ b)).length ≤ n - 1 := List.length_take_le _ _
  rw [List.take_of_length_le (by omega)]
  exact snprintf_whole_iff h0 (by omega) a arg b

/-- The number announced wraps at 2 ^ 32, where the line has long been too long. -/
theorem announced_whole_iff (a command b : Str) (announce : Nat → Str) :
    (snprintf 256 (a ++ announce (command.length % 2 ^ 32) ++ b ++ cstr (printed command) ++ ['"'])).take AT_CMD_MAX =
        a ++ announce command.length ++ b ++ command ++ ['"'] ↔
      '\x00' ∉ command ∧ (a ++ announce command.length ++ b ++ command ++ ['"']).length < 256 := by
  by_cases hc : command.length < 2 ^ 32
  · rw [Nat.mod_eq_of_lt hc]
    exact printed_whole_iff (by decide) (by decide) _ command _
  · constructor
    · intro h
      have hl := congrArg List.length h
      simp only [snprintf, List.length_take, List.length_append] at hl
      omega
    · rintro ⟨-, h⟩
      simp only [List.length_append] at h
      omega

theorem text_eq_iff (c : Call) : c.text.take AT_CMD_MAX = c.intended ↔ c.Fits := by
  cases c with
  | send_sim_command command => exact announced_whole_iff "AT+CSIM=".toList command ",\"".toList decimal
  | set_apn cid apn =>
    exact printed_whole_iff (n := 128) (by decide) (by decide)
      ("AT+CGDCONT=".toList ++ decimal cid ++ ",\"IP\",\"".toList) apn ['"']
  | udp_open conn_id host remote_port local_port =>
    have ht : (Call.udp_open conn_id host remote_port local_port).text =
        snprintf 256 ("AT#SD=".toList ++ decimal conn_id ++ ",1,".toList ++ decimal remote_port ++ ",\"".toList ++
          cstr (printed host) ++ ("\",0,".toList ++
            decimal (if local_port = 0 then remote_port else local_port) ++ ",1,0,1".toList)) := by
      rw [← List.append_assoc, ← List.append_assoc]
      rfl
    rw [ht]
    exact printed_whole_iff (n := 256) (by decide) (by decide) _ host _
  | set_operator_manual oper tech =>
    unfold Call.text Call.Fits Call.intended
    by_cases ho : oper = []
    · simp only [ho, if_true, true_or, iff_true]
      rfl
    · have ht : (Command.set_operator_manual (printed oper) tech).text =
          snprintf 128 ("AT+COPS=1,2,\"".toList ++ cstr (printed oper) ++
            ("\",".toList ++ decimalInt tech.toInt)) := by
        rw [← List.append_assoc]
        rfl
      simp only [ho, if_false, false_or, ht]
      exact printed_whole_iff (n := 128) (by decide) (by decide) _ oper _
  | send_at_command command timeout_ms => exact List.take_eq_self_iff command

theorem whole_iff (c : Call) : Whole c ↔ c.Fits := by
  rw [whole_iff_text, text_eq_iff]

/-- 244 digits are announced, 242 of them follow, and the closing quote is missing. -/
theorem sim_command_cut :
    let c := Call.send_sim_command (List.replicate 244 'A')
    c.text.take AT_CMD_MAX = "AT+CSIM=244,\"".toList ++ List.replicate 242 'A' ∧ ¬ Whole c := by
  intro c
  have ht : c.text.take AT_CMD_MAX = "AT+CSIM=244,\"".toList ++ List.replicate 242 'A' := by decide +kernel
  refine ⟨ht, ?_⟩
  rw [whole_iff_text, ht]
  decide +kernel

end LteModem.WholeCommands
