import LteModem.ModemController

/-!
# Answers and the commands they belong to

A modem that answers every command line once and in order, over a link that delays its bytes at will.
`send_command` does not empty the port before it writes, so an answer that comes after its command has
timed out is read by the next one.
-/

open Strings

namespace LteModem.Pairing

open ModemController

/-! ## The link -/

/-- A byte of the modem with the number of the command line it answers. -/
abbrev Byte := Nat × Char

inductive Entry where
  | transmit (line : Str) (unread : List Byte) (received : List Str)
  | read (bytes : List Byte) (received : List Str)
deriving DecidableEq

structure Link where
  clock : Nat := 0
  received : List Str := []
  unread : List Byte := []
  log : List Entry := []

/-- What the surroundings decide at a clock tick. -/
structure Tick where
  lock : Bool := true
  is_open : Bool := true
  write : UartError := .ok
  elapsed : Nat := 0
  read : UartError := .ok
  /-- how many of the unread bytes have arrived -/
  arrived : Nat := 0

section

variable (env : Nat → Tick) (answer : Nat → Str → Str)

def answerBytes (k : Nat) (line : Str) : List Byte := (answer k line).map (k, ·)

def Link.tick (l : Link) : Link := { l with clock := l.clock + 1 }

def Link.write (line : Str) (l : Link) : UartError × Link :=
  if (env l.clock).write = .ok then
    (.ok, { l.tick with
      received := l.received ++ [line]
      unread := l.unread ++ answerBytes answer l.received.length line
      log := .transmit line l.unread l.received :: l.log })
  else ((env l.clock).write, l.tick)

def Link.read (size : Nat) (l : Link) : (UartError × Str) × Link :=
  let bytes := l.unread.take (min size (env l.clock).arrived)
  if (env l.clock).read = .ok ∧ bytes ≠ [] then
    ((.ok, bytes.map (·.2)), { l.tick with
      unread := l.unread.drop (min size (env l.clock).arrived)
      log := .read bytes l.received :: l.log })
  else (((env l.clock).read, []), l.tick)

def link : Uart Link where
  lock l := ((env l.clock).lock, l.tick)
  is_open l := (env l.clock).is_open
  write line l := l.write env answer line
  restart_timer _ l := l.tick
  elapsed_ms l := ((env l.clock).elapsed, l.tick)
  read size _ l := l.read env size
  read_fits size _ l := by
    unfold Link.read
    dsimp only
    split_ifs
    · rw [List.length_map, List.length_take]
      omega
    · exact Nat.zero_le _

/-! ## Runs -/

structure Request where
  command : Str
  timeout_ms : Nat := 5000
  retry : Bool := false
  response : AtResponse := {}

/-- The line that `send_command` writes for the request. -/
def Request.line (r : Request) : Str := (FixedString.ofView AT_CMD_MAX r.command).view ++ crlf

structure Outcome where
  request : Request
  result : Option (ModemStatus × AtResponse)
  link : Link

def run (fuel : Nat) : List Request → ModemController Link → List Outcome
  | [], _ => []
  | r :: rs, m =>
    let out := send_raw (link env answer) fuel r.command r.response r.timeout_ms r.retry m
    { request := r, result := out.1, link := out.2.uart_ } :: run fuel rs out.2

/-- A result other than a failed exchange is the modem's whole answer to a transmission of the
command: the bytes read last are that answer, and the response is what it says. -/
def Paired (o : Outcome) : Prop :=
  ∀ status response, o.result = some (status, response) → status = .ok ∨ status = .at_error →
    ∃ k log, o.link.received[k]? = some o.request.line ∧
      o.link.log = .read (answerBytes answer k o.request.line) o.link.received :: log ∧
      response = parse_response (answer k o.request.line)

/-- A command is written only while every answer still to come is one to the same command, and a
read returns one whole answer. -/
def Entry.Good : Entry → Prop
  | .transmit line unread received => ∀ b ∈ unread, received[b.1]? = some line
  | .read bytes received => ∃ k line, received[k]? = some line ∧ bytes = answerBytes answer k line

def GoodLink (l : Link) : Prop := ∀ e ∈ l.log, e.Good answer

/-! ## One command -/

/-- Whatever is still to be read answers `line`. -/
def Awaits (line : Str) (l : Link) : Prop :=
  GoodLink answer l → ∀ b ∈ l.unread, l.received[b.1]? = some line

/-- `response` is the whole answer to a transmission of `line`, and was read last. -/
def Answers (line : Str) (response : AtResponse) (l : Link) : Prop :=
  ∃ k log, l.received[k]? = some line ∧ l.log = .read (answerBytes answer k line) l.received :: log ∧
    response = parse_response (answer k line)

def Settled (line : Str) (r : ModemStatus × AtResponse) (m : ModemController Link) : Prop :=
  r.1 = .ok ∨ r.1 = .at_error → GoodLink answer m.uart_ → Answers answer line r.2 m.uart_

variable {env answer}

theorem write_awaits (line : Str) (l : Link) (h : (l.write env answer line).1 = .ok) :
    Awaits answer line (l.write env answer line).2 := by
  unfold Link.write at h ⊢
  split_ifs at h ⊢ with hw
  · intro hg b hb
    have he : ∀ b ∈ l.unread, l.received[b.1]? = some line := hg _ List.mem_cons_self
    simp only [List.mem_append] at hb ⊢
    rcases hb with hb | hb
    · have := he b hb
      rw [List.getElem?_append_left (List.getElem?_eq_some_iff.mp this).1]
      exact this
    · obtain ⟨c, -, rfl⟩ := List.mem_map.mp hb
      simp
  · exact absurd h hw

theorem read_answers (line : Str) (size : Nat) (l : Link) (hw : Awaits answer line l)
    (hb : (l.read env size).1.2 ≠ []) (hg : GoodLink answer (l.read env size).2) :
    Answers answer line (parse_response (l.read env size).1.2) (l.read env size).2 := by
  unfold Link.read at hb hg ⊢
  dsimp only at hb hg ⊢
  split_ifs at hb hg ⊢ with hr
  · obtain ⟨k, line', hk, hbytes⟩ := hg _ List.mem_cons_self
    have hne : answerBytes answer k line' ≠ [] := hbytes ▸ hr.2
    obtain ⟨b, hbm⟩ := List.exists_mem_of_ne_nil _ hne
    obtain ⟨c, -, rfl⟩ := List.mem_map.mp hbm
    -- The bytes carry the number of a transmission that awaits, so the answered line is `line`.
    have hl := hw (fun e he => hg e (List.mem_cons_of_mem _ he)) (k, c)
      (List.mem_of_mem_take (hbytes ▸ hbm))
    obtain rfl : line' = line := Option.some.inj (hk.symm.trans hl)
    refine ⟨k, l.log, hk, by rw [hbytes]; rfl, ?_⟩
    rw [hbytes]
    simp [answerBytes, Function.comp_def]
  · exact absurd rfl hb

theorem read_nothing (line : Str) (size : Nat) (l : Link) (hw : Awaits answer line l)
    (hb : (l.read env size).1.2 = []) : Awaits answer line (l.read env size).2 := by
  unfold Link.read at hb ⊢
  dsimp only at hb ⊢
  split_ifs at hb ⊢ with hr
  · exact absurd (List.map_eq_nil_iff.mp hb) hr.2
  · exact hw

theorem readAnswer_settled (line : Str) (total fuel : Nat) (response : AtResponse) :
    Prog.Triple (fun m => Awaits answer line m.uart_)
      (readAnswer (link env answer) total fuel (.empty _) response)
      (Settled answer line) (fun _ => True) := by
  induction fuel with
  | zero => exact fun _ _ => trivial
  | succ fuel ih =>
    unfold readAnswer
    refine Prog.Triple.bind (Q := fun _ (m : ModemController Link) => Awaits answer line m.uart_)
      (fun m hm => hm) ?_
    intro elapsed
    refine Prog.Triple.ite (fun _ => Prog.Triple.pure fun m _ => by simp [Settled]) fun _ => ?_
    refine Prog.Triple.bind (Q := fun r (m : ModemController Link) => r.2.length ≤ READ_MAX ∧
      (r.2 ≠ [] → GoodLink answer m.uart_ → Answers answer line (parse_response r.2) m.uart_) ∧
        (r.2 = [] → Awaits answer line m.uart_)) ?_ ?_
    · intro m hm
      exact ⟨(link env answer).read_fits READ_MAX _ _, read_answers line READ_MAX m.uart_ hm,
        read_nothing line READ_MAX m.uart_ hm⟩
    rintro ⟨err, bytes⟩
    refine Prog.Triple.ite (fun _ => Prog.Triple.pure fun m _ => by simp [Settled]) fun _ => ?_
    refine Prog.Triple.ite (fun _ => Prog.Triple.pure fun m _ => by simp [Settled]) fun _ => ?_
    refine Prog.Triple.ite (fun h => Prog.Triple.pre (fun m hm => hm.2.2 h) ih) fun hne => ?_
    -- Any bytes settle the status, so the loop ends here.
    rintro m ⟨hlen, hm, -⟩
    have hv : ((FixedString.empty AT_RESPONSE_MAX).append bytes).view = bytes :=
      FixedString.empty_append_view bytes (hlen.trans (by decide))
    simp only [hv, if_pos (parse_response_settles bytes hne)]
    exact fun _ hg => hm hne hg

theorem send_command_settled (fuel : Nat) (cmd : AtCommand) (response : AtResponse) :
    Prog.Triple (fun _ => True) (send_command (link env answer) fuel cmd response)
      (Settled answer (cmd.command_.view ++ crlf)) (fun _ => True) := by
  have failed : ∀ (status : ModemStatus) (P : ModemController Link → Prop), status ≠ .ok →
      status ≠ .at_error → Prog.Triple P (pure (status, response))
        (Settled answer (cmd.command_.view ++ crlf)) (fun _ => True) := by
    intro status P h1 h2
    refine Prog.Triple.pure fun m _ h => ?_
    exact (h.elim h1 h2).elim
  unfold send_command
  refine Prog.Triple.bind (Q := fun _ _ => True) (fun _ _ => trivial) fun locked => ?_
  refine Prog.Triple.ite (fun _ => failed _ _ (by decide) (by decide)) fun _ => ?_
  refine Prog.Triple.bind (Q := fun _ _ => True) (fun _ _ => trivial) fun is_open => ?_
  refine Prog.Triple.ite (fun _ => failed _ _ (by decide) (by decide)) fun _ => ?_
  refine Prog.Triple.bind (Q := fun err (m : ModemController Link) =>
    err = .ok → Awaits answer (cmd.command_.view ++ crlf) m.uart_) ?_ fun err => ?_
  · exact fun m _ h => write_awaits _ m.uart_ h
  refine Prog.Triple.ite (fun _ => failed _ _ (by decide) (by decide)) fun hok => ?_
  refine Prog.Triple.bind (Q := fun _ (m : ModemController Link) =>
    Awaits answer (cmd.command_.view ++ crlf) m.uart_) ?_ fun _ => readAnswer_settled _ _ _ _
  exact fun m hm => hm (not_not.mp hok)

theorem resend_settled (fuel : Nat) (cmd : AtCommand) (attempts : Nat) (r : ModemStatus × AtResponse) :
    Prog.Triple (Settled answer (cmd.command_.view ++ crlf) r) (resend (link env answer) fuel cmd attempts r)
      (Settled answer (cmd.command_.view ++ crlf)) (fun _ => True) := by
  induction attempts generalizing r with
  | zero => exact Prog.Triple.pure fun _ h => h
  | succ attempts ih =>
    unfold resend
    refine Prog.Triple.ite (fun _ => ?_) fun _ => Prog.Triple.pure fun _ h => h
    exact Prog.Triple.bind (Prog.Triple.pre (fun _ _ => trivial) (send_command_settled fuel cmd r.2)) ih

theorem send_raw_settled (fuel : Nat) (r : Request) :
    Prog.Triple (fun _ => True)
      (send_raw (link env answer) fuel r.command r.response r.timeout_ms r.retry)
      (Settled answer r.line) (fun _ => True) := by
  unfold send_raw
  refine Prog.Triple.bind (send_command_settled fuel _ r.response) fun out => ?_
  exact Prog.Triple.ite (fun _ => resend_settled fuel _ _ out) fun _ => Prog.Triple.pure fun _ h => h

/-- In a run whose links are good, every result is the answer to the command it is returned for. -/
theorem run_paired (env : Nat → Tick) (answer : Nat → Str → Str) (fuel : Nat) (rs : List Request)
    (m : ModemController Link) (hg : ∀ o ∈ run env answer fuel rs m, GoodLink answer o.link) :
    ∀ o ∈ run env answer fuel rs m, Paired answer o := by
  induction rs generalizing m with
  | nil => exact fun o ho => absurd ho List.not_mem_nil
  | cons r rs ih =>
    intro o ho
    unfold run at hg ho
    rcases List.mem_cons.mp ho with rfl | ho
    · intro status response hres hst
      have ht := @send_raw_settled env answer fuel r m trivial
      rcases hout : send_raw (link env answer) fuel r.command r.response r.timeout_ms r.retry m with
        ⟨_ | out, m'⟩
      · simp [hout] at hres
      · rw [hout] at ht
        simp only [hout, Option.some.injEq] at hres ⊢
        subst hres
        have := hg _ List.mem_cons_self
        rw [hout] at this
        exact ht hst this
    · exact ih _ (fun o ho => hg o (List.mem_cons_of_mem _ ho)) o ho

end

def cgmi : Request := { command := "AT+CGMI".toList }
def csq : Request := { command := "AT+CSQ".toList }

/-- The answer to the first command comes after its only read has timed out. -/
def lateEnv (n : Nat) : Tick := if n = 4 then { read := .timeout } else { arrived := 14 }

def lateAnswer : Nat → Str → Str
  | 0, _ => "\r\nACME\r\n\r\nOK\r\n".toList
  | _, _ => "\r\n+CSQ: 9,9\r\n\r\nOK\r\n".toList

theorem late_answer_returned :
    (run lateEnv lateAnswer 4 [cgmi, csq] { uart_ := {} }).map (·.result) =
        [some (.timeout, {}), some (.ok, { status := .ok, body := .ofView _ "ACME".toList })] ∧
      ¬ ∀ o ∈ run lateEnv lateAnswer 4 [cgmi, csq] { uart_ := {} }, Paired lateAnswer o := by
  have hm : (run lateEnv lateAnswer 4 [cgmi, csq] { uart_ := {} }).map
      (fun o => (o.request.line, o.link.received, o.result)) =
      [(cgmi.line, [cgmi.line], some (.timeout, {})), (csq.line, [cgmi.line, csq.line],
        some (.ok, { status := .ok, body := .ofView _ "ACME".toList }))] := by decide
  obtain ⟨o, o', hos⟩ : ∃ o o', run lateEnv lateAnswer 4 [cgmi, csq] { uart_ := {} } = [o, o'] :=
    ⟨_, _, rfl⟩
  rw [hos] at hm ⊢
  simp only [List.map_cons, List.map_nil, List.cons.injEq, Prod.mk.injEq, and_true] at hm ⊢
  obtain ⟨⟨-, -, hr⟩, hl, hrec, hr'⟩ := hm
  refine ⟨⟨hr, hr'⟩, fun h => ?_⟩
  obtain ⟨k, log, hk, -, hp⟩ := h o' (by simp) _ _ hr' (.inl rfl)
  rw [hl, hrec] at hk
  rcases k with _ | k
  · have hne : cgmi.line ≠ csq.line := by decide
    exact hne (by simpa using hk)
  · have hne : { status := .ok, body := .ofView _ "ACME".toList } ≠
        parse_response (lateAnswer 1 []) := by decide
    exact hne hp

def retriedCsq : Request := { csq with retry := true }

/-- The first read times out. -/
def retryEnv (n : Nat) : Tick := if n = 4 then { read := .timeout } else { arrived := 19 }

def quality : Nat → Str → Str
  | 0, _ => "\r\n+CSQ: 9,9\r\n\r\nOK\r\n".toList
  | 1, _ => "\r\n+CSQ: 8,8\r\n\r\nOK\r\n".toList
  | _, _ => "\r\n+CSQ: 7,7\r\n\r\nOK\r\n".toList

/-- The retry reads the late answer to the first transmission, and the next call that to the second one. -/
theorem run_paired_retry :
    (run retryEnv quality 4 [retriedCsq, csq] { uart_ := {} }).map (·.result) =
        [some (.ok, { status := .ok, body := .ofView _ "+CSQ: 9,9".toList }),
          some (.ok, { status := .ok, body := .ofView _ "+CSQ: 8,8".toList })] ∧
      ∀ o ∈ run retryEnv quality 4 [retriedCsq, csq] { uart_ := {} }, Paired quality o := by
  refine ⟨by decide, run_paired retryEnv quality 4 [retriedCsq, csq] { uart_ := {} } ?_⟩
  let first : List Entry := [.read (answerBytes quality 0 csq.line) [csq.line, csq.line],
    .transmit csq.line (answerBytes quality 0 csq.line) [csq.line], .transmit csq.line [] []]
  have hm : (run retryEnv quality 4 [retriedCsq, csq] { uart_ := {} }).map (·.link.log) =
      [first, .read (answerBytes quality 1 csq.line) [csq.line, csq.line, csq.line] ::
        .transmit csq.line (answerBytes quality 1 csq.line) [csq.line, csq.line] :: first] := by decide
  have hfirst : ∀ e ∈ first, e.Good quality := by
    simp only [first, List.forall_mem_cons, Entry.Good]
    exact ⟨⟨0, _, rfl, rfl⟩, by decide, by simp, by simp⟩
  intro o ho
  have hlog : o.link.log ∈ (run retryEnv quality 4 [retriedCsq, csq] { uart_ := {} }).map (·.link.log) :=
    List.mem_map_of_mem ho
  rw [hm] at hlog
  unfold GoodLink
  rcases List.mem_cons.mp hlog with h | h
  · rw [h]
    exact hfirst
  · rw [List.mem_singleton.mp h]
    simp only [List.forall_mem_cons, Entry.Good]
    exact ⟨⟨1, _, rfl, rfl⟩, by decide, hfirst⟩

end LteModem.Pairing
