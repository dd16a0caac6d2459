import LteModem.Lib.Bytes
import LteModem.Lib.Connection
import LteModem.Lib.Machine
import LteModem.Lib.Strings

/-!
# The desktop servers' transport (`ipc_server.h`, `posix_ipc_server.cpp`, `win32_ipc_server.cpp`)

The loops of the two platforms are the same. A client sees `running_` fall, or its socket closed, as a
call that fails.
-/

open Strings Bytes

namespace LteModem.IpcServer

inductive Mode where
  | line | framed
deriving DecidableEq, Repr

/-- `data` with its length, a `uint16_t`. -/
structure Message where
  data : Str
  short : data.length < 2 ^ 16

/-- The client that is connected, if there is one. -/
abbrev Client := Option (Outflow Char)

def send (mode : Mode) (m : Message) : Client → Bool × Client
  | none => (false, none)
  | some c =>
    match mode with
    | .framed =>
      let header := c.send (ofUint16 m.data.length)
      if header.1 ≠ some 2 then (false, some header.2)
      else
        let payload := header.2.send m.data
        (payload.1 = some m.data.length, some payload.2)
    | .line =>
      let payload := c.send m.data
      if payload.1 ≠ some m.data.length then (false, some payload.2)
      else
        let last := payload.2.send ['\n']
        (last.1 = some 1, some last.2)

/-- `sizeof(buf)` -/
def BUF_SIZE : Nat := 4096

/-- The messages that the loop hands to `on_message_`, in order. -/
def framed_loop : Nat → Inflow Char → List Str
  | 0, _ => []
  | fuel + 1, s =>
    match s.recvAll 2 with
    | (some hdr, s) =>
      if hdr.length ≠ 2 then []
      else if toUint16 hdr = 0 then framed_loop fuel s
      else
        let recv_len := if toUint16 hdr ≤ BUF_SIZE then toUint16 hdr else BUF_SIZE
        match Inflow.fill (recv_len + 1) recv_len [] s with
        | (some buf, s) => buf :: framed_loop fuel s
        | (none, _) => []
    | (none, _) => []

/-- Every round reads a header of two bytes. -/
def client_loop_framed (s : Inflow Char) : List Str := framed_loop (s.unread.length + 1) s

/-- `if (line.back() == '\r') line.pop_back()` -/
def popReturn (line : Str) : Str := if line.getLast? = some '\r' then line.dropLast else line

/-- What becomes of a line at its end. The length is cast to `uint16_t`. -/
def on_line (line : Str) : Option Str :=
  if popReturn line = [] then none else some ((popReturn line).take ((popReturn line).length % 2 ^ 16))

def line_loop : Nat → Str → Inflow Char → List Str
  | 0, _, _ => []
  | fuel + 1, line, s =>
    match s.recv 1 with
    | (some (ch :: _), s) =>
      if ch = '\n' then (on_line line).toList ++ line_loop fuel [] s
      else line_loop fuel (line ++ [ch]) s
    | _ => []

/-- Every round reads a byte. -/
def client_loop_line (s : Inflow Char) : List Str := line_loop (s.unread.length + 1) [] s

/-! ## What goes over the wire -/

def Message.wire (m : Message) : Mode → Str
  | .framed => ofUint16 m.data.length ++ m.data
  | .line => m.data ++ ['\n']

theorem send_spec (mode : Mode) (m : Message) (c : Outflow Char) :
    ∃ c' sent, (send mode m (some c)).2 = some c' ∧ c'.wire = c.wire ++ sent ∧
      ((send mode m (some c)).1 = true → sent = m.wire mode) := by
  cases mode with
  | framed =>
    obtain ⟨h, -, hw, hfull⟩ := c.send_spec (ofUint16 m.data.length)
    by_cases h2 : (c.send (ofUint16 m.data.length)).1 = some 2
    · obtain ⟨p, -, hw', hfull'⟩ := (c.send (ofUint16 m.data.length)).2.send_spec m.data
      have hs : send .framed m (some c) = _ := if_neg (not_not.mpr h2)
      rw [hs]
      refine ⟨_, h ++ p, rfl, by rw [hw', hw, List.append_assoc], fun hr => ?_⟩
      rw [hfull h2, hfull' (of_decide_eq_true hr)]
      rfl
    · have hs : send .framed m (some c) = _ := if_pos h2
      rw [hs]
      exact ⟨_, h, rfl, hw, nofun⟩
  | line =>
    obtain ⟨p, -, hw, hfull⟩ := c.send_spec m.data
    by_cases hp : (c.send m.data).1 = some m.data.length
    · obtain ⟨l, -, hw', hfull'⟩ := (c.send m.data).2.send_spec ['\n']
      have hs : send .line m (some c) = _ := if_neg (not_not.mpr hp)
      rw [hs]
      refine ⟨_, p ++ l, rfl, by rw [hw', hw, List.append_assoc], fun hr => ?_⟩
      rw [hfull hp, hfull' (of_decide_eq_true hr)]
      rfl
    · have hs : send .line m (some c) = _ := if_pos hp
      rw [hs]
      exact ⟨_, p, rfl, hw, nofun⟩

def wires (mode : Mode) (ms : List Message) : Str := ms.flatMap (·.wire mode)

theorem sends_wire (mode : Mode) {ms : List Message} {c : Outflow Char}
    (h : ∀ r ∈ Machine.answers (send mode) ms (some c), r = true) :
    ∃ c', Machine.final (send mode) ms (some c) = some c' ∧ c'.wire = c.wire ++ wires mode ms := by
  induction ms generalizing c with
  | nil => exact ⟨c, rfl, (List.append_nil _).symm⟩
  | cons m ms ih =>
    obtain ⟨d, sent, hd, hw, hfull⟩ := send_spec mode m c
    rw [Machine.answers, hd] at h
    obtain ⟨e, he, hwire⟩ := ih fun r hr => h r (List.mem_cons_of_mem _ hr)
    refine ⟨e, by rw [Machine.final, hd, he], ?_⟩
    rw [hwire, hw, hfull (h _ List.mem_cons_self), wires, wires, List.flatMap_cons, List.append_assoc]

theorem sends_extend (mode : Mode) (ms : List Message) (c : Outflow Char) :
    ∃ c', Machine.final (send mode) ms (some c) = some c' ∧ c.wire <+: c'.wire := by
  induction ms generalizing c with
  | nil => exact ⟨c, rfl, List.prefix_refl _⟩
  | cons m ms ih =>
    obtain ⟨d, sent, hd, hw, -⟩ := send_spec mode m c
    obtain ⟨e, he, hpre⟩ := ih d
    exact ⟨e, by rw [Machine.final, hd, he], (hw ▸ List.prefix_append _ _).trans hpre⟩

/-! ## Frames -/

/-- The messages of a stream of frames, through a buffer of `BUF_SIZE` bytes. -/
def deframe : Str → List Str
  | a :: b :: rest =>
    let len := toUint16 [a, b]
    if len = 0 then deframe rest
    else if min len BUF_SIZE ≤ rest.length then
      rest.take (min len BUF_SIZE) :: deframe (rest.drop (min len BUF_SIZE))
    else []
  | _ => []
termination_by s => s.length

theorem deframe_nil : deframe [] = [] := by
  rw [deframe]
  exact nofun

theorem deframe_frame {a b : Char} {n : Nat} (hn : toUint16 [a, b] = n) (h0 : n ≠ 0) {payload : Str}
    (h : payload.length = min n BUF_SIZE) (rest : Str) :
    deframe (a :: b :: (payload ++ rest)) = payload :: deframe rest := by
  rw [deframe]
  simp only [hn]
  rw [if_neg h0, if_pos (by rw [List.length_append]; omega), ← h, List.take_left, List.drop_left]

theorem deframe_empty {a b : Char} (h : toUint16 [a, b] = 0) (rest : Str) : deframe (a :: b :: rest) = deframe rest := by
  rw [deframe]
  simp only [h, if_true]

theorem deframe_short {a b : Char} {n : Nat} (hn : toUint16 [a, b] = n) {rest : Str} (h : rest.length < min n BUF_SIZE) :
    deframe (a :: b :: rest) = [] := by
  rw [deframe]
  simp only [hn]
  rw [if_neg (by omega), if_neg (by omega)]

theorem deframe_append (s t : Str) : deframe s <+: deframe (s ++ t) := by
  induction s using deframe.induct with
  | case1 a b rest len h0 ih =>
    rw [List.cons_append, List.cons_append, deframe_empty h0, deframe_empty h0]
    exact ih
  | case2 a b rest len h0 hlen ih =>
    have htake : (rest.take (min len BUF_SIZE)).length = min len BUF_SIZE := List.length_take_of_le hlen
    rw [← List.take_append_drop (min len BUF_SIZE) rest, List.cons_append, List.cons_append, List.append_assoc,
      deframe_frame rfl h0 htake, deframe_frame rfl h0 htake]
    exact List.cons_prefix_cons.mpr ⟨rfl, ih⟩
  | case3 a b rest len h0 hlen =>
    rw [deframe_short rfl (by omega)]
    exact List.nil_prefix
  | case4 s hs =>
    rw [deframe]
    · exact List.nil_prefix
    · exact hs

/-- Whatever pieces the bytes come in, and wherever a call fails, the loop hands out messages of the
stream, and all of them if no call fails. -/
theorem framed_loop_spec {fuel : Nat} {s : Inflow Char} (hf : s.unread.length < fuel) :
    framed_loop fuel s <+: deframe s.unread ∧ (s.Calm → framed_loop fuel s = deframe s.unread) := by
  induction fuel generalizing s with
  | zero => omega
  | succ fuel ih =>
    rcases s.recvAll_spec 2 with ⟨hdr, t, hr, hreads, htake⟩ | ⟨hr, hcalm⟩
    swap
    · have hnil : framed_loop (fuel + 1) s = [] := by
        rcases hs : s.recvAll 2 with ⟨got, t⟩
        rw [hs] at hr
        obtain rfl : got = none := hr
        rw [framed_loop, hs]
      exact ⟨hnil ▸ List.nil_prefix, fun h => absurd h hcalm⟩
    · rw [framed_loop, hr]
      simp only
      rcases hu : s.unread with _ | ⟨a, _ | ⟨b, rest⟩⟩
      · rw [htake, hu, deframe]
        · simp
        · exact nofun
      · rw [htake, hu, deframe]
        · simp
        · exact nofun
      · obtain rfl : hdr = [a, b] := by rw [htake, hu]; rfl
        obtain rfl : rest = t.unread := by
          have := hreads.unread
          rw [hu] at this
          exact (List.cons.inj (List.cons.inj this).2).2
        rw [hu, List.length_cons, List.length_cons] at hf
        rw [if_neg (by simp)]
        by_cases h0 : toUint16 [a, b] = 0
        · rw [if_pos h0, deframe_empty h0]
          have := ih (s := t) (by omega)
          exact ⟨this.1, fun h => this.2 (hreads.calm h)⟩
        · have hlen : (if toUint16 [a, b] ≤ BUF_SIZE then toUint16 [a, b] else BUF_SIZE) =
              min (toUint16 [a, b]) BUF_SIZE := by
            rw [Nat.min_def]
          rw [if_neg h0, hlen]
          have hspec := Inflow.fill_spec [] (s := t) (Nat.zero_le (min (toUint16 [a, b]) BUF_SIZE))
            (Nat.lt_succ_self (min (toUint16 [a, b]) BUF_SIZE))
          rcases hspec with ⟨buf, u, hfill, hread, hbuf⟩ | ⟨hfill, hend⟩
          · rw [List.length_nil, Nat.zero_add] at hbuf
            have hu' := hread.unread
            rw [hfill, hu', List.nil_append, deframe_frame rfl h0 hbuf]
            have := ih (s := u) (by rw [hu', List.length_append] at hf; omega)
            refine ⟨List.cons_prefix_cons.mpr ⟨rfl, this.1⟩, fun h => ?_⟩
            exact congrArg (buf :: ·) (this.2 (hread.calm (hreads.calm h)))
          · rcases hf' : Inflow.fill (min (toUint16 [a, b]) BUF_SIZE + 1) (min (toUint16 [a, b]) BUF_SIZE) [] t
              with ⟨got, u⟩
            rw [hf'] at hfill
            obtain rfl : got = none := hfill
            refine ⟨List.nil_prefix, fun h => (deframe_short rfl ?_).symm⟩
            have := hend (hreads.calm h)
            rw [List.length_nil] at this
            omega

/-! ## Round trips -/

def payloads (ms : List Message) : List Str := (ms.map (·.data)).filter (· ≠ [])

theorem payloads_cons (m : Message) (ms : List Message) :
    payloads (m :: ms) = if m.data = [] then payloads ms else m.data :: payloads ms := by
  by_cases h : m.data = []
  · simp [payloads, h]
  · simp [payloads, h]

theorem wires_cons (mode : Mode) (m : Message) (ms : List Message) : wires mode (m :: ms) = m.wire mode ++ wires mode ms :=
  List.flatMap_cons

theorem deframe_wire (m : Message) (rest : Str) :
    deframe (m.wire .framed ++ rest) =
      if m.data = [] then deframe rest else m.data.take BUF_SIZE :: deframe (m.data.drop BUF_SIZE ++ rest) := by
  have hn : toUint16 (ofUint16 m.data.length) = m.data.length := toUint16_take rfl m.short
  split
  · next h =>
    rw [h, List.length_nil] at hn
    rw [Message.wire, h]
    exact deframe_empty hn rest
  · next h =>
    have hlen : (m.data.take BUF_SIZE).length = min m.data.length BUF_SIZE := by
      rw [List.length_take, Nat.min_comm]
    rw [← deframe_frame hn (by rwa [ne_eq, List.length_eq_zero_iff]) hlen, ← List.append_assoc, List.take_append_drop]
    rfl

theorem deframe_wires {ms : List Message} (h : ∀ m ∈ ms, m.data.length ≤ BUF_SIZE) (rest : Str) :
    deframe (wires .framed ms ++ rest) = payloads ms ++ deframe rest := by
  induction ms with
  | nil => rfl
  | cons m ms ih =>
    have ih := ih fun n hn => h n (List.mem_cons_of_mem _ hn)
    have hm := h m List.mem_cons_self
    rw [wires_cons, List.append_assoc, deframe_wire, payloads_cons, List.take_of_length_le hm, List.drop_of_length_le hm,
      List.nil_append, ih]
    split <;> rfl

theorem deframe_wires_iff (ms : List Message) :
    deframe (wires .framed ms) = payloads ms ↔ ∀ m ∈ ms, m.data.length ≤ BUF_SIZE := by
  constructor
  · intro h
    induction ms with
    | nil => exact nofun
    | cons m ms ih =>
      rw [wires_cons, deframe_wire, payloads_cons] at h
      by_cases h0 : m.data = []
      · rw [if_pos h0, if_pos h0] at h
        exact List.forall_mem_cons.mpr ⟨by rw [h0]; exact Nat.zero_le _, ih h⟩
      · rw [if_neg h0, if_neg h0] at h
        obtain ⟨hhead, htail⟩ := List.cons.inj h
        have hfit : m.data.length ≤ BUF_SIZE := List.take_eq_self_iff _ |>.mp hhead
        rw [List.drop_of_length_le hfit, List.nil_append] at htail
        exact List.forall_mem_cons.mpr ⟨hfit, ih htail⟩
  · intro h
    have := deframe_wires h []
    rwa [List.append_nil, deframe_nil, List.append_nil] at this

/-- Used by the examples of whole sessions. -/
def hello : Message := ⟨"hello".toList, by decide⟩

/-- Two ends that frame alike understand each other, however the bytes are cut on the way, exactly when
no message is longer than the reader's buffer. Empty messages are not handed out. -/
theorem frames_arrive_iff {ms : List Message} {c c' : Outflow Char} {s : Inflow Char} (hnew : c.wire = [])
    (hsent : ∀ r ∈ Machine.answers (send .framed) ms (some c), r = true)
    (hc : Machine.final (send .framed) ms (some c) = some c') (hs : s.unread = c'.wire) (hcalm : s.Calm) :
    client_loop_framed s = payloads ms ↔ ∀ m ∈ ms, m.data.length ≤ BUF_SIZE := by
  obtain ⟨d, hd, hw⟩ := sends_wire .framed hsent
  obtain rfl : d = c' := Option.some.inj (hd.symm.trans hc)
  rw [client_loop_framed, (framed_loop_spec (Nat.lt_succ_self _)).2 hcalm, hs, hw, hnew, List.nil_append]
  exact deframe_wires_iff ms

theorem frames_arrive_one_by_one :
    client_loop_framed ⟨wires .framed [hello, ⟨[], by decide⟩, hello], [some 0, some 0, some 0, some 0]⟩ =
        payloads [hello, ⟨[], by decide⟩, hello] ↔
      ∀ m ∈ [hello, ⟨[], by decide⟩, hello], m.data.length ≤ BUF_SIZE :=
  frames_arrive_iff (c := {}) rfl (by decide) rfl rfl (by unfold Inflow.Calm; decide)

/-- The messages in front of the first failed send, then anything: a reader that is cut off anywhere, by the
end of the connection or a failing call, has those it got whole, in order and without a gap. -/
theorem frames_in_order {pre post : List Message} {c c' : Outflow Char} {s : Inflow Char} (hnew : c.wire = [])
    (hsent : ∀ r ∈ Machine.answers (send .framed) pre (some c), r = true)
    (hfit : ∀ m ∈ pre, m.data.length ≤ BUF_SIZE)
    (hc : Machine.final (send .framed) (pre ++ post) (some c) = some c') (hs : s.unread <+: c'.wire) :
    (client_loop_framed s).take (payloads pre).length <+: payloads pre ∧
      (s.Calm → wires .framed pre <+: s.unread → payloads pre <+: client_loop_framed s) := by
  obtain ⟨d, hd, hw⟩ := sends_wire .framed hsent
  obtain ⟨e, he, rest, hrest⟩ := sends_extend .framed post d
  rw [Machine.final_append, hd] at hc
  obtain rfl : e = c' := Option.some.inj (he.symm.trans hc)
  rw [hnew, List.nil_append] at hw
  have hloop := framed_loop_spec (Nat.lt_succ_self s.unread.length)
  constructor
  · obtain ⟨more, hmore⟩ := hs
    have hall : client_loop_framed s <+: payloads pre ++ deframe rest := by
      rw [← deframe_wires hfit, ← hw, hrest, ← hmore]
      exact hloop.1.trans (deframe_append _ _)
    have := hall.take (payloads pre).length
    rwa [List.take_left] at this
  · rintro hcalm ⟨more, hmore⟩
    rw [client_loop_framed, hloop.2 hcalm, ← hmore, deframe_wires hfit]
    exact List.prefix_append _ _

/-- The second payload stops after three bytes, of which two arrive. -/
theorem frames_before_failure :
    let s : Inflow Char := ⟨wires .framed [hello] ++ (ofUint16 5 ++ ['h', 'e']), [some 0, some 2, some 0]⟩
    (client_loop_framed s).take 1 <+: payloads [hello] ∧ payloads [hello] <+: client_loop_framed s := by
  intro s
  let c : Outflow Char := { takes := [some 2, some 5, some 2, some 3] }
  have hsent : ∀ r ∈ Machine.answers (send .framed) [hello] (some c), r = true := by decide
  have hfit : ∀ m ∈ [hello], m.data.length ≤ BUF_SIZE := by decide
  have hfinal : Machine.final (send .framed) ([hello] ++ [hello]) (some c) =
      some { takes := [], wire := wires .framed [hello] ++ (ofUint16 5 ++ ['h', 'e', 'l']) } := rfl
  have h := frames_in_order (s := s) rfl hsent hfit hfinal ⟨['l'], rfl⟩
  exact ⟨h.1, h.2 (by unfold Inflow.Calm; decide) (List.prefix_append _ _)⟩

/-! ## Lines -/

/-- Whatever pieces the bytes come in, the loop hands out the lines that a line feed ends, up to a call
that fails. -/
theorem line_loop_spec {fuel : Nat} (line : Str) {s : Inflow Char} (hl : '\n' ∉ line) (hf : s.unread.length < fuel) :
    line_loop fuel line s <+: (lfLines (line ++ s.unread)).filterMap on_line ∧
      (s.Calm → line_loop fuel line s = (lfLines (line ++ s.unread)).filterMap on_line) := by
  induction fuel generalizing line s with
  | zero => omega
  | succ fuel ih =>
    rcases s.recv_spec (Nat.one_pos) with ⟨got, t, hr, hreads, hlen, hnil⟩ | ⟨hr, hcalm⟩
    swap
    · have hnone : line_loop (fuel + 1) line s = [] := by
        rcases hs : s.recv 1 with ⟨got, t⟩
        rw [hs] at hr
        obtain rfl : got = none := hr
        rw [line_loop, hs]
      exact ⟨hnone ▸ List.nil_prefix, fun h => absurd h hcalm⟩
    · rw [line_loop, hr]
      match got, hlen with
      | [], _ =>
        rw [hnil rfl, List.append_nil, lfLines_eq_nil.mpr hl]
        exact ⟨List.prefix_refl _, fun _ => rfl⟩
      | [ch], _ =>
        have hu : s.unread = ch :: t.unread := hreads.unread
        rw [hu, List.length_cons] at hf
        simp only
        rw [hu]
        split
        · next hch =>
          obtain ⟨hpre, heq⟩ := ih [] (s := t) (List.not_mem_nil) (by omega)
          rw [hch, lfLines_line hl, List.filterMap_cons]
          rw [List.nil_append] at hpre heq
          rcases on_line line with _ | m
          · exact ⟨hpre, fun h => heq (hreads.calm h)⟩
          · exact ⟨List.cons_prefix_cons.mpr ⟨rfl, hpre⟩, fun h => congrArg (m :: ·) (heq (hreads.calm h))⟩
        · next hch =>
          have hl' : '\n' ∉ line ++ [ch] := by simp [hl, Ne.symm hch]
          obtain ⟨hpre, heq⟩ := ih (line ++ [ch]) (s := t) hl' (by omega)
          rw [List.append_assoc, List.singleton_append] at hpre heq
          exact ⟨hpre, fun h => heq (hreads.calm h)⟩

theorem popReturn_begins (l : Str) : popReturn l <+: l := by
  rw [popReturn]
  split
  · exact List.dropLast_prefix l
  · exact List.prefix_refl l

theorem popReturn_eq_self_iff {l : Str} : popReturn l = l ↔ l.getLast? ≠ some '\r' := by
  rw [popReturn]
  split
  · next hr =>
    refine ⟨fun h => ?_, fun h => absurd hr h⟩
    have hlen := congrArg List.length h
    have hpos : l ≠ [] := by
      rintro rfl
      cases hr
    rw [List.length_dropLast] at hlen
    have := List.length_pos_iff.mpr hpos
    omega
  · next hr => exact ⟨fun _ => hr, fun _ => rfl⟩

theorem on_line_begins {l m : Str} (h : on_line l = some m) : m <+: popReturn l := by
  rw [on_line] at h
  split at h
  · cases h
  · rw [← Option.some.inj h]
    exact List.take_prefix _ _

theorem on_line_eq_self_iff {m : Str} (h : m.length < 2 ^ 16) :
    on_line m = some m ↔ m ≠ [] ∧ m.getLast? ≠ some '\r' := by
  constructor
  · intro hm
    have hpop : popReturn m = m :=
      (popReturn_begins m).eq_of_length_le (on_line_begins hm).length_le
    refine ⟨?_, popReturn_eq_self_iff.mp hpop⟩
    rintro rfl
    rw [on_line, hpop, if_pos rfl] at hm
    cases hm
  · rintro ⟨h0, hr⟩
    rw [on_line, popReturn_eq_self_iff.mpr hr, if_neg h0, Nat.mod_eq_of_lt h, List.take_length]

theorem eq_self_of_filterMap {f : Str → Option Str} {l : List Str} (hl : l.filterMap f = l) : ∀ m ∈ l, f m = some m := by
  induction l with
  | nil => exact nofun
  | cons a l ih =>
    rw [List.filterMap_cons] at hl
    split at hl
    · have hle := List.length_filterMap_le f l
      rw [hl, List.length_cons] at hle
      omega
    · next b hb =>
      obtain ⟨rfl, htail⟩ := List.cons.inj hl
      exact List.forall_mem_cons.mpr ⟨hb, ih htail⟩

theorem not_mem_of_mem_lfLines {s l : Str} (h : l ∈ lfLines s) : '\n' ∉ l := by
  induction s generalizing l with
  | nil => cases h
  | cons c s ih =>
    rw [lfLines] at h
    split at h
    · rcases List.mem_cons.mp h with rfl | h
      · exact List.not_mem_nil
      · exact ih h
    · next hc =>
      rcases hs : lfLines s with _ | ⟨k, ks⟩
      · rw [hs] at h
        cases h
      · rw [hs] at h ih
        rcases List.mem_cons.mp h with rfl | h
        · simp [Ne.symm hc, ih List.mem_cons_self]
        · exact ih (List.mem_cons_of_mem _ h)

theorem lfLines_wires {ms : List Message} (h : ∀ m ∈ ms, '\n' ∉ m.data) : lfLines (wires .line ms) = ms.map (·.data) := by
  induction ms with
  | nil => rfl
  | cons m ms ih =>
    rw [wires_cons, Message.wire, List.append_assoc, List.singleton_append, lfLines_line (h m List.mem_cons_self),
      ih fun n hn => h n (List.mem_cons_of_mem _ hn)]
    rfl

theorem lines_of_wires_iff (ms : List Message) :
    (lfLines (wires .line ms)).filterMap on_line = ms.map (·.data) ↔
      ∀ m ∈ ms, m.data ≠ [] ∧ '\n' ∉ m.data ∧ m.data.getLast? ≠ some '\r' := by
  constructor
  · intro h
    have hn : ∀ m ∈ ms, '\n' ∉ m.data := by
      intro m hm
      have hmem : m.data ∈ ms.map (·.data) := List.mem_map_of_mem hm
      rw [← h, List.mem_filterMap] at hmem
      obtain ⟨l, hl, hline⟩ := hmem
      exact fun hc => not_mem_of_mem_lfLines hl (((on_line_begins hline).trans (popReturn_begins l)).subset hc)
    rw [lfLines_wires hn] at h
    intro m hm
    have hself := eq_self_of_filterMap h m.data (List.mem_map_of_mem hm)
    have := (on_line_eq_self_iff m.short).mp hself
    exact ⟨this.1, hn m hm, this.2⟩
  · intro h
    have hself : ∀ m ∈ ms, on_line m.data = some m.data := fun m hm =>
      (on_line_eq_self_iff m.short).mpr ⟨(h m hm).1, (h m hm).2.2⟩
    rw [lfLines_wires fun m hm => (h m hm).2.1, List.filterMap_map]
    exact (List.filterMap_congr hself).trans (congrFun List.filterMap_eq_map' ms)

/-- Messages come back from the line format as they were sent exactly when none of them is empty, holds a
line feed or ends in a carriage return. -/
theorem lines_arrive_iff {ms : List Message} {c c' : Outflow Char} {s : Inflow Char} (hnew : c.wire = [])
    (hsent : ∀ r ∈ Machine.answers (send .line) ms (some c), r = true)
    (hc : Machine.final (send .line) ms (some c) = some c') (hs : s.unread = c'.wire) (hcalm : s.Calm) :
    client_loop_line s = ms.map (·.data) ↔
      ∀ m ∈ ms, m.data ≠ [] ∧ '\n' ∉ m.data ∧ m.data.getLast? ≠ some '\r' := by
  obtain ⟨d, hd, hw⟩ := sends_wire .line hsent
  obtain rfl : d = c' := Option.some.inj (hd.symm.trans hc)
  have hloop := (line_loop_spec [] List.not_mem_nil (Nat.lt_succ_self s.unread.length)).2 hcalm
  rw [client_loop_line, hloop, List.nil_append, hs, hw, hnew, List.nil_append]
  exact lines_of_wires_iff ms

theorem lines_arrive_twice :
    client_loop_line ⟨wires .line [hello, hello], [some 3, some 0]⟩ = [hello, hello].map (·.data) ↔
      ∀ m ∈ [hello, hello], m.data ≠ [] ∧ '\n' ∉ m.data ∧ m.data.getLast? ≠ some '\r' :=
  lines_arrive_iff (c := {}) rfl (by decide) rfl rfl (by unfold Inflow.Calm; decide)

end LteModem.IpcServer
