import LteModem.Hal.EventFlags
import LteModem.Hal.MessageChannel
import LteModem.Lib.Monitor
import LteModem.NetworkLte.Trace

/-!
# Calls that wait (`hal/posix_event_flags.cpp`, `hal/posix_message_channel.cpp`, `hal/trace_mutex.h`)

The network thread, the thread of the RPC server and the loggers call the same objects, some with a timeout. A
`wait_for` asks its predicate before it sleeps, after it was woken and when its time is up.
-/

open Strings Machine Monitor

namespace LteModem.Blocking

variable {τ : Type} [DecidableEq τ]

/-! ## Event flags -/

/-- `set` notifies when it has left the mutex. -/
def flagsObject : Object FlagsOp Flags (Option Flags) Unit where
  ready
    | .wait flags _, flags_ => flags_ &&& flags ≠ 0
    | _, _ => true
  act := PosixEventFlags
  busy _ := some 0
  late _ := some 0
  on
    | .wait _ _ => some ()
    | _ => none
  inside _ := .none
  outside
    | .set _ => .all ()
    | _ => .none

theorem flags_exec (c : Request FlagsOp) (flags_ : Flags) :
    flagsObject.exec c flags_ = PosixEventFlags c.call flags_ := by
  obtain ⟨call, waits⟩ := c
  cases call with
  | wait flags fClear =>
    by_cases h : flags_ &&& flags = 0
    · simp [Object.exec, flagsObject, PosixEventFlags, h]
    · exact if_pos (decide_eq_true h)
  | set | clear | get => rfl

theorem and_not_and {flags_ flags : Flags} (h : flags_ &&& flags = 0) (cleared : Flags) :
    flags_ &&& ~~~cleared &&& flags = 0 := by
  rw [BitVec.and_assoc, BitVec.and_comm (~~~cleared), ← BitVec.and_assoc, h]
  exact BitVec.zero_and

theorem flags_broadcasts : flagsObject.Broadcasts () := by
  intro call call' flags_ hon _ hwas hready
  cases call' with
  | set | clear | get => cases hon
  | wait flags fClear =>
    have hwas : flags_ &&& flags = 0 := by simpa [flagsObject] using hwas
    have hready : (PosixEventFlags call flags_).2 &&& flags ≠ 0 := of_decide_eq_true hready
    cases call with
    | set => exact .inr rfl
    | clear cleared => exact absurd (and_not_and hwas cleared) hready
    | get => exact absurd hwas hready
    | wait waited clears =>
      unfold PosixEventFlags at hready
      dsimp only at hready
      split at hready
      · exact absurd hwas hready
      · split at hready
        · exact absurd (and_not_and hwas _) hready
        · exact absurd hwas hready

theorem final_flags (cs : List (Request FlagsOp)) (flags_ : Flags) :
    final flagsObject.exec cs flags_ = final PosixEventFlags (cs.map (·.call)) flags_ := by
  rw [final_map]
  induction cs generalizing flags_ with
  | nil => rfl
  | cons c cs ih => rw [final, final, flags_exec, ih]

/-- Whatever the threads do, each call returns what it would return if it ran alone at one moment of its own, so that
a `wait` gives 0 only where no flag of its mask was set. A thread sleeps with such a flag set only while a `set` is
in front of its `notify_all`. -/
theorem flags_waits {s : State τ FlagsOp (Option Flags) Flags} (h : Reachable flagsObject 0 s) :
    (∀ t c r before during after, s.trace = before ++ .called t c :: during ++ .returned t r :: after →
      (∀ c', .called t c' ∉ during) → ∃ d₁ d₂ q, during = d₁ ++ .ran q ⟨t, c, true⟩ r :: d₂ ∧
        r = (PosixEventFlags c.call (final PosixEventFlags ((ran (before ++ d₁)).map (·.call)) 0)).1) ∧
    ∀ t flags fClear, s.callers t = .asleep (.wait flags fClear) false → s.object &&& flags ≠ 0 →
      ∃ u new waits r, s.callers u = .acted ⟨.set new, waits⟩ r := by
  constructor
  · intro t c r before during after htrace hd
    obtain ⟨d₁, d₂, q, hsplit, hr⟩ := h.linearized htrace hd
    rw [flags_exec, final_flags] at hr
    exact ⟨d₁, d₂, q, hsplit, hr⟩
  · intro t flags fClear ht hset
    obtain ⟨u, ⟨call, waits⟩, r, hu, hall⟩ := h.announced flags_broadcasts t _ ⟨ht, rfl⟩ (decide_eq_true hset)
    cases call with
    | set new => exact ⟨u, new, waits, r, hu⟩
    | clear | get | wait => cases hall

def waitOne : Request FlagsOp := ⟨.wait 1 true, true⟩

def setOne : Request FlagsOp := ⟨.set 1, false⟩

def matched : Option Flags := some 1

/-- A thread sleeps while the flag that it waits for is set and not announced, and gets the flag afterwards. -/
theorem flags_waits_set :
    (∃ s : State Bool FlagsOp (Option Flags) Flags, s.callers false = .asleep (.wait 1 true) false ∧ s.object &&& 1 ≠ 0 ∧
      ∃ u new waits r, s.callers u = .acted ⟨.set new, waits⟩ r) ∧
    ∃ d₁ d₂ q, [.called true setOne, .ran false ⟨true, setOne, true⟩ none, .ran false ⟨false, waitOne, true⟩ matched] =
        d₁ ++ Mailbox.Event.ran q ⟨false, waitOne, true⟩ matched :: d₂ ∧
      matched = (PosixEventFlags waitOne.call (final PosixEventFlags ((ran ([] ++ d₁)).map (·.call)) 0)).1 := by
  have hcalled : Reachable flagsObject 0 _ := .single (.call false waitOne rfl)
  have hasleep := hcalled.tail (.sleep false (.wait 1 true) rfl rfl)
  have hsetting := hasleep.tail (.call true setOne rfl)
  have hset := hsetting.tail (.act true setOne _ rfl rfl .none)
  have hannounced := hset.tail (.signal true setOne _ _ rfl .all)
  have hwoken := hannounced.tail (.act false waitOne _ rfl rfl .none)
  have hleft := hwoken.tail (.signal false waitOne _ _ rfl .none)
  have hreturned := hleft.tail (.return false waitOne _ rfl)
  exact ⟨⟨_, rfl, by decide, (flags_waits hset).2 false 1 true rfl (by decide)⟩,
    (flags_waits hreturned).1 false waitOne matched [] _ [] rfl (by simp)⟩

/-! ## Message channels -/

inductive ChannelCv where
  | cvSend | cvReceive
deriving DecidableEq

/-- Both notifications come before the mutex is left. -/
def channelObject : Object ChannelOp PosixChannel ChannelAnswer ChannelCv where
  ready
    | .send span, c => badSpan span || c.count_ < c.capacity_
    | .receive, c => c.count_ ≠ 0
    | .count, _ => true
  act := PosixMessageChannel
  busy
    | .send _ => .sent .full
    | .receive => .received .empty none
    | .count => .counted 0  -- never: `count` is always ready
  late
    | .send _ => .sent .timeout
    | .receive => .received .timeout none
    | .count => .counted 0
  on
    | .send span => if badSpan span then none else some .cvReceive
    | .receive => some .cvSend
    | .count => none
  inside
    | .send span => if badSpan span then .none else .one .cvSend
    | .receive => .one .cvReceive
    | .count => .none
  outside _ := .none

/-- What a call returns that waited in vain. -/
def ChannelAnswer.late : ChannelAnswer → ChannelAnswer
  | .sent .full => .sent .timeout
  | .received .empty frame => .received .timeout frame
  | a => a

/-- The list of frames, for calls with and without a timeout. -/
def BlockingFifo (capacity : Nat) (c : Request ChannelOp) (frames : List Str) : ChannelAnswer × List Str :=
  let out := FrameFifo capacity c.call frames
  (if c.waits then ChannelAnswer.late out.1 else out.1, out.2)

theorem channel_exec (c : Request ChannelOp) (ch : PosixChannel) :
    channelObject.exec c ch =
      (if c.waits then ChannelAnswer.late (PosixMessageChannel c.call ch).1 else (PosixMessageChannel c.call ch).1,
        (PosixMessageChannel c.call ch).2) := by
  obtain ⟨call, waits⟩ := c
  cases call with
  | send span =>
    cases hbad : badSpan span
    · by_cases hfull : ch.capacity_ ≤ ch.count_
      · cases waits <;> simp [Object.exec, channelObject, PosixMessageChannel, ChannelAnswer.late, hbad, hfull]
      · cases waits <;> simp [Object.exec, channelObject, PosixMessageChannel, ChannelAnswer.late, hbad, hfull]
    · cases waits <;> simp [Object.exec, channelObject, PosixMessageChannel, ChannelAnswer.late, hbad]
  | receive =>
    by_cases hempty : ch.count_ = 0
    · cases waits <;> simp [Object.exec, channelObject, PosixMessageChannel, ChannelAnswer.late, hempty]
    · cases waits <;> simp [Object.exec, channelObject, PosixMessageChannel, ChannelAnswer.late, hempty]
  | count => cases waits <;> rfl

theorem channel_simulates {capacity : Nat} (hcap : capacity ≤ MAX_CAPACITY) :
    Simulates channelObject.exec (BlockingFifo capacity) (fun _ _ => True) (RingOf capacity) := by
  intro c ch frames _ h
  obtain ⟨ha, hnext⟩ := posix_channel_simulates hcap c.call ch frames trivial h
  rw [channel_exec, BlockingFifo, ha]
  exact ⟨rfl, hnext⟩

def newChannel (capacity : Nat) : PosixChannel := { capacity_ := channelCapacity capacity }

theorem newChannel_ring (capacity : Nat) : RingOf (channelCapacity capacity) (newChannel capacity) [] :=
  ⟨rfl, Nat.zero_lt_succ _, rfl, Nat.zero_le _, rfl⟩

/-- Whatever the threads do, each call answers as the bounded list does at one moment of its own: the frames come out
whole, once and in the order of these moments, and `timeout` means that there was no room or no frame at the end. -/
theorem channel_calls_linearized {capacity : Nat} {s : State τ ChannelOp ChannelAnswer PosixChannel}
    (h : Reachable channelObject (newChannel capacity) s) {t : τ} {c : Request ChannelOp} {r : ChannelAnswer}
    {before during after : List (Mailbox.Event τ (Request ChannelOp) ChannelAnswer)}
    (htrace : s.trace = before ++ .called t c :: during ++ .returned t r :: after) (hd : ∀ c', .called t c' ∉ during) :
    ∃ d₁ d₂ q, during = d₁ ++ .ran q ⟨t, c, true⟩ r :: d₂ ∧
      r = (BlockingFifo (channelCapacity capacity) c
        (final (BlockingFifo (channelCapacity capacity)) (ran (before ++ d₁)) [])).1 := by
  obtain ⟨d₁, d₂, q, hsplit, hr⟩ := h.linearized htrace hd
  have hsim := channel_simulates (channelCapacity_le capacity)
  have hok : Along (fun _ _ => True) channelObject.exec (ran (before ++ d₁)) (newChannel capacity) :=
    Along.of_forall (fun _ _ => trivial) _
  obtain ⟨-, hring⟩ := hsim.run hok (newChannel_ring capacity)
  exact ⟨d₁, d₂, q, hsplit, hr.trans (hsim c _ _ trivial hring).1⟩

/-- The reader sleeps before the frame is there. -/
theorem channel_calls_linearized_reader :
    let read : Request ChannelOp := ⟨.receive, true⟩
    let write : Request ChannelOp := ⟨.send (.bytes ['a']), false⟩
    let frame : ChannelAnswer := .received .ok (some (1, ['a']))
    ∃ d₁ d₂ q, [.called true write, .ran false ⟨true, write, true⟩ (.sent .ok),
        .ran false ⟨false, read, true⟩ frame] = d₁ ++ Mailbox.Event.ran q ⟨false, read, true⟩ frame :: d₂ ∧
      frame = (BlockingFifo (channelCapacity 1) read
        (final (BlockingFifo (channelCapacity 1)) (ran ([] ++ d₁)) [])).1 := by
  intro read write frame
  have hcalled : Reachable channelObject (newChannel 1) _ := .single (.call false read rfl)
  have hasleep := hcalled.tail (.sleep false .receive rfl rfl)
  have hsending := hasleep.tail (.call true write rfl)
  have hsent := hsending.tail (.act true write _ rfl rfl (.one false .receive rfl rfl))
  have hwoken := hsent.tail (.act false read _ rfl rfl (.nobody fun t call => by cases t <;> rintro ⟨⟩))
  have hleft := hwoken.tail (.signal false read _ _ rfl .none)
  have hreturned := hleft.tail (.return false read _ rfl)
  exact @channel_calls_linearized Bool _ 1 _ hreturned false read frame [] _ [] rfl (by simp)

theorem channel_counts_send : channelObject.Counts .cvSend (·.count_) where
  ready call ch hon := by
    cases call with
    | receive => simp [channelObject, Nat.pos_iff_ne_zero]
    | send span => cases hbad : badSpan span <;> simp [channelObject, hbad] at hon
    | count => cases hon
  take call ch hon hready := by
    cases call with
    | receive =>
      have hne : ch.count_ ≠ 0 := of_decide_eq_true hready
      simp only [channelObject, PosixMessageChannel, if_neg hne]
      omega
    | send span => cases hbad : badSpan span <;> simp [channelObject, hbad] at hon
    | count => cases hon
  give call ch hready := by
    cases call with
    | receive =>
      have hne : ch.count_ ≠ 0 := of_decide_eq_true hready
      simp only [channelObject, PosixMessageChannel, if_neg hne]
      exact .inl (Nat.sub_le _ _)
    | send span =>
      cases hbad : badSpan span
      · have hroom : ¬ ch.capacity_ ≤ ch.count_ := by simpa [channelObject, hbad] using hready
        simp [channelObject, PosixMessageChannel, hbad, hroom]
      · simp [channelObject, PosixMessageChannel, hbad]
    | count => exact .inl (Nat.le_refl _)

theorem channel_counts_receive : channelObject.Counts .cvReceive fun ch => ch.capacity_ - ch.count_ where
  ready call ch hon := by
    cases call with
    | receive | count => cases hon
    | send span =>
      cases hbad : badSpan span
      · simp only [channelObject, hbad, Bool.false_or, decide_eq_true_iff]
        omega
      · simp [channelObject, hbad] at hon
  take call ch hon hready := by
    cases call with
    | receive | count => cases hon
    | send span =>
      cases hbad : badSpan span
      · have hroom : ¬ ch.capacity_ ≤ ch.count_ := by simpa [channelObject, hbad] using hready
        simp only [channelObject, PosixMessageChannel, hbad, Bool.false_eq_true, if_false, if_neg hroom]
        omega
      · simp [channelObject, hbad] at hon
  give call ch hready := by
    cases call with
    | receive =>
      have hne : ch.count_ ≠ 0 := of_decide_eq_true hready
      simp only [channelObject, PosixMessageChannel, if_neg hne]
      exact .inr ⟨trivial, by omega⟩
    | send span =>
      cases hbad : badSpan span
      · have hroom : ¬ ch.capacity_ ≤ ch.count_ := by simpa [channelObject, hbad] using hready
        simp only [channelObject, PosixMessageChannel, hbad, Bool.false_eq_true, if_false, if_neg hroom]
        exact .inl (by omega)
      · simp [channelObject, PosixMessageChannel, hbad]
    | count => exact .inl (Nat.le_refl _)

/-- No notification is lost: while a receiver sleeps there is a woken one on its way for every frame, and while a
sender sleeps there is one for every free place. -/
theorem channel_wakes {ch : PosixChannel} {s : State τ ChannelOp ChannelAnswer PosixChannel}
    (h : Reachable channelObject ch s) :
    Covered channelObject .cvSend s.object.count_ s.callers ∧
      Covered channelObject .cvReceive (s.object.capacity_ - s.object.count_) s.callers :=
  ⟨h.covered channel_counts_send, h.covered channel_counts_receive⟩

/-- Two receivers sleep, and the frame that comes wakes one of them. -/
theorem channel_wakes_one : ∃ s : State Nat ChannelOp ChannelAnswer PosixChannel,
    s.object.count_ = 1 ∧ s.callers 1 = .asleep .receive false ∧
      Covered channelObject .cvSend s.object.count_ s.callers ∧
      Covered channelObject .cvReceive (s.object.capacity_ - s.object.count_) s.callers := by
  have hfirst : Reachable channelObject (newChannel 1) _ := .single (.call 0 ⟨.receive, true⟩ rfl)
  have hasleep := hfirst.tail (.sleep 0 .receive rfl rfl)
  have hsecond := (hasleep.tail (.call 1 ⟨.receive, true⟩ rfl)).tail (.sleep 1 .receive rfl rfl)
  have hsending := hsecond.tail (.call 2 ⟨.send (.bytes ['a']), false⟩ rfl)
  have hsent := hsending.tail (.act 2 ⟨.send (.bytes ['a']), false⟩ _ rfl rfl (.one 0 .receive rfl rfl))
  refine ⟨_, ?_, ?_, channel_wakes hsent⟩ <;> rfl

/-! ## The trace -/

open Latest NetworkLte.Trace

/-- `push_trace` and `pop_trace`. -/
def traceObject : Object (Latest.Op NetworkTraceEntry) TraceRing (Option NetworkTraceEntry) Unit where
  ready
    | .push _, _ => true
    | .pop, r => 0 < r.trace_count_
  act := TraceRing.step
  busy _ := none
  late _ := none
  on
    | .push _ => none
    | .pop => some ()
  inside
    | .push _ => .one ()
    | .pop => .none
  outside _ := .none

theorem trace_exec (c : Request (Latest.Op NetworkTraceEntry)) (r : TraceRing) :
    traceObject.exec c r = TraceRing.step c.call r := by
  obtain ⟨call, waits⟩ := c
  cases call with
  | push entry => rfl
  | pop =>
    by_cases hsome : 0 < r.trace_count_
    · exact if_pos (decide_eq_true hsome)
    · cases waits <;> simp [Object.exec, traceObject, TraceRing.step, TraceRing.pop_trace, hsome]

theorem trace_counts : traceObject.Counts () (·.trace_count_) where
  ready call r hon := by
    cases call with
    | push => cases hon
    | pop => exact decide_eq_true_iff
  take call r hon hready := by
    cases call with
    | push => cases hon
    | pop =>
      have hsome : 0 < r.trace_count_ := of_decide_eq_true hready
      simp only [traceObject, TraceRing.step, TraceRing.pop_trace, if_pos hsome]
      omega
  give call r hready := by
    cases call with
    | push entry =>
      refine .inr ⟨rfl, ?_⟩
      simp only [traceObject, TraceRing.step, TraceRing.push_trace]
      split <;> simp
    | pop =>
      have hsome : 0 < r.trace_count_ := of_decide_eq_true hready
      simp only [traceObject, TraceRing.step, TraceRing.pop_trace, if_pos hsome]
      exact .inl (Nat.sub_le _ _)

theorem trace_simulates :
    Simulates traceObject.exec (fun c l => Latest.step TRACE_CAPACITY c.call l) (fun _ _ => True) NetworkLte.Trace.Holds := by
  intro c r l _ h
  rw [trace_exec]
  exact ring_simulates c.call r l trivial h

/-- What the threads pushed, in the order in which they had the mutex. -/
def pushedEntries (s : State τ (Latest.Op NetworkTraceEntry) (Option NetworkTraceEntry) TraceRing) :
    List NetworkTraceEntry :=
  pushed ((ran s.trace).map (·.call))

/-- Whatever the network thread, the timer threads and the loggers do: what the loggers get are pushed entries in
their order, each at most once, the ring holds the latest ones of those behind, and while a logger sleeps there is a
woken one on its way for every entry. -/
theorem trace_logged {s : State τ (Latest.Op NetworkTraceEntry) (Option NetworkTraceEntry) TraceRing}
    (h : Reachable traceObject {} s) :
    ∃ taken : List Nat,
      let since := (pushedEntries s).length - past taken
      taken.Pairwise (· < ·) ∧ (∀ i ∈ taken, i < (pushedEntries s).length) ∧
        ((answered s.trace).filterMap id).map some = taken.map (fun i => (pushedEntries s)[i]?) ∧
        s.object.entries = (pushedEntries s).rtake (min TRACE_CAPACITY since) ∧
        Covered traceObject () s.object.trace_count_ s.callers := by
  obtain ⟨hanswers, hobject⟩ := h.exec
  have hnew : NetworkLte.Trace.Holds {} [] := ⟨by decide, by decide, rfl⟩
  have hok : Along (fun _ _ => True) traceObject.exec (ran s.trace) {} := Along.of_forall (fun _ _ => trivial) _
  obtain ⟨ha, hr⟩ := trace_simulates.run hok hnew
  rw [← hobject] at hr
  rw [← hanswers] at ha
  obtain ⟨taken, hk, ht⟩ := Latest.run (n := TRACE_CAPACITY) (by decide) ((ran s.trace).map (·.call))
  rw [answers_map, ← ha] at ht
  rw [final_map] at hk
  exact ⟨taken, hk.ordered, fun _ => hk.lt, ht, by rw [hr.entries]; exact hk.latest, h.covered trace_counts⟩

def booted : NetworkTraceEntry := { current_state := .idle_mode }

theorem trace_logged_first : ∃ s : State Nat (Latest.Op NetworkTraceEntry) (Option NetworkTraceEntry) TraceRing,
    pushedEntries s = [booted] ∧ answered s.trace = [none, some booted] ∧
    ∃ taken : List Nat,
      let since := (pushedEntries s).length - past taken
      taken.Pairwise (· < ·) ∧ (∀ i ∈ taken, i < (pushedEntries s).length) ∧
        ((answered s.trace).filterMap id).map some = taken.map (fun i => (pushedEntries s)[i]?) ∧
        s.object.entries = (pushedEntries s).rtake (min TRACE_CAPACITY since) ∧
        Covered traceObject () s.object.trace_count_ s.callers := by
  have hfirst : Reachable traceObject {} _ := .single (.call 0 ⟨.pop, true⟩ rfl)
  have hasleep := hfirst.tail (.sleep 0 .pop rfl rfl)
  have hsecond := (hasleep.tail (.call 1 ⟨.pop, true⟩ rfl)).tail (.sleep 1 .pop rfl rfl)
  have hpushing := hsecond.tail (.call 2 ⟨.push booted, false⟩ rfl)
  have hpushed := hpushing.tail (.act 2 ⟨.push booted, false⟩ _ rfl rfl (.one 1 .pop rfl rfl))
  have hpopped := hpushed.tail (.act 1 ⟨.pop, true⟩ _ rfl rfl .none)
  refine ⟨_, ?_, ?_, trace_logged hpopped⟩ <;> rfl

end LteModem.Blocking
