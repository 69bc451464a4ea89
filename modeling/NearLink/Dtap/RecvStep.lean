import NearLink.Dtap.ChannelRun
import NearLink.Dtap.RecvWindow

/-!
# What the receiving functions can do

Handing a frame on may rewrite the frame's buffer and payload, but neither its
number nor its type, and leaves the receive window to the loop around it.  The
loop hands over frames until the gap or until the upper layer pushes back.
-/

namespace NearLink.Dtap

open Sdf List

def Trimmed (old new : Frame) : Prop :=
  ∃ buff payload, new = { old with buff := buff, payload := payload }

variable (env : Env) (frags : Option Bytes) (frame : Frame) (info : DataInfo)

theorem Trimmed.refl : Trimmed frame frame :=
  ⟨frame.buff, frame.payload, rfl⟩

variable {old new : Frame}

theorem Trimmed.txSeq_eq (trimmed : Trimmed old new) :
    new.txSeq = old.txSeq := by
  obtain ⟨buff, payload, rfl⟩ := trimmed
  rfl

theorem Trimmed.frameType_eq (trimmed : Trimmed old new) :
    new.frameType = old.frameType := by
  obtain ⟨buff, payload, rfl⟩ := trimmed
  rfl

theorem recvAggregateLoop_trimmed (recvCb : RecvCb) (info : DataInfo)
    (bound : Nat) (frame : Frame) (rest : Bytes) (host : Host) :
    Trimmed frame
      (recvAggregateLoop env recvCb info bound frame rest host).2.1 := by
  induction bound generalizing rest host with
  | zero => exact .refl frame
  | succ bound induction =>
    unfold recvAggregateLoop
    dsimp only
    split
    · exact .refl frame
    · split
      · exact .refl frame
      · split
        · exact .refl frame
        · split
          · exact ⟨frame.buff, _, rfl⟩
          · split
            · exact induction _ _
            · exact .refl frame

section

variable (recvCb : Option RecvCb) (host : Host)

theorem recvAggregateFrame_trimmed :
    Trimmed frame (recvAggregateFrame env frame info recvCb host).2.1 := by
  unfold recvAggregateFrame
  split
  · exact .refl frame
  · split
    · exact .refl frame
    · exact recvAggregateLoop_trimmed env _ info _ frame _ host

theorem recvFragmentFrame_trimmed :
    Trimmed frame
      (recvFragmentFrame env frags frame info recvCb host).2.2.1 := by
  unfold recvFragmentFrame
  split
  · exact .refl frame
  · split
    all_goals exact ⟨_, frame.payload, rfl⟩

end

def NeverFull (recvCb : Option RecvCb) : Prop :=
  ∀ callback, recvCb = some callback →
    ∀ calls info sdu, callback calls info sdu ≠ .full

theorem NeverFull.recv {callback : RecvCb} (takes : NeverFull (some callback))
    (host : Host) (info : DataInfo) (sdu : Bytes) : (host.recv callback info sdu).1 = .taken := by
  have answer := takes callback rfl host.up.length info sdu
  cases equality : callback host.up.length info sdu with
  | taken => exact equality
  | full => exact absurd equality answer

variable {recvCb : Option RecvCb}

theorem recvAggregateFrame_taken (takes : NeverFull recvCb) (host : Host) :
    (recvAggregateFrame env frame info recvCb host).1 ≠
      .transReliableTransChannelFull := by
  unfold recvAggregateFrame
  split
  · simp
  next callback =>
    split
    · simp
    · generalize frame.payload.length = bound
      generalize frame.payload = rest
      induction bound generalizing rest host with
      | zero => simp [recvAggregateLoop]
      | succ bound induction =>
        unfold recvAggregateLoop
        dsimp only
        split
        · simp
        · split
          · simp
          · split
            · simp
            · split
              next equality =>
                have taken := takes.recv (host.skip 1) info
                  (List.take (wordAt rest 0) (List.drop 2 rest))
                rw [equality] at taken
                cases taken
              · split
                · exact induction _ _
                · simp

theorem updateFragmentFrame_notFull (buffs buff : Bytes) (host : Host) :
    (updateFragmentFrame env buffs buff host).1 ≠
      .transReliableTransChannelFull := by
  unfold updateFragmentFrame
  split
  · simp
  · split <;> simp

theorem recvFragmentPayload_taken (sar : Sar) (payload : Bytes)
    (info : DataInfo) (takes : NeverFull recvCb) (host : Host) :
    (recvFragmentPayload env frags sar payload info recvCb host).1 ≠
      .transReliableTransChannelFull := by
  cases sar with
  | unseg =>
    unfold recvFragmentPayload
    dsimp only
    split
    · simp
    next callback =>
      split
      next equality =>
        have taken := takes.recv host info payload
        rw [equality] at taken
        cases taken
      · simp
  | first =>
    unfold recvFragmentPayload
    dsimp only
    split <;> split <;> simp
  | mid =>
    unfold recvFragmentPayload
    dsimp only
    split
    · simp
    · exact updateFragmentFrame_notFull env _ _ _
  | last =>
    unfold recvFragmentPayload
    dsimp only
    split
    · simp
    next collected =>
      have updated := updateFragmentFrame_notFull env collected payload host
      split
      next equality =>
        rw [equality] at updated
        exact updated
      next equality =>
        rw [equality] at updated
        exact updated
      next sdu later callback equality =>
        rw [equality] at updated
        split
        next answer =>
          have taken := takes.recv later info sdu
          rw [answer] at taken
          cases taken
        · exact updated

theorem recvFragmentFrame_taken (takes : NeverFull recvCb) (host : Host) :
    (recvFragmentFrame env frags frame info recvCb host).1 ≠
      .transReliableTransChannelFull := by
  unfold recvFragmentFrame
  split
  · simp
  · split
    · simp
    · exact recvFragmentPayload_taken env _ _ _ _ takes _

def Frame.IsData (frame : Frame) : Prop :=
  frame.frameType ≠ .basic ∧ frame.frameType ≠ .ack

instance (frame : Frame) : Decidable frame.IsData :=
  inferInstanceAs (Decidable (_ ∧ _))

theorem Trimmed.isData (trimmed : Trimmed old new) (data : old.IsData) :
    new.IsData := by
  unfold Frame.IsData
  rw [trimmed.frameType_eq]
  exact data

namespace Channel

variable {env : Env} {channel : Channel} (recvCb : Option RecvCb)

theorem recvFirstFrame_trimmed (frame : Frame) :
    Trimmed frame (channel.recvFirstFrame env recvCb frame).2.1 := by
  unfold recvFirstFrame
  split
  any_goals exact recvFragmentFrame_trimmed env _ frame _ recvCb _
  any_goals exact recvAggregateFrame_trimmed env frame _ recvCb _
  all_goals exact .refl frame

theorem recvFirstFrame_receiver {frame : Frame} (data : frame.IsData) :
    ∃ frags up, (channel.recvFirstFrame env recvCb frame).2.2.receiver =
        (channel.conf, { channel.rxSide with
          frags := frags
          up := up
          handed := channel.handed ++ [frame.txSeq] }) := by
  have aggregate := recvAggregateFrame_trimmed env frame
    { pi := frame.pi, lcid := channel.conf.lcid, tcid := channel.conf.dstTcid }
    recvCb channel.host
  have fragment := recvFragmentFrame_trimmed env channel.frags frame
    { pi := frame.pi, lcid := channel.conf.lcid, tcid := channel.conf.dstTcid }
    recvCb channel.host
  unfold recvFirstFrame
  split
  any_goals
    rw [← aggregate.txSeq_eq]
    exact ⟨_, _, rfl⟩
  · rw [← fragment.txSeq_eq]
    exact ⟨_, _, rfl⟩
  · rw [← fragment.txSeq_eq]
    exact ⟨_, _, rfl⟩
  next basic =>
    exact absurd basic data.1
  next ack =>
    exact absurd ack data.2

theorem recvFirstFrame_taken {recvCb : Option RecvCb}
    (takes : NeverFull recvCb) (frame : Frame) :
    (channel.recvFirstFrame env recvCb frame).1 ≠
      .transReliableTransChannelFull := by
  unfold recvFirstFrame
  split
  any_goals exact recvFragmentFrame_taken env _ frame _ takes _
  any_goals exact recvAggregateFrame_taken env frame _ takes _
  · simp
  · simp

/-- How far the receiving loop gets: to the gap, or to the frame for which the
upper layer pushes back. -/
inductive Handed (buffered expected reached : Nat) (old new : Channel) :
    Prop where
  | all (reach : reached = expected)
      (full : new.isRxWindowFull = old.isRxWindowFull)
      (handed : new.handed = old.handed ++
        (List.range' buffered (expected - buffered)).map seqOf)
  | stopped (before : reached < expected) (full : new.isRxWindowFull = true)

/-- A window after the loop: the frames before `reached` are gone. -/
structure Drained (content : Nat → Frame → Prop)
    (buffered expected highest : Nat) (positions : List Nat)
    (old new : Channel) (reached : Nat) (remaining : List Nat) : Prop where
  passed : buffered ≤ reached
  window : RecvWindow content reached expected highest remaining new.rxWindow
  mem_iff : ∀ position, position ∈ remaining ↔
    position ∈ positions ∧ reached ≤ position
  handed : Handed buffered expected reached old new

/-- What a queue may promise about its frames: they are data frames, and
handing one on does not take the promise away. -/
structure QueueContent (content : Nat → Frame → Prop) : Prop where
  isData : ∀ position frame, content position frame → frame.IsData
  trimmed : ∀ position old new, Trimmed old new → content position old →
    content position new

section Loop

variable {content : Nat → Frame → Prop} {buffered expected highest : Nat}
  {positions : List Nat} {result : Channel}

theorem Drained.idle (due : buffered = expected)
    (window : RecvWindow content buffered expected highest positions
      result.rxWindow) (full : result.isRxWindowFull = channel.isRxWindowFull)
    (handed : result.handed = channel.handed) :
    Drained content buffered expected highest positions channel result
      buffered positions := by
  refine ⟨le_rfl, window, fun position => ?_, .all due full ?_⟩
  · exact ⟨fun member => ⟨member, (window.range position member).1⟩,
      fun both => both.1⟩
  · rw [handed, due, Nat.sub_self]
    exact (append_nil _).symm

theorem Drained.stop (due : buffered < expected)
    (window : RecvWindow content buffered expected highest positions
      result.rxWindow) (full : result.isRxWindowFull = true) :
    Drained content buffered expected highest positions channel result
      buffered positions := by
  refine ⟨le_rfl, window, fun position => ?_, .stopped due full⟩
  exact ⟨fun member => ⟨member, (window.range position member).1⟩,
    fun both => both.1⟩

theorem Drained.next {middle : Channel} {later remaining : List Nat}
    {reached : Nat} (due : buffered < expected)
    (full : middle.isRxWindowFull = channel.isRxWindowFull)
    (handed : middle.handed = channel.handed ++ [seqOf buffered])
    (drained : Drained content (buffered + 1) expected highest later middle
      result reached remaining) :
    Drained content buffered expected highest (buffered :: later) channel
      result reached remaining := by
  have passed := drained.passed
  refine ⟨by omega, drained.window, fun position => ?_, ?_⟩
  · rw [drained.mem_iff, mem_cons]
    constructor
    · exact fun both => ⟨.inr both.1, both.2⟩
    · rintro ⟨rfl | member, above⟩
      · omega
      · exact ⟨member, above⟩
  · cases drained.handed with
    | all reach laterFull laterHanded =>
      have count : expected - buffered =
          expected - (buffered + 1) + 1 := by omega
      refine .all reach (laterFull.trans full) (laterHanded.trans ?_)
      rw [handed, count, range'_succ, map_cons, append_assoc]
      rfl
    | stopped before laterFull => exact .stopped before laterFull

theorem recvQueuedFrames_drained (env : Env) (recvCb : Option RecvCb)
    (stable : QueueContent content) {frames : List Frame}
    (shape : RecvWindow content buffered expected highest positions
      { channel.rxWindow with rxList := frames }) :
    ∃ reached remaining,
      Drained content buffered expected highest positions channel
        (recvQueuedFrames env recvCb frames channel) reached remaining ∧
      (NeverFull recvCb → reached = expected) := by
  induction frames generalizing channel buffered positions with
  | nil =>
    have reach := shape.empty_due rfl
    exact ⟨buffered, positions, .idle reach shape rfl rfl, fun _ => reach⟩
  | cons frame rest induction =>
    have due := shape.head_due rfl
    unfold recvQueuedFrames
    split
    next notDue =>
      have reach : buffered = expected :=
        Nat.le_antisymm shape.buffered_le
          (Nat.le_of_not_lt fun before => notDue (due.mpr before))
      exact ⟨buffered, positions, .idle reach shape rfl rfl, fun _ => reach⟩
    next atBuffer =>
      have number : frame.txSeq = channel.rxWindow.bufferSeq := by
        simpa using atBuffer
      have before := due.mp number
      have data : frame.IsData := by
        cases shape.queued with
        | cons head tail => exact stable.isData _ _ head.2
      obtain ⟨frags, up, receiver⟩ := @recvFirstFrame_receiver env
        channel recvCb _ data
      have trimmed := @recvFirstFrame_trimmed env channel recvCb frame
      have windows : (channel.recvFirstFrame env recvCb
          frame).2.2.rxWindow = channel.rxWindow :=
        congrArg (·.2.rxWindow) receiver
      dsimp only
      split
      next full =>
        refine ⟨buffered, positions, .stop before ?_ rfl,
          fun takes => absurd full (recvFirstFrame_taken takes frame)⟩
        change RecvWindow content buffered expected highest positions
          { (channel.recvFirstFrame env recvCb frame).2.2.rxWindow with
            rxList := (channel.recvFirstFrame env recvCb frame).2.1 ::
              rest }
        rw [windows]
        exact shape.replaceHead rfl trimmed.txSeq_eq
          fun position => stable.trimmed position frame _ trimmed
      · obtain ⟨later, rfl, popped⟩ := shape.pop rfl before
        rw [← windows] at popped
        obtain ⟨reached, remaining, drained, complete⟩ :=
          @induction ((channel.recvFirstFrame env recvCb
            frame).2.2.advanceBufferSeq) _ _ popped
        refine ⟨reached, remaining, drained.next before ?_ ?_, complete⟩
        · exact congrArg (·.2.isRxWindowFull) receiver
        · rw [← shape.bufferSeq_eq]
          refine Eq.trans (congrArg (·.2.handed) receiver) ?_
          exact congrArg (fun seq => channel.handed ++ [seq]) number

end Loop

end Channel

end NearLink.Dtap
