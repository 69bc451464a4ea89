import NearLink.Dtap.RecvInvariant
import Mathlib.Data.List.Perm.Subperm

/-!
# The bound of the receive queue

With an arbitrary upper layer the queue stays inside the receive window
exactly as long as no frame arrives in sequence at a window that is full to
its boundary: `DTAP_CheckEnhanceFrameTxSeq` accepts the frame expected next
before it looks at the boundary.
-/

namespace NearLink.Dtap.Channel

open Sdf

variable {env : Env} {registry : Registry} {channel : Channel} {event : Event}

/-- The queue fits the window, and every queued number lies in the `size`
numbers from `bufferSeq` on. -/
def InsideWindow (channel : Channel) : Prop :=
  channel.rxWindow.rxList.length ≤ channel.rxWindow.size ∧
    ∀ frame ∈ channel.rxWindow.rxList,
      (frame.txSeq + 2 ^ 14 - channel.rxWindow.bufferSeq) % 2 ^ 14 <
        channel.rxWindow.size

/-- No frame arrives in sequence while the frame expected next already lies
on the boundary of the window. -/
def KeepsBoundary (env : Env) (channel : Channel) (event : Event) : Prop :=
  ∀ received : ReceivedFrame, event = .recvFrame received →
    Arrives env channel received.frame →
    received.frame.txSeq = channel.rxWindow.expectedTxSeq →
    channel.rxWindow.expectedTxSeq ≠
      (channel.rxWindow.bufferSeq + channel.rxWindow.size) % 2 ^ 14

theorem ReceiverShape.insideWindow {content : Nat → Frame → Prop}
    {buffered expected highest : Nat} {positions : List Nat}
    (shape : ReceiverShape content buffered expected highest positions
      channel) : InsideWindow channel := by
  have upper := shape.window.highest_le
  constructor
  · rw [shape.window.queued.length_eq]
    have distinct : positions.Nodup :=
      shape.window.increasing.imp Nat.ne_of_lt
    have included : positions ⊆ List.range' buffered channel.rxWindow.size := by
      intro position member
      have place := shape.window.range position member
      exact List.mem_range'_1.mpr ⟨place.1, by omega⟩
    simpa using (List.subperm_of_subset distinct included).length_le
  · intro frame member
    have number : frame.txSeq ∈ positions.map seqOf := by
      rw [← shape.window.queued.map_txSeq]
      exact List.mem_map_of_mem member
    obtain ⟨position, inList, equality⟩ := List.mem_map.mp number
    have place := shape.window.range position inList
    rw [← equality, shape.window.bufferSeq_eq]
    unfold seqOf
    omega

/-- The invariant of a run whose queue stays inside the window. -/
def InShape (channel : Channel) : Prop :=
  ∃ buffered expected highest positions,
    ReceiverShape DataContent buffered expected highest positions channel

theorem checkedStep_shape (shape : InShape channel)
    (keeps : KeepsBoundary env channel event) :
    InShape (channel.checkedStep env registry event) := by
  obtain ⟨buffered, expected, highest, positions, shape⟩ := shape
  have moved := @checkedStep_receiverMove env registry channel event
  cases moved with
  | none unrelated same => exact ⟨_, _, _, _, shape.of_receiver same⟩
  | nack nackCnt same =>
    refine ⟨buffered, expected, highest, positions, ?_⟩
    have changed : ReceiverShape DataContent buffered expected highest
        positions { channel with nackCnt := nackCnt } :=
      ⟨shape.window, shape.waiting⟩
    exact changed.of_receiver same
  | @arrive received base _ arrives start result =>
    obtain ⟨position, number, absent, place⟩ :=
      arrives.position received.inRange shape
    have size : base.rxWindow.size = channel.rxWindow.size :=
      congrArg (·.2.rxWindow.size) start
    have inside : expected ≤ position ∧
        position < buffered + base.rxWindow.size := by
      have upper := shape.window.highest_le
      have middle := shape.window.expected_le
      rcases place with rfl | place
      · have boundary := keeps received rfl arrives
          (number.trans shape.window.expectedTxSeq_eq.symm)
        rw [shape.window.expectedTxSeq_eq, shape.window.bufferSeq_eq]
          at boundary
        have different : position ≠ buffered + channel.rxWindow.size :=
          fun same => boundary (by rw [same]; simp [seqOf])
        omega
      · omega
    obtain ⟨later, reached, remaining, after⟩ :=
      recvDataFrame_received env (registry.select received.frame.pi)
        queueContent_data (shape.of_receiver start) number arrives.1 absent inside.1 inside.2
    exact ⟨_, _, _, _, after.shape.of_receiver result⟩
  | resume result =>
    obtain ⟨reached, remaining, after, _, _⟩ :=
      recvEnhanceFrameInner_shape env registry.byTcid queueContent_data
        (show RecvWindow _ _ _ _ _
          { channel with isRxWindowFull := false }.rxWindow from
          shape.window)
    exact ⟨_, _, _, _, after⟩

theorem boundary_breaks (shape : InShape channel)
    (inside : InsideWindow (channel.checkedStep env registry event)) :
    KeepsBoundary env channel event := by
  obtain ⟨buffered, expected, highest, positions, shape⟩ := shape
  rintro received rfl arrives inSequence boundary
  have moved := @checkedStep_receiverMove env registry channel (.recvFrame received)
  cases moved with
  | none unrelated same => exact unrelated received rfl arrives
  | @arrive _ base _ _ start result =>
    have size := shape.window.size_pos
    have sizeLe := shape.window.size_le
    have upper := shape.window.highest_le
    have middle := shape.window.expected_le
    have lower := shape.window.buffered_le
    have atBoundary : expected = buffered + channel.rxWindow.size := by
      rw [shape.window.expectedTxSeq_eq, shape.window.bufferSeq_eq] at boundary
      unfold seqOf at boundary
      omega
    have full : channel.isRxWindowFull = true := by
      by_contra notFull
      have drained := shape.waiting (by simpa using notFull)
      omega
    -- The upper layer has pushed back, so the frame stays in the queue.
    have windows : base.rxWindow = channel.rxWindow :=
      congrArg (·.2.rxWindow) start
    have flags : base.isRxWindowFull = channel.isRxWindowFull :=
      congrArg (·.2.isRxWindowFull) start
    have stuck := recvDataFrame_full env
      (registry.select received.frame.pi) (flags.trans full) received.frame
    have window : (channel.checkedStep env registry
        (.recvFrame received)).rxWindow =
          queueRxFrame channel.rxWindow received.frame := by
      rw [← windows, ← stuck]
      exact congrArg (·.2.rxWindow) result
    have member : received.frame ∈ (channel.checkedStep env registry
        (.recvFrame received)).rxWindow.rxList := by
      rw [window]
      exact mem_insertBySeq_self _ _
    have bound := inside.2 received.frame member
    rw [window, inSequence, boundary] at bound
    change ((channel.rxWindow.bufferSeq + channel.rxWindow.size) % 2 ^ 14 +
      2 ^ 14 - channel.rxWindow.bufferSeq) % 2 ^ 14 <
        channel.rxWindow.size at bound
    have small := seqOf_lt buffered
    rw [← shape.window.bufferSeq_eq] at small
    omega

/-- The receive window bound: a run keeps its queue inside the window
throughout exactly when none of its steps lets a frame arrive in sequence at a
window that is full to its boundary. -/
theorem insideWindow_iff_keepsBoundary (env : Env) (registry : Registry)
    (conf : Conf) (window : UInt8) (events : List Event) :
    Transition.Always (checkedStep env registry) InsideWindow
        (reliableChannelCreate conf window) events ↔
      Transition.Meets (checkedStep env registry) (KeepsBoundary env)
        (reliableChannelCreate conf window) events := by
  have sound (channel : Channel) (shape : InShape channel) :
      InsideWindow channel := by
    obtain ⟨_, _, _, _, shape⟩ := shape
    exact shape.insideWindow
  exact Transition.always_iff_meets sound
    (fun _ _ shape keeps => checkedStep_shape shape keeps)
    (fun _ _ shape inside => boundary_breaks shape inside)
    ⟨_, _, _, _, reliableChannelCreate_receiverShape conf window⟩

/-- An upper layer that pushes back on its first call. -/
def fullOnce : Registry :=
  { byTcid := some fun calls _ _ => if calls = 0 then .full else .taken
    byProto := fun _ => none }

theorem insideWindow_fails :
    ¬Transition.Always (checkedStep plainEnv fullOnce) InsideWindow
      (reliableChannelCreate plainConf 1)
      [.recvFrame firstFrame, .recvFrame secondFrame] := by
  intro always
  have bound := always.at_end.1
  exact absurd bound (by decide +kernel)

end NearLink.Dtap.Channel
