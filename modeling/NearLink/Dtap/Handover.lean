import NearLink.Dtap.RecvStep
import NearLink.Dtap.Reassembly

/-!
# What handing on a frame means

`handOn` says what a queued frame contributes to the SDUs that the upper layer
takes, without callbacks, allocations and retries.  A frame that is handed on
without push-back contributes exactly that.
-/

namespace NearLink.Dtap

open Sdf List

def splitAggregate : Nat → Bytes → List Bytes
  | 0, _ => []
  | bound + 1, rest =>
    if rest.length < 2 then []
    else if wordAt rest 0 = 0 ∨ (rest.drop 2).length < wordAt rest 0 then []
    else
      (rest.drop 2).take (wordAt rest 0) ::
        splitAggregate bound ((rest.drop 2).drop (wordAt rest 0))

def aggregateSdus (payload : Bytes) : List Bytes :=
  splitAggregate payload.length payload

variable {bound : Nat} {host : Host} {sdu : Bytes}

theorem splitAggregate_succ {rest : Bytes} (long : ¬rest.length < 2)
    (whole : ¬(wordAt rest 0 = 0 ∨ (rest.drop 2).length < wordAt rest 0)) :
    splitAggregate (bound + 1) rest = (rest.drop 2).take (wordAt rest 0) ::
      splitAggregate bound ((rest.drop 2).drop (wordAt rest 0)) := by
  rw [splitAggregate, if_neg long, if_neg whole]

def Host.accepted (host : Host) : List Message :=
  host.delivered.map fun call => { pi := call.1.pi, data := call.2 }

theorem Host.accepted_recv {later : Host} {recvCb : RecvCb} {info : DataInfo}
    {answer : RecvAnswer} (call : host.recv recvCb info sdu = (answer, later)) :
    later.accepted = host.accepted ++
      (if answer = .taken then [⟨info.pi, sdu⟩] else []) := by
  cases call
  cases recvCb host.up.length info sdu <;> simp [accepted, delivered]

/-- What the frame contributes when the upper layer takes everything: the
fragments collected and the messages taken.  `present` tells whether there is
a callback. -/
def handOn (present : Bool) (state : Option Bytes × List Message)
    (frame : Frame) : Option Bytes × List Message :=
  match frame.frameType with
  | .simplexAggr | .duplexAggr =>
    if present then
      (state.1, state.2 ++
        (aggregateSdus frame.payload).map fun sdu => ⟨frame.pi, sdu⟩)
    else state
  | .simplexFrag | .duplexFrag =>
    match (frame.buff.trimPrefix (frame.headerLen +
        frame.extensionLen)).bind fun buff => buff.trimSuffix crcLen with
    | none => state
    | some buff =>
      let next := assembleStep state ⟨frame.pi, frame.sar, buff.data⟩
      if present then next else (next.1, state.2)
  | .basic | .ack => state

def sduMessages (pi : Nat) (sdus : List Bytes) : List Message :=
  sdus.map fun sdu => { pi := pi, data := sdu }

section Hand

variable {env : Env} {info : DataInfo} {frame : Frame}

theorem splitAggregate_nil (bound : Nat) : splitAggregate bound [] = [] := by
  cases bound with
  | zero | succ => rfl

section

variable (allocates : ∀ tick, env.alloc tick = true)
include allocates

theorem recvAggregateLoop_hands (recvCb : RecvCb) {bound : Nat} {rest : Bytes}
    (enough : rest.length ≤ bound) (host : Host)
    (notFull : (recvAggregateLoop env recvCb info bound frame rest host).1 ≠
      .transReliableTransChannelFull) :
    (recvAggregateLoop env recvCb info bound frame rest host).2.2.accepted =
      host.accepted ++ sduMessages info.pi (splitAggregate bound rest) := by
  induction bound generalizing rest host with
  | zero => exact (append_nil _).symm
  | succ bound induction =>
    unfold recvAggregateLoop at notFull ⊢
    by_cases short : rest.length < 2
    · rw [if_pos short, splitAggregate, if_pos short]
      exact (append_nil _).symm
    · by_cases broken : wordAt rest 0 = 0 ∨ (rest.drop 2).length < wordAt rest 0
      · rw [if_neg short, if_pos broken, splitAggregate, if_neg short,
          if_pos broken]
        exact (append_nil _).symm
      · rw [if_neg short, if_neg broken, allocates] at notFull ⊢
        simp only [Bool.not_true, Bool.false_eq_true, if_false] at notFull ⊢
        split at notFull
        next later call => exact absurd rfl notFull
        next later call =>
          have accepted : later.accepted = host.accepted ++
              [⟨info.pi, (rest.drop 2).take (wordAt rest 0)⟩] :=
            Host.accepted_recv call
          have left : ((rest.drop 2).drop (wordAt rest 0)).length ≤ bound := by
            simp only [length_drop]
            omega
          rw [splitAggregate_succ short broken]
          split at notFull
          next more =>
            rw [if_pos more, induction left later notFull, accepted,
              append_assoc]
            rfl
          next empty =>
            rw [if_neg empty, eq_nil_of_length_eq_zero
              (Nat.eq_zero_of_not_pos empty), splitAggregate_nil]
            exact accepted

theorem recvAggregateFrame_hands (recvCb : RecvCb) (frame : Frame)
    (host : Host) (notFull : (recvAggregateFrame env frame info (some recvCb)
      host).1 ≠ .transReliableTransChannelFull) :
    (recvAggregateFrame env frame info (some recvCb) host).2.2.accepted =
      host.accepted ++ sduMessages info.pi (aggregateSdus frame.payload) := by
  unfold recvAggregateFrame at notFull ⊢
  dsimp only at notFull ⊢
  split
  next empty =>
    unfold aggregateSdus
    rw [empty]
    exact (append_nil _).symm
  next whole =>
    rw [if_neg whole] at notFull
    exact recvAggregateLoop_hands allocates recvCb le_rfl host notFull

theorem recvFragmentPayload_hands (frags : Option Bytes) (sar : Sar)
    (piece : Bytes) (recvCb : Option RecvCb) (host : Host)
    (notFull : (recvFragmentPayload env frags sar piece info recvCb host).1 ≠
      .transReliableTransChannelFull) :
    let result := recvFragmentPayload env frags sar piece info recvCb host
    let next := assembleStep (frags, host.accepted) ⟨info.pi, sar, piece⟩
    (result.2.1, result.2.2.accepted) =
      if recvCb.isSome then next else (next.1, host.accepted) := by
  cases sar with
  | unseg =>
    cases recvCb with
    | none => rfl
    | some callback =>
      unfold recvFragmentPayload at notFull ⊢
      dsimp only at notFull ⊢
      split
      next call =>
        rw [call] at notFull
        exact absurd rfl notFull
      next later call =>
        rw [Host.accepted_recv call]
        rfl
  | first =>
    unfold recvFragmentPayload
    rw [allocates, if_pos rfl, assembleStep_first]
    cases recvCb <;> rfl
  | mid =>
    cases frags with
    | none => cases recvCb <;> rfl
    | some collected =>
      unfold recvFragmentPayload assembleStep
      dsimp only
      rw [updateFragmentFrame_allocated allocates]
      split <;> split <;> rfl
  | last =>
    cases frags with
    | none => cases recvCb <;> rfl
    | some collected =>
      unfold recvFragmentPayload at notFull ⊢
      unfold assembleStep
      dsimp only at notFull ⊢
      rw [updateFragmentFrame_allocated allocates] at notFull ⊢
      by_cases long :
          collected.length + piece.length > maxFragTotalLen
      · rw [if_pos long, if_pos long]
        cases recvCb <;> rfl
      · rw [if_neg long] at notFull
        rw [if_neg long, if_neg long]
        cases recvCb with
        | none => rfl
        | some callback =>
          dsimp only at notFull ⊢
          split
          next call =>
            rw [call] at notFull
            exact absurd rfl notFull
          next later call =>
            rw [Host.accepted_recv call]
            rfl

theorem recvFragmentFrame_hands (frags : Option Bytes)
    (fragment : frame.frameType = .simplexFrag ∨ frame.frameType = .duplexFrag)
    (pi : info.pi = frame.pi) (recvCb : Option RecvCb) (host : Host)
    (notFull : (recvFragmentFrame env frags frame info recvCb host).1 ≠
      .transReliableTransChannelFull) :
    let result := recvFragmentFrame env frags frame info recvCb host
    (result.2.1, result.2.2.2.accepted) =
      handOn recvCb.isSome (frags, host.accepted) frame := by
  have frag : handOn recvCb.isSome (frags, host.accepted) frame =
      match (frame.buff.trimPrefix (frame.headerLen +
          frame.extensionLen)).bind fun buff => buff.trimSuffix crcLen with
      | none => (frags, host.accepted)
      | some buff =>
        let next := assembleStep (frags, host.accepted)
          ⟨frame.pi, frame.sar, buff.data⟩
        if recvCb.isSome then next else (next.1, host.accepted) := by
    unfold handOn
    rcases fragment with simplex | duplex
    · rw [simplex]
    · rw [duplex]
  rw [frag]
  unfold recvFragmentFrame at notFull ⊢
  cases headless : frame.buff.trimPrefix
      (frame.headerLen + frame.extensionLen) with
  | none => rfl
  | some headless' =>
    rw [headless] at notFull
    dsimp only [Option.bind_some] at notFull ⊢
    cases payload : headless'.trimSuffix crcLen with
    | none => rfl
    | some buff =>
      rw [payload] at notFull
      have handed := @recvFragmentPayload_hands env info allocates frags
        frame.sar buff.data recvCb host notFull
      rw [pi] at handed
      exact handed

end

namespace Channel

variable {channel : Channel}

def taking (channel : Channel) : Option Bytes × List Message :=
  (channel.frags, channel.host.accepted)

section

variable (allocates : ∀ tick, env.alloc tick = true) (recvCb : Option RecvCb)
include allocates

theorem recvFirstFrame_hands
    (notFull : (channel.recvFirstFrame env recvCb frame).1 ≠
      .transReliableTransChannelFull) :
    (channel.recvFirstFrame env recvCb frame).2.2.taking =
      handOn recvCb.isSome channel.taking frame := by
  let info : DataInfo :=
    { pi := frame.pi, lcid := channel.conf.lcid, tcid := channel.conf.dstTcid }
  have aggregate (kind : frame.frameType = .simplexAggr ∨
      frame.frameType = .duplexAggr)
      (notFull : (recvAggregateFrame env frame info recvCb channel.host).1 ≠
        .transReliableTransChannelFull) :
      (channel.frags, (recvAggregateFrame env frame info recvCb
        channel.host).2.2.accepted) =
          handOn recvCb.isSome channel.taking frame := by
    have whole : handOn recvCb.isSome channel.taking frame =
        if recvCb.isSome then (channel.frags, channel.host.accepted ++
          sduMessages frame.pi (aggregateSdus frame.payload))
        else channel.taking := by
      unfold handOn
      rcases kind with simplex | duplex
      · rw [simplex]
        rfl
      · rw [duplex]
        rfl
    rw [whole]
    cases recvCb with
    | none => rfl
    | some callback =>
      exact congrArg (Prod.mk channel.frags)
        (recvAggregateFrame_hands allocates callback frame channel.host notFull)
  unfold recvFirstFrame at notFull ⊢
  split at notFull <;> rename_i kind
  · exact aggregate (.inl kind) notFull
  · exact aggregate (.inr kind) notFull
  · exact @recvFragmentFrame_hands env info frame allocates channel.frags
      (.inl kind) rfl recvCb channel.host notFull
  · exact @recvFragmentFrame_hands env info frame allocates channel.frags
      (.inr kind) rfl recvCb channel.host notFull
  · unfold handOn
    rw [kind]
  · unfold handOn
    rw [kind]

end

end Channel

end Hand

end NearLink.Dtap
