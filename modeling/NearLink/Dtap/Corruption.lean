import NearLink.Dtap.StreamPayload

/-!
# Corrupted frames

Two bytes next to each other that change on the way are found by the CRC, and
neither kind of channel takes such a frame.
-/

namespace NearLink.Dtap

open Sdf List

variable {sent : Bytes} {arrived : Buff} {crcInit : UInt16}

/-- Bytes arrive as they were sent, but for two next to each other. -/
def Corrupts (sent arrived : Bytes) : Prop :=
  arrived ≠ sent ∧ ∃ before first second data byte after,
    sent = before ++ [data, byte] ++ after ∧
      arrived = before ++ [first, second] ++ after

theorem Corrupts.detected {arrived : Bytes} (corrupts : Corrupts sent arrived)
    (whole : crc16 crcInit sent = 0) : crc16 crcInit arrived ≠ 0 := by
  obtain ⟨differs, before, first, second, data, byte, after, rfl, rfl⟩ :=
    corrupts
  intro zero
  obtain ⟨rfl, rfl⟩ := crc16_burst (zero.trans whole.symm)
  exact differs rfl

theorem buff_of_recvChecks {mps : Nat} {frame : Frame}
    (passed : recvChecks mps arrived = some frame) : frame.buff = arrived := by
  unfold recvChecks at passed
  split_ifs at passed
  split at passed
  · cases passed
  next parsing =>
    split_ifs at passed
    cases passed
    exact parseFrame_buff parsing

theorem Channel.crc_of_acceptFrame {channel : Channel} {frame : Frame}
    (accepted : channel.acceptFrame arrived = some frame) :
    crc16 channel.conf.crcInit arrived.data = 0 := by
  obtain ⟨passed, checked⟩ := Option.filter_eq_some_iff.mp
    ((recvChecks_filter _ _ channel.checkEnhanceFrame).trans accepted)
  unfold checkEnhanceFrame at checked
  rw [buff_of_recvChecks passed] at checked
  by_contra bad
  simp [bad] at checked

theorem Stream.crc_of_buffCheck {frame : Frame} {payload : Buff}
    (checked : buffCheck crcInit frame = .ok payload) :
    crc16 crcInit frame.buff.data = 0 := by
  unfold buffCheck Buff.trimSuffix crcLen at checked
  split at checked
  · cases checked
  next message trimmed =>
    split_ifs at trimmed with short
    obtain rfl := Option.some.inj trimmed
    dsimp only at checked
    split_ifs at checked with differs
    have same : frame.buff.data.drop (frame.buff.data.length - 2) =
        encode2ByteLittle (crc16 crcInit
          (frame.buff.data.take (frame.buff.data.length - 2))) :=
      encode_of_decode (by simp; omega) (not_not.mp differs)
    rw [← take_append_drop (frame.buff.data.length - 2) frame.buff.data, same]
    exact crc16_residue crcInit _

theorem Stream.recvStreamFrame_bad {stream : Stream} {frame : Frame}
    (bad : crc16 stream.conf.crcInit frame.buff.data ≠ 0)
    (answers : StreamAnswers) (recvCb : Bool) :
    ∃ known, (stream.recvStreamFrame answers recvCb frame).2 =
      { stream with recvCb := known } := by
  unfold recvStreamFrame
  dsimp only
  split
  · exact ⟨stream.recvCb, rfl⟩
  split
  · exact ⟨recvCb, rfl⟩
  cases checked : buffCheck stream.conf.crcInit frame with
  | error errno => exact ⟨recvCb, rfl⟩
  | ok payload => exact absurd (crc_of_buffCheck checked) bad

theorem corrupted_refused (whole : crc16 crcInit sent = 0)
    (corrupts : Corrupts sent arrived.data) :
    (∀ env registry (channel : Channel), channel.conf.crcInit = crcInit →
      channel.dataRecvFrame env registry arrived = channel) ∧
    ∀ answers recvCb (stream : Stream), stream.conf.crcInit = crcInit →
      ∃ known, stream.dataRecvFrame answers recvCb arrived =
        { stream with recvCb := known } := by
  have bad := corrupts.detected whole
  constructor
  · rintro env registry channel rfl
    unfold Channel.dataRecvFrame
    cases accepted : channel.acceptFrame arrived with
    | none => rfl
    | some frame => exact absurd (Channel.crc_of_acceptFrame accepted) bad
  · rintro answers recvCb stream rfl
    unfold Stream.dataRecvFrame
    cases accepted : stream.acceptFrame arrived with
    | none => exact ⟨stream.recvCb, rfl⟩
    | some frame =>
      apply Stream.recvStreamFrame_bad
      rw [Stream.acceptFrame_eq] at accepted
      rw [buff_of_recvChecks (Option.filter_eq_some_iff.mp accepted).1]
      exact bad

theorem corrupted_refused_plainFrame :
    (reliableChannelCreate Channel.plainConf 8).dataRecvFrame
        Channel.plainEnv Channel.takesAll
        (Buff.ofData [64, 34, 6, 0, 1, 0, 0, 8, 70, 106]) =
      reliableChannelCreate Channel.plainConf 8 := by
  have corrupts : Corrupts plainFrame.buff.data
      [64, 34, 6, 0, 1, 0, 0, 8, 70, 106] :=
    ⟨by decide, [64, 34, 6, 0, 1, 0, 0], 8, 70, 7, 70, [106], rfl, rfl⟩
  exact (corrupted_refused (by decide +kernel) corrupts).1 _ _ _ rfl

end NearLink.Dtap
