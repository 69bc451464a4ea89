import NearLink.Dtap.Handover
import NearLink.Dtap.RoundTrip
import NearLink.Dtap.StreamTimer

/-!
# The payload of a frame in the two modes

The stream mode and the reliable mode cut the payload out of a frame by code of
their own.  The reliable mode leaves the extensions out and unpacks aggregate
frames; the stream mode takes both kinds of frames as well, but hands on
everything between the fixed header and the CRC as one message.
-/

namespace NearLink.Dtap

open Sdf List Dtap.Stream Channel

theorem byteAt_lt (data : Bytes) (offset : Nat) : byteAt data offset < 256 :=
  UInt8.toNat_lt _

variable {result : Nat} {rest : Bytes}

theorem parseExtensionLoop_le {data : Bytes} {dataLen count start : Nat}
    (parsed : parseExtensionLoop data dataLen count start = .ok result) :
    start ≤ result := by
  induction count generalizing start with
  | zero =>
    cases parsed
    exact le_rfl
  | succ count induction =>
    unfold parseExtensionLoop at parsed
    dsimp only at parsed
    split at parsed
    · cases parsed
    split at parsed
    · cases parsed
    have later := induction parsed
    omega

theorem parseExtension_pos (parsed : parseExtension rest = .ok result) :
    0 < result := by
  unfold parseExtension at parsed
  dsimp only at parsed
  split at parsed
  · cases parsed
  split at parsed
  · cases parsed
  exact parseExtensionLoop_le parsed

/-- What the stream mode relies on in a simplex frame that passed the checks:
the layout, and that there are extensions only under the option bit. -/
structure SimplexFrame (buff : Buff) (frame : Frame) : Prop where
  kept : frame.buff = buff
  kind : frame.frameType = .simplexFrag ∧
      frame.sar = .ofCode (wordAt buff.data 5 / 2 ^ 14) ∨
    frame.frameType = .simplexAggr
  header : frame.headerLen = 7
  number : frame.txSeq = wordAt buff.data 5 % 2 ^ 14
  room : 7 + frame.extensionLen + 2 ≤ buff.data.length
  payload : frame.payload = (buff.data.drop (7 + frame.extensionLen)).take
    (buff.data.length - 7 - frame.extensionLen - 2)
  option : frame.extensionLen = 0 ↔ checkFrameBit frame.bits frameOBit = false

theorem checkFrameBit_option (bits : Nat) :
    checkFrameBit bits frameOBit = (bits % 2 != 0) := by
  unfold checkFrameBit frameOBit
  rw [Nat.and_one_is_mod]

variable {buff : Buff} {frame : Frame}

theorem parseEnhanceFrame_simplex {frameType : FrameType}
    (seven : frameType.headerLen = 7) (short : buff.data.length < 65536 + 7)
    (parsed : parseEnhanceFrame frameType buff = .ok frame) :
    frame.buff = buff ∧ frame.frameType = frameType ∧ frame.headerLen = 7 ∧
      7 + frame.extensionLen + 2 ≤ buff.data.length ∧
      frame.payload = (buff.data.drop (7 + frame.extensionLen)).take
        (buff.data.length - 7 - frame.extensionLen - 2) ∧
      (frame.extensionLen = 0 ↔
        checkFrameBit frame.bits frameOBit = false) := by
  unfold parseEnhanceFrame at parsed
  rw [seven] at parsed
  dsimp only at parsed
  split at parsed
  · cases parsed
  split at parsed
  · cases parsed
  rename_i extensionLen extended
  split at parsed
  · cases parsed
  rename_i enough
  cases parsed
  have reduced : (buff.data.length - 7 - extensionLen) % 65536 =
      buff.data.length - 7 - extensionLen := Nat.mod_eq_of_lt (by omega)
  rw [reduced] at enough ⊢
  unfold crcLen at enough ⊢
  refine ⟨rfl, rfl, rfl, by dsimp only; omega, rfl, ?_⟩
  dsimp only
  rw [checkFrameBit_option]
  split at extended
  next optional =>
    have positive := parseExtension_pos extended
    rw [optional]
    constructor
    · omega
    · exact nofun
  next plain =>
    cases extended
    exact ⟨fun _ => by simpa using plain, fun _ => rfl⟩

theorem parseEnhanceFrame_buff {frameType : FrameType}
    (parsed : parseEnhanceFrame frameType buff = .ok frame) :
    frame.buff = buff := by
  unfold parseEnhanceFrame at parsed
  dsimp only at parsed
  split at parsed
  · cases parsed
  split at parsed
  · cases parsed
  split at parsed
  · cases parsed
  cases parsed
  rfl

theorem parseFrame_buff {frameType : Nat}
    (parsed : parseFrame frameType buff = .ok frame) : frame.buff = buff := by
  have mapped {kind : FrameType} {number : Frame → Frame}
      (parsed : (parseEnhanceFrame kind buff).map number = .ok frame)
      (keeps : ∀ inner, (number inner).buff = inner.buff) :
      frame.buff = buff := by
    cases inner : parseEnhanceFrame kind buff with
    | error errno =>
      rw [inner] at parsed
      cases parsed
    | ok enhanced =>
      rw [inner] at parsed
      cases parsed
      rw [keeps]
      exact parseEnhanceFrame_buff inner
  unfold parseFrame at parsed
  split at parsed
  · cases parsed
  · unfold parseBasicFrame at parsed
    dsimp only at parsed
    split at parsed
    · cases parsed
      rfl
    split at parsed <;> cases parsed
    · rfl
  all_goals exact mapped parsed fun _ => rfl

theorem simplexFrame_of_parsed (short : buff.data.length < 65536 + 7)
    (simplex : byteAt buff.data 1 % 16 = 2 ∨ byteAt buff.data 1 % 16 = 1)
    (parsed : parseFrame (byteAt buff.data 1 % 16) buff = .ok frame) :
    SimplexFrame buff frame := by
  unfold parseFrame at parsed
  rcases simplex with fragment | aggregate
  · rw [fragment] at parsed
    cases inner : parseEnhanceFrame .simplexFrag buff with
    | error errno =>
      rw [inner] at parsed
      cases parsed
    | ok enhanced =>
      rw [inner] at parsed
      cases parsed
      obtain ⟨kept, type, header, room, payload, option⟩ :=
        parseEnhanceFrame_simplex rfl short inner
      exact ⟨kept, .inl ⟨type, rfl⟩, header, rfl, room, payload, option⟩
  · rw [aggregate] at parsed
    cases inner : parseEnhanceFrame .simplexAggr buff with
    | error errno =>
      rw [inner] at parsed
      cases parsed
    | ok enhanced =>
      rw [inner] at parsed
      cases parsed
      obtain ⟨kept, type, header, room, payload, option⟩ :=
        parseEnhanceFrame_simplex rfl short inner
      exact ⟨kept, .inr type, header, rfl, room, payload, option⟩

theorem simplexFrame_of_accepted {mps : Nat}
    (accepted : recvChecks mps buff = some frame)
    (simplex : checkStreamFrame frame = true) :
    SimplexFrame buff frame := by
  unfold recvChecks at accepted
  split at accepted
  · cases accepted
  split at accepted
  · cases accepted
  rename_i counted
  split at accepted
  · cases accepted
  rename_i parsedFrame parsed
  split at accepted
  · cases accepted
  split at accepted
  · cases accepted
  cases accepted
  have low := byteAt_lt buff.data 2
  have high := byteAt_lt buff.data (2 + 1)
  have short : buff.data.length < 65536 + 7 := by
    unfold wordAt basicHeaderLen at counted
    omega
  unfold checkStreamFrame at simplex
  rw [parseFrame_buff parsed, Bool.or_eq_true, beq_iff_eq, beq_iff_eq]
    at simplex
  exact simplexFrame_of_parsed short simplex parsed

def Stream.messagesOf (before after : Stream) : List Message :=
  (after.up.filter fun call => call.arrival == before.arrivals).map
    fun call => { pi := call.info.pi, data := call.sdu }

variable {stream : Stream}

section

variable (settled : Settled stream)
include settled

theorem Settled.up_arrived {call : StreamUpcall} (member : call ∈ stream.up) :
    call.arrival < stream.arrivals := by
  rcases settled with ⟨-, -, quiet⟩ | ⟨expected, running⟩
  · rw [quiet] at member
    exact absurd member not_mem_nil
  · apply running.serves.arrived
    exact mem_append_left _ (mem_map_of_mem member)

theorem Settled.up_filter :
    stream.up.filter (fun call => call.arrival == stream.arrivals) = [] := by
  rw [filter_eq_nil_iff]
  intro call member same
  exact Nat.ne_of_lt (settled.up_arrived member) (beq_iff_eq.mp same)

theorem Settled.rxList_arrived {node : StreamRxNode}
    (member : node ∈ stream.rxList) : node.arrival < stream.arrivals := by
  rcases settled with ⟨-, empty, -⟩ | ⟨expected, running⟩
  · rw [empty] at member
    exact absurd member not_mem_nil
  · apply running.serves.arrived
    exact mem_append_right _ (mem_map_of_mem member)

theorem Stream.messagesOf_recvChecked (answers : StreamAnswers) {txSeq : Nat}
    (inSequence : stream.expectedSeq = frameSeqInit ∨
      stream.expectedSeq = txSeq) (pi : Nat) (data : Bytes) :
    stream.messagesOf (stream.recvChecked answers txSeq pi data).2 =
      [{ pi, data }] := by
  have kept := settled.up_filter
  unfold messagesOf recvChecked
  dsimp only
  split
  · simp [recvCallback, kept]
  split
  · rw [(startReorderTimer_keeps answers _).2.1]
    let reported : Stream :=
      { { stream with arrivals := stream.arrivals + 1 }.recvCallback
          { txSeq, pi, data, timeStamp := answers.stamp
            arrival := stream.arrivals } with
        expectedSeq := getNextFrameSeq stream.expectedSeq }
    obtain ⟨given, rest, queued, hands, -⟩ :=
      reported.reportExpected_hands stream.rxList
    have drained : (given.map reported.callOf).filter
        (fun call => call.arrival == stream.arrivals) = [] := by
      rw [filter_eq_nil_iff]
      intro call member same
      obtain ⟨node, inside, rfl⟩ := mem_map.mp member
      have waits : node ∈ stream.rxList := by
        rw [queued]
        exact mem_append_left _ inside
      exact Nat.ne_of_lt (settled.rxList_arrived waits) (beq_iff_eq.mp same)
    have calls : (reported.reportExpectedStreamFrame stream.rxList).up =
        stream.up ++ [stream.callOf
          { txSeq, pi, data, timeStamp := answers.stamp
            arrival := stream.arrivals }] ++
          given.map reported.callOf := hands.calls
    change ((reported.reportExpectedStreamFrame stream.rxList).up.filter
      _).map _ = _
    rw [calls, filter_append, filter_append, kept, drained]
    simp [callOf]
  next initial differs =>
    exact absurd (inSequence.resolve_left initial).symm differs

end

theorem Stream.buffCheck_simplex {crcInit : UInt16}
    (simplex : SimplexFrame buff frame) (crc : crc16 crcInit buff.data = 0) :
    ∃ rest, buffCheck crcInit frame = .ok rest ∧
      rest.data = (buff.data.take (buff.data.length - 2)).drop 7 := by
  have room := simplex.room
  let message := buff.data.take (buff.data.length - 2)
  let sum := buff.data.drop (buff.data.length - 2)
  have size : message.length = buff.data.length - 2 := by
    simp [message]
  have same : sum = encode2ByteLittle (crc16 crcInit message) := by
    apply (crc16_eq_zero_iff crcInit message sum (by simp [sum]; omega)).mp
    rw [take_append_drop]
    exact crc
  unfold buffCheck
  rw [simplex.kept, simplex.header]
  unfold Buff.trimSuffix crcLen
  rw [if_neg (by omega)]
  change (∃ rest, (if decode2ByteLittle sum ≠ _ then _ else _) = _ ∧ _)
  rw [same, decode2ByteLittle_encode, if_neg (by simp [message])]
  unfold Buff.trimPrefix
  rw [if_neg (by dsimp only; rw [size]; omega)]
  exact ⟨_, rfl, rfl⟩

theorem Stream.messagesOf_recvStreamFrame (settled : Settled stream)
    (answers : StreamAnswers) (recvCb : Bool)
    (simplex : SimplexFrame buff frame)
    (crc : crc16 stream.conf.crcInit buff.data = 0)
    (inSequence : stream.expectedSeq = frameSeqInit ∨
      stream.expectedSeq = frame.txSeq)
    (room : stream.rxList.length ≤ streamCacheMax) :
    stream.messagesOf (stream.recvStreamFrame answers recvCb frame).2 =
      if Sar.ofCode (wordAt buff.data 5 / 2 ^ 14) = .unseg then
        [{ pi := frame.pi
           data := (buff.data.take (buff.data.length - 2)).drop 7 }]
      else [] := by
  obtain ⟨rest, checked, data⟩ := buffCheck_simplex simplex crc
  have registered := settled.register recvCb
  unfold recvStreamFrame
  rw [simplex.kept]
  by_cases whole : Sar.ofCode (wordAt buff.data 5 / 2 ^ 14) = .unseg
  · rw [if_neg (by simpa using whole), if_neg (Nat.not_lt.mpr room), checked,
      if_pos whole]
    dsimp only
    rw [data]
    rw [simplex.number] at inSequence
    exact messagesOf_recvChecked registered answers inSequence frame.pi _
  · rw [if_pos whole, if_neg whole]
    unfold messagesOf
    rw [settled.up_filter, map_nil]

theorem mem_splitAggregate {bound : Nat} {sdu : Bytes}
    (member : sdu ∈ splitAggregate bound rest) :
    sdu.length + 2 ≤ rest.length := by
  induction bound generalizing rest with
  | zero => exact absurd member not_mem_nil
  | succ bound induction =>
    unfold splitAggregate at member
    split at member
    · exact absurd member not_mem_nil
    split at member
    · exact absurd member not_mem_nil
    rcases mem_cons.mp member with rfl | later
    · simp only [length_take, length_drop]
      omega
    · have shorter := induction later
      simp only [length_drop] at shorter
      omega

section

variable {frame : Frame} (simplex : SimplexFrame buff frame)
include simplex

theorem SimplexFrame.payload_length :
    frame.payload.length = buff.data.length - 9 - frame.extensionLen := by
  rw [simplex.payload, length_take, length_drop]
  omega

/-- The payload is everything between the fixed header and the CRC exactly when
there are no extensions. -/
theorem SimplexFrame.payload_eq_iff :
    frame.payload = (buff.data.take (buff.data.length - 2)).drop 7 ↔
      frame.extensionLen = 0 := by
  have room := simplex.room
  constructor
  · intro same
    have lengths := congrArg List.length same
    rw [simplex.payload_length, length_drop, length_take] at lengths
    omega
  · intro plain
    rw [simplex.payload, plain, drop_take]
    congr 1

theorem handOn_simplexFrag (fragment : frame.frameType = .simplexFrag)
    (state : Option Bytes × List Message) : handOn true state frame =
      assembleStep state ⟨frame.pi, frame.sar, frame.payload⟩ := by
  have room := simplex.room
  let headless : Buff :=
    { frame.buff with
      head := frame.buff.head ++ buff.data.take (7 + frame.extensionLen)
      data := buff.data.drop (7 + frame.extensionLen) }
  have size : headless.data.length =
      buff.data.length - (7 + frame.extensionLen) := length_drop
  have first : frame.buff.trimPrefix (frame.headerLen + frame.extensionLen) =
      some headless := by
    unfold Buff.trimPrefix headless
    rw [simplex.header, simplex.kept, if_neg (by omega)]
  obtain ⟨trimmed, second, data⟩ :
      ∃ trimmed, headless.trimSuffix crcLen = some trimmed ∧
        trimmed.data = frame.payload := by
    unfold Buff.trimSuffix crcLen
    rw [if_neg (by omega)]
    refine ⟨_, rfl, ?_⟩
    dsimp only
    rw [size, simplex.payload]
    congr 1
    omega
  unfold handOn
  rw [fragment, first, Option.bind_some, second]
  dsimp only
  rw [if_pos rfl, data]

end

def SameHanded (stream : Stream) (answers : StreamAnswers) (channel : Channel)
    (env : Env) (recvCb : RecvCb) (frame : Frame) : Prop :=
  (channel.recvFirstFrame env (some recvCb) frame).2.2.host.accepted =
    channel.host.accepted ++
      stream.messagesOf (stream.recvStreamFrame answers true frame).2

/-- The frame is an unsegmented fragment frame without extensions; or its
fragmentation bits are set, so that the stream mode refuses it, and the reliable
mode completes no SDU with it. -/
def Alike (channel : Channel) (frame : Frame) : Prop :=
  if Sar.ofCode (wordAt frame.buff.data 5 / 2 ^ 14) = .unseg then
    frame.frameType = .simplexFrag ∧ checkFrameBit frame.bits frameOBit = false
  else
    (frame.frameType = .simplexAggr → aggregateSdus frame.payload = []) ∧
    (frame.frameType = .simplexFrag → frame.sar = .last →
      ∀ collected ∈ channel.frags,
        maxFragTotalLen < collected.length + frame.payload.length)

section Agreement

variable {stream : Stream} {answers : StreamAnswers} {channel : Channel}
  {env : Env} {recvCb : RecvCb} {buff : Buff} {frame : Frame}

theorem accepted_recvFirstFrame (allocates : ∀ tick, env.alloc tick = true)
    (takes : NeverFull (some recvCb)) :
    (channel.recvFirstFrame env (some recvCb) frame).2.2.host.accepted =
      (handOn true channel.taking frame).2 := by
  have notFull : (channel.recvFirstFrame env (some recvCb) frame).1 ≠
      .transReliableTransChannelFull :=
    recvFirstFrame_taken takes frame
  exact congrArg Prod.snd (recvFirstFrame_hands allocates (some recvCb) notFull)

theorem handOn_aggregate_iff (aggregate : frame.frameType = .simplexAggr)
    (state : Option Bytes × List Message) (messages : List Message)
    (whole : messages = [] ∨ ∃ data, messages = [⟨frame.pi, data⟩] ∧
      frame.payload.length ≤ data.length) :
    (handOn true state frame).2 = state.2 ++ messages ↔
      messages = [] ∧ aggregateSdus frame.payload = [] := by
  have handed : (handOn true state frame).2 =
      state.2 ++ sduMessages frame.pi (aggregateSdus frame.payload) := by
    unfold handOn
    rw [aggregate]
    rfl
  rw [handed, append_cancel_left_eq]
  unfold sduMessages
  rcases whole with rfl | ⟨data, rfl, long⟩
  · simp
  · constructor
    · intro same
      obtain ⟨sdu, single, named⟩ := map_eq_singleton_iff.mp same
      have member : sdu ∈ aggregateSdus frame.payload := by simp [single]
      have shorter := mem_splitAggregate member
      have equal : sdu = data := congrArg Message.data named
      rw [equal] at shorter
      omega
    · exact fun absurdity => absurd absurdity.1 (cons_ne_nil _ _)

theorem handOn_fragment_iff (simplex : SimplexFrame buff frame)
    (fragment : frame.frameType = .simplexFrag)
    (segmented : frame.sar ≠ .unseg) :
    (handOn true channel.taking frame).2 = channel.taking.2 ↔
      (frame.sar = .last → ∀ collected ∈ channel.frags,
        maxFragTotalLen < collected.length + frame.payload.length) := by
  rw [handOn_simplexFrag simplex fragment]
  change (assembleStep (channel.frags, channel.host.accepted) _).2 = _ ↔ _
  cases sar : frame.sar with
  | unseg => exact absurd sar segmented
  | first => simp [assembleStep, taking]
  | mid =>
    cases channel.frags with
    | none => simp [assembleStep, taking]
    | some collected =>
      simp only [assembleStep, taking, reduceCtorEq, false_imp_iff, iff_true]
      split <;> rfl
  | last =>
    cases channel.frags with
    | none => simp [assembleStep, taking]
    | some collected =>
      simp only [assembleStep, taking, true_imp_iff,
        Option.mem_some_iff, forall_eq']
      split
      next long =>
        simpa using long
      next short =>
        simpa using short

theorem sameHanded_iff (settled : Settled stream)
    (allocates : ∀ tick, env.alloc tick = true)
    (takes : NeverFull (some recvCb)) (simplex : SimplexFrame buff frame)
    (crc : crc16 stream.conf.crcInit buff.data = 0)
    (inSequence : stream.expectedSeq = frameSeqInit ∨
      stream.expectedSeq = frame.txSeq)
    (room : stream.rxList.length ≤ streamCacheMax) :
    SameHanded stream answers channel env recvCb frame ↔
      Alike channel frame := by
  have length := simplex.payload_length
  unfold SameHanded Alike
  rw [accepted_recvFirstFrame allocates takes,
    messagesOf_recvStreamFrame settled answers true simplex crc inSequence room,
    simplex.kept]
  rcases simplex.kind with ⟨fragment, sar⟩ | aggregate
  · by_cases whole : Sar.ofCode (wordAt buff.data 5 / 2 ^ 14) = .unseg
    · rw [if_pos whole, if_pos whole, handOn_simplexFrag simplex fragment,
        sar, whole, ← simplex.option, ← simplex.payload_eq_iff]
      simp [assembleStep, taking, fragment]
    · rw [if_neg whole, if_neg whole, append_nil]
      rw [← sar] at whole
      rw [← handOn_fragment_iff simplex fragment whole]
      simp [fragment, taking]
  · by_cases whole : Sar.ofCode (wordAt buff.data 5 / 2 ^ 14) = .unseg
    · rw [if_pos whole, if_pos whole]
      have single := handOn_aggregate_iff aggregate channel.taking
        [⟨frame.pi, (buff.data.take (buff.data.length - 2)).drop 7⟩]
        (.inr ⟨_, rfl, by
          rw [length, length_drop, length_take]
          omega⟩)
      rw [show channel.host.accepted = channel.taking.2 from rfl, single]
      simp [aggregate]
    · rw [if_neg whole, if_neg whole]
      have none := handOn_aggregate_iff aggregate channel.taking [] (.inl rfl)
      rw [show channel.host.accepted = channel.taking.2 from rfl, none]
      simp [aggregate]

/-- In every state of a stream channel, a frame in sequence with the right CRC
that the channel accepts is handed on as in the reliable mode exactly when the
frame is one that the modes take alike. -/
theorem modesAgree_iff (conf : StreamConf) (inputs : List Stream.Input)
    (reached : stream = Transition.run step (streamChannelCreate conf) inputs)
    (allocates : ∀ tick, env.alloc tick = true)
    (takes : NeverFull (some recvCb))
    (accepted : stream.acceptFrame buff = some frame)
    (crc : crc16 stream.conf.crcInit buff.data = 0)
    (inSequence : stream.expectedSeq = frameSeqInit ∨
      stream.expectedSeq = frame.txSeq)
    (room : stream.rxList.length ≤ streamCacheMax) :
    SameHanded stream answers channel env recvCb frame ↔
      Alike channel frame := by
  have initial : Settled (streamChannelCreate conf) :=
    .inl ⟨rfl, rfl, rfl⟩
  have settled : Settled stream := by
    rw [reached]
    exact Transition.run_invariant_of_step
      (fun _ input settled => settled.step input) initial inputs
  rw [acceptFrame_eq, Option.filter_eq_some_iff] at accepted
  exact sameHanded_iff settled allocates takes
    (simplexFrame_of_accepted accepted.1 accepted.2) crc inSequence room

end Agreement

def parsedSimplexFrame (frameType : FrameType) (bits extensionLen : Nat)
    (buff : Buff) (payload : Bytes) : Frame where
  frameType
  buff
  bits
  pi := 1
  reqSeq := frameSeqInit
  headerLen := 7
  extensionLen
  payload

def plainFrame : Frame :=
  parsedSimplexFrame .simplexFrag 2 0
    { head := [], tail := []
      data := [64, 34, 6, 0, 1, 0, 0, 7, 70, 106] } [7]

/-- The same byte behind an empty list of extensions. -/
def extendedFrame : Frame :=
  parsedSimplexFrame .simplexFrag 3 1
    { head := [], tail := []
      data := [64, 50, 7, 0, 1, 0, 0, 0, 7, 185, 204] } [7]

def aggregateFrame : Frame :=
  parsedSimplexFrame .simplexAggr 2 0
    { head := [], tail := []
      data := [64, 33, 8, 0, 1, 0, 0, 1, 0, 7, 134, 240] } [1, 0, 7]

def takesEvery : RecvCb := fun _ _ _ => .taken

theorem modesAgree_plainFrame :
    SameHanded (streamChannelCreate plainStreamConf)
      (answersAt 0) (reliableChannelCreate plainConf 8)
      plainEnv takesEvery plainFrame := by
  have taken : NeverFull (some takesEvery) := by
    intro callback same calls info sdu
    cases same
    exact nofun
  have accepted : (streamChannelCreate plainStreamConf).acceptFrame
      plainFrame.buff = some plainFrame := by
    decide +kernel
  have crc : crc16 0 plainFrame.buff.data = 0 := by decide +kernel
  have alike : Alike (reliableChannelCreate plainConf 8)
      plainFrame := by
    unfold Alike
    decide
  exact (modesAgree_iff plainStreamConf [] rfl (fun _ => rfl) taken
    accepted crc (.inl rfl) (by decide)).mpr alike

/-- The first frame of a channel is accepted and not handed on as in the
reliable mode. -/
def Differs (frame : Frame) : Prop :=
  (streamChannelCreate plainStreamConf).acceptFrame frame.buff = some frame ∧
    crc16 0 frame.buff.data = 0 ∧
    ¬ SameHanded (streamChannelCreate plainStreamConf)
      (answersAt 0) (reliableChannelCreate plainConf 8)
      plainEnv takesEvery frame

/-- The stream mode hands on the extensions with the payload, and an aggregate
frame as one message. -/
theorem modesAgree_fails : Differs extendedFrame ∧ Differs aggregateFrame := by
  unfold Differs SameHanded
  constructor
  · decide +kernel
  · decide +kernel

end NearLink.Dtap
