import NearLink.Dtap.StreamPayload

/-!
# The frame a stream channel waits for

`DTAP_RecvStreamFrame` tests how many frames wait before it looks at the number
of the one that arrives.  Once one more than `streamCacheMax` wait, it refuses
the expected frame too, which is the only one that could make room.
-/

namespace NearLink.Dtap

namespace Stream

open Transition Sdf List

variable {stream next : Stream} {answers : StreamAnswers} {frame : Frame}
  {payload : Buff} {frameTxSeq count : Nat}

structure Awaits (stream : Stream) (frame : Frame) (payload : Buff) :
    Prop where
  unseg : Sar.ofCode (wordAt frame.buff.data 5 / 2 ^ 14) = .unseg
  checked : buffCheck stream.conf.crcInit frame = .ok payload
  number : wordAt frame.buff.data 5 % 2 ^ 14 = stream.expectedSeq

/-- The frame is handed on, then the nodes that follow it directly, and the
channel waits for the number behind them. -/
def Delivers (stream : Stream) (frame : Frame) (payload : Buff)
    (recvCb : Bool) (next : Stream) : Prop :=
  ∃ node given rest, node.txSeq = stream.expectedSeq ∧ node.pi = frame.pi ∧
    node.data = payload.data ∧ stream.rxList = given ++ rest ∧
    (node :: given).IsChain (fun earlier later =>
      later.txSeq = getNextFrameSeq earlier.txSeq) ∧
    Hands (node :: given) rest { stream with recvCb } next

theorem delivers_recvChecked (answers : StreamAnswers) {txSeq : Nat}
    (small : txSeq < 2 ^ 14) (number : txSeq = stream.expectedSeq)
    (pi : Nat) (data : Bytes) :
    ∃ node given rest, node.txSeq = stream.expectedSeq ∧ node.pi = pi ∧
      node.data = data ∧ stream.rxList = given ++ rest ∧
      (node :: given).IsChain (fun earlier later =>
        later.txSeq = getNextFrameSeq earlier.txSeq) ∧
      Hands (node :: given) rest stream
        (stream.recvChecked answers txSeq pi data).2 := by
  let node : StreamRxNode :=
    { txSeq, pi, data, timeStamp := answers.stamp, arrival := stream.arrivals }
  have counted : Hands [] stream.rxList stream
      { stream with arrivals := stream.arrivals + 1 } :=
    hands_nil rfl rfl rfl ⟨rfl, rfl⟩
  have handed := counted.trans (hands_recvCallback _ node)
  obtain ⟨given, rest, split, hands, starts, chain, -⟩ :=
    reportExpected_hands stream.rxList
      { recvCallback node { stream with arrivals := stream.arrivals + 1 } with
        expectedSeq := getNextFrameSeq node.txSeq }
  refine ⟨node, given, rest, number, rfl, rfl, split,
    isChain_cons.mpr ⟨starts, chain⟩, ?_⟩
  have whole := handed.trans hands
  have running : stream.expectedSeq ≠ frameSeqInit := by
    rw [← number]
    exact Nat.ne_of_lt (Nat.lt_trans small (by decide))
  unfold recvChecked
  rw [if_neg running, if_pos number, ← number]
  apply Hands.startTimer
  exact { whole with }

theorem delivers_iff (awaits : stream.Awaits frame payload)
    (answers : StreamAnswers) (recvCb : Bool) :
    stream.Delivers frame payload recvCb
        (stream.recvStreamFrame answers recvCb frame).2 ↔
      stream.rxList.length ≤ streamCacheMax := by
  unfold recvStreamFrame
  dsimp only
  rw [if_neg (not_not.mpr awaits.unseg)]
  split
  case isTrue full =>
    refine ⟨?_, fun room => absurd room (Nat.not_le.mpr full)⟩
    rintro ⟨node, given, rest, -, -, -, -, -, hands⟩
    have length := congrArg List.length hands.calls
    simp at length
  case isFalse room =>
    refine ⟨fun _ => Nat.not_lt.mp room, fun _ => ?_⟩
    rw [awaits.checked]
    let registered : Stream := { stream with recvCb }
    have number : wordAt frame.buff.data 5 % 2 ^ 14 =
        registered.expectedSeq := awaits.number
    exact delivers_recvChecked answers (Nat.mod_lt _ (by decide)) number _ _

def Responsive (stream : Stream) : Prop :=
  ∀ frame payload, stream.Awaits frame payload → ∀ answers recvCb,
    stream.Delivers frame payload recvCb
      (stream.recvStreamFrame answers recvCb frame).2

def Ahead (stream : Stream) (txSeq : Nat) : Prop :=
  stream.expectedSeq ≠ frameSeqInit ∧ txSeq ≠ stream.expectedSeq ∧
    isFrameSeqSmaller txSeq stream.expectedSeq = false ∧
    stream.rxList.any (·.txSeq == txSeq) = false

def Queues (stream : Stream) (input : Input) : Prop :=
  ∃ recvCb buff frame payload, input.event = .recvFrame recvCb buff ∧
    stream.acceptFrame buff = some frame ∧
    Sar.ofCode (wordAt frame.buff.data 5 / 2 ^ 14) = .unseg ∧
    buffCheck stream.conf.crcInit frame = .ok payload ∧
    stream.Ahead (wordAt frame.buff.data 5 % 2 ^ 14) ∧
    input.answers.alloc = true

/-- No frame is queued while `streamCacheMax` of them wait. -/
def Roomy (stream : Stream) (input : Input) : Prop :=
  stream.Queues input → stream.rxList.length < streamCacheMax

theorem length_recvChecked (answers : StreamAnswers) (txSeq pi : Nat)
    (data : Bytes) (stream : Stream) :
    (stream.recvChecked answers txSeq pi data).2.rxList.length ≤
        stream.rxList.length ∨
      stream.Ahead txSeq ∧ answers.alloc = true ∧
        (stream.recvChecked answers txSeq pi data).2.rxList.length =
          stream.rxList.length + 1 := by
  have kept (queued : Stream) :
      (queued.startReorderTimer answers).rxList = queued.rxList :=
    (startReorderTimer_keeps answers queued).2.2.2
  unfold recvChecked
  dsimp only
  split
  · exact .inl (le_rfl)
  rename_i running
  split
  · left
    rw [kept]
    obtain ⟨given, rest, split, hands, -⟩ :=
      reportExpected_hands stream.rxList _
    refine Nat.le_trans (Nat.le_of_eq (congrArg _ hands.queued)) ?_
    rw [split, length_append]
    exact Nat.le_add_left _ _
  rename_i differs
  split
  · exact .inl (le_rfl)
  rename_i ahead
  split
  · exact .inl (le_rfl)
  rename_i fresh
  split
  · exact .inl (le_rfl)
  rename_i allocated
  refine .inr ⟨⟨running, differs, Bool.not_eq_true _ ▸ ahead,
    Bool.not_eq_true _ ▸ fresh⟩, by simpa using allocated, ?_⟩
  have inserted (node : StreamRxNode) (nodes : List StreamRxNode) :
      (insertStreamRxNode node nodes).length = nodes.length + 1 :=
    (insertStreamRxNode_perm node nodes).length_eq
  split
  · exact inserted _ _
  · rw [kept]
    exact inserted _ _

def Within (stream : Stream) : Prop :=
  stream.rxList.length ≤ streamCacheMax

theorem Within.step {input : Input} (within : stream.Within)
    (roomy : stream.Roomy input) : (stream.step input).Within := by
  obtain ⟨event, answers⟩ := input
  cases event with
  | reorderTimer =>
    obtain ⟨given, rest, split, hands, -⟩ := stream.reorderTask_hands answers
    change (stream.reorderStreamFrameTask answers).rxList.length ≤ _
    unfold Within at within
    have suffix := (stream.rxList.dropWhile_suffix stream.due).length_le
    rw [split, length_append] at suffix
    rw [hands.queued]
    omega
  | recvFrame recvCb buff =>
    change (stream.dataRecvFrame answers recvCb buff).rxList.length ≤ _
    unfold dataRecvFrame
    split
    · exact within
    rename_i frame accepted
    unfold recvStreamFrame
    dsimp only
    split
    · exact within
    rename_i unseg
    split
    · exact within
    split
    · exact within
    rename_i payload checked
    rcases length_recvChecked answers (wordAt frame.buff.data 5 % 2 ^ 14)
        frame.pi payload.data { stream with recvCb := recvCb frame.pi } with
      same | ⟨ahead, allocated, longer⟩
    · exact Nat.le_trans same within
    · have room := roomy ⟨recvCb, buff, frame, payload, rfl, accepted,
        not_not.mp unseg, checked, ahead, allocated⟩
      rw [longer]
      exact room

theorem Within.responsive (within : stream.Within) : stream.Responsive :=
  fun _ _ awaits answers recvCb =>
    (delivers_iff awaits answers recvCb).mpr within

/-- While no frame is queued behind `streamCacheMax` others, an expected frame
is handed on in every state. -/
theorem responsive_of_roomy (conf : StreamConf) (inputs : List Input)
    (roomy : Meets step Roomy (streamChannelCreate conf) inputs) :
    Always step Responsive (streamChannelCreate conf) inputs := by
  have initial : (streamChannelCreate conf).Within := Nat.zero_le _
  exact always_of_meets (fun _ (within : Within _) => within.responsive)
    (fun _ _ (within : Within _) roomy => within.step roomy) initial roomy

theorem responsive_lostFrame :
    Always step Responsive (streamChannelCreate plainStreamConf) lostFrame := by
  apply responsive_of_roomy
  refine ⟨fun _ => ?_, fun _ => ?_, fun _ => ?_, fun _ => ?_, trivial⟩
  all_goals decide +kernel

def oneByte : Frame :=
  { frameType := .simplexFrag, buff := .ofData [7], bits := frameCBit, pi := 1
    sar := .unseg }

def packedFrame (frameTxSeq : Nat) : Buff :=
  (packStreamFrame 0 frameTxSeq 64 oneByte.pi oneByte.buff
    oneByte.sar).2.toOption.getD (.ofData [])

def arrival (frameTxSeq : Nat) : Input where
  event := .recvFrame (fun _ => true) (packedFrame frameTxSeq)
  answers := answersAt 0

theorem packedFrame_arrives (small : frameTxSeq < 2 ^ 14)
    (conf : stream.conf = plainStreamConf) :
    ∃ frame payload, stream.acceptFrame (packedFrame frameTxSeq) = some frame ∧
      Sar.ofCode (wordAt frame.buff.data 5 / 2 ^ 14) = .unseg ∧
      buffCheck stream.conf.crcInit frame = .ok payload ∧
      wordAt frame.buff.data 5 % 2 ^ 14 = getNextFrameSeq frameTxSeq := by
  let txSeq := getNextFrameSeq frameTxSeq
  have following : txSeq < 2 ^ 14 := by
    unfold txSeq getNextFrameSeq frameSeqMax
    split <;> omega
  obtain ⟨buff, packed, wire⟩ := packStreamFrame_wire oneByte 64 0 frameTxSeq
    (by decide) (by decide)
  have same : packedFrame frameTxSeq = buff := by
    unfold packedFrame
    rw [packed]
    rfl
  have sound := @sound_enhanceBits .simplexFrag
    (simplexFields oneByte.pi txSeq oneByte.sar) oneByte.buff.data nofun rfl
    (by decide) false false
  have arrives : Arrives 0 64 64 buff (parsedSimplex oneByte.pi txSeq
      oneByte.sar oneByte.buff.data frameCBit buff) :=
    arrives_simplex sound wire following (by decide) (by decide) (by decide)
  obtain ⟨payload, checked, -⟩ := arrives.streamed
  have type : byteAt buff.data 1 = 2 + 16 * frameCBit := by
    rw [wire]
    exact byteAt_enhanceWire_type 0 64 .simplexFrag frameCBit _ _ (by decide)
  have headed : buff.data = enhanceWire 0 64 .simplexFrag frameCBit
      ([UInt8.ofNat oneByte.pi] ++ (encodeWord txSeq ++ []))
      oneByte.buff.data := by
    have plain : oneByte.sar.code = 0 := rfl
    rw [wire]
    unfold simplexFields
    rw [plain, Nat.mul_zero, Nat.add_zero, Nat.mod_eq_of_lt following]
    rfl
  have word : wordAt buff.data 5 = txSeq :=
    wordAt_field _ _ headed rfl (by omega)
  have streamed : checkStreamFrame (parsedSimplex oneByte.pi txSeq oneByte.sar
      oneByte.buff.data frameCBit buff) = true := by
    unfold checkStreamFrame parsedSimplex
    rw [type]
    rfl
  refine ⟨_, payload, ?_, ?_, by rw [conf]; exact checked, ?_⟩
  · rw [same, acceptFrame_eq, conf]
    exact (congrArg (Option.filter checkStreamFrame) arrives.accepted).trans
      (by rw [Option.filter_some, if_pos streamed])
  · change Sar.ofCode (wordAt buff.data 5 / 2 ^ 14) = .unseg
    rw [word, Nat.div_eq_of_lt following]
    rfl
  · change wordAt buff.data 5 % 2 ^ 14 = txSeq
    rw [word, Nat.mod_eq_of_lt following]

theorem insertStreamRxNode_last {node : StreamRxNode}
    {nodes : List StreamRxNode} (behind : ∀ cur ∈ nodes,
      isFrameSeqSmaller node.txSeq cur.txSeq = false) :
    insertStreamRxNode node nodes = nodes ++ [node] := by
  induction nodes with
  | nil => rfl
  | cons cur nodes induction =>
    have later := induction fun other member =>
      behind other (.tail _ member)
    unfold insertStreamRxNode
    rw [behind cur (by simp), later]
    rfl

/-- Frame 1 is expected, and the `count` frames behind it wait. -/
structure Filled (count : Nat) (stream : Stream) : Prop where
  conf : stream.conf = plainStreamConf
  expected : stream.expectedSeq = 1
  queued : stream.rxList.map (·.txSeq) = List.range' 2 count

theorem Filled.length (filled : Filled count stream) :
    stream.rxList.length = count := by
  rw [← length_map, filled.queued, length_range']

theorem Filled.recvChecked (filled : Filled count stream)
    (near : count ≤ streamCacheMax) {answers : StreamAnswers}
    (alloc : answers.alloc = true) (pi : Nat) (data : Bytes) :
    Filled (count + 1) (stream.recvChecked answers (count + 2) pi data).2 := by
  obtain ⟨conf, expected, queued⟩ := filled
  have near : count ≤ 256 := near
  have compared (own other : Nat) (above : other ≤ own) (ownSmall : own < 300) :
      isFrameSeqSmaller own other = false := by
    have positions := @isFrameSeqSmaller_seqOf other own (by omega) (by omega)
    unfold seqOf at positions
    rw [Nat.mod_eq_of_lt (by omega), Nat.mod_eq_of_lt (by omega)] at positions
    rw [positions, decide_eq_false_iff_not]
    omega
  have below : ∀ cur ∈ stream.rxList, cur.txSeq < count + 2 := by
    intro cur member
    have among : cur.txSeq ∈ List.range' 2 count :=
      queued ▸ mem_map_of_mem member
    have bounds := mem_range'_1.mp among
    omega
  have fresh : stream.rxList.any (·.txSeq == count + 2) = false := by
    rw [any_eq_false]
    intro cur member same
    exact Nat.ne_of_lt (below cur member) (beq_iff_eq.mp same)
  let node : StreamRxNode :=
    { txSeq := count + 2, pi, data, timeStamp := answers.stamp
      arrival := stream.arrivals }
  have last : insertStreamRxNode node stream.rxList = stream.rxList ++ [node] :=
    insertStreamRxNode_last fun cur member =>
      compared (count + 2) _ (Nat.le_of_lt (below cur member)) (by omega)
  have longer : (stream.rxList ++ [node]).map (·.txSeq) =
      List.range' 2 (count + 1) := by
    rw [map_append, queued, range'_1_concat, Nat.add_comm 2 count]
    rfl
  unfold Stream.recvChecked
  dsimp only
  rw [expected, if_neg (by decide), if_neg (by omega),
    compared _ _ (by omega) (by omega), if_neg (by decide), fresh,
    if_neg (by decide), alloc, if_neg (by decide), last]
  split
  · exact ⟨conf, rfl, longer⟩
  · unfold startReorderTimer
    split <;> exact ⟨conf, rfl, longer⟩

theorem step_arrival (small : frameTxSeq < 2 ^ 14)
    (conf : stream.conf = plainStreamConf)
    (room : stream.rxList.length ≤ streamCacheMax) :
    ∃ pi data, stream.step (arrival frameTxSeq) =
      (recvChecked (answersAt 0) (getNextFrameSeq frameTxSeq) pi data
        { stream with recvCb := true }).2 := by
  obtain ⟨frame, payload, accepted, unseg, checked, number⟩ :=
    packedFrame_arrives small conf
  refine ⟨frame.pi, payload.data, ?_⟩
  unfold step arrival dataRecvFrame
  dsimp only
  rw [accepted]
  dsimp only
  unfold recvStreamFrame
  rw [if_neg (not_not.mpr unseg), if_neg (Nat.not_lt.mpr room), checked, number]

theorem Filled.arrive (filled : Filled count stream)
    (near : count ≤ streamCacheMax) :
    Filled (count + 1) (stream.step (arrival (count + 1))) := by
  have following : getNextFrameSeq (count + 1) = count + 2 := by
    unfold getNextFrameSeq frameSeqMax
    unfold streamCacheMax at near
    exact if_neg (by omega)
  obtain ⟨pi, data, stepped⟩ := step_arrival
    (Nat.lt_of_le_of_lt (Nat.succ_le_succ near) (by decide)) filled.conf
    (filled.length.symm ▸ near)
  rw [stepped, following]
  have registered : Filled count { stream with recvCb := true } :=
    { filled with }
  exact registered.recvChecked near rfl _ _

theorem filled_run (near : count ≤ streamCacheMax + 1) :
    Filled count (run step (streamChannelCreate plainStreamConf)
      (arrival 16383 :: (List.range' 1 count).map arrival)) := by
  induction count with
  | zero =>
    obtain ⟨pi, data, stepped⟩ := @step_arrival
      (streamChannelCreate plainStreamConf) 16383 (by decide) rfl (by decide)
    exact ⟨rfl, rfl, rfl⟩
  | succ count induction =>
    have filled := induction (Nat.le_of_succ_le near)
    rw [range'_1_concat, map_append, ← cons_append,
      run_append, Nat.add_comm 1 count]
    exact filled.arrive (Nat.le_of_succ_le_succ near)

theorem responsive_overflows :
    ¬ Always step Responsive (streamChannelCreate plainStreamConf)
      (arrival 16383 :: (List.range' 1 257).map arrival) := by
  intro always
  have filled := @filled_run 257 (by decide)
  obtain ⟨frame, payload, -, unseg, checked, number⟩ :=
    @packedFrame_arrives _ 0 (by decide) filled.conf
  have awaits : Awaits _ frame payload :=
    ⟨unseg, checked, number.trans filled.expected.symm⟩
  have handed := always.at_end frame payload awaits (answersAt 0) true
  have room := (delivers_iff awaits (answersAt 0) true).mp handed
  rw [filled.length] at room
  exact absurd room (by decide)

end Stream

end NearLink.Dtap
