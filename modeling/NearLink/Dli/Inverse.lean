import NearLink.Dli.Receive

/-!
# Splitting and rebuilding are inverse

Packets are split one after another, with the flag of the last fragment kept in
between, and their fragments arrive in the order of each link.  The rebuilt
packets are the split ones, except those for which the growing buffer would
exceed `DLI_MAX_TXRX_DATA_LEN`: these are dropped as a whole.
-/

namespace NearLink.Dli

open Sdf List

/-- The buffer of a packet of `count` fragments stays within the limit while it
grows.  After the first fragment, and after every second one, it is replaced by
one with room for two more. -/
def WithinLimit (count bufferLen length : Nat) : Prop :=
  if count % 2 = 0 then length ≤ maxTxRxDataLen
  else count * bufferLen ≤ maxTxRxDataLen

instance decidableWithinLimit (count bufferLen length : Nat) :
    Decidable (WithinLimit count bufferLen length) :=
  inferInstanceAs (Decidable (if count % 2 = 0 then length ≤ maxTxRxDataLen
    else count * bufferLen ≤ maxTxRxDataLen))

variable {count : Nat}

theorem withinLimit_of_even (even : count % 2 = 0) (bufferLen length : Nat) :
    WithinLimit count bufferLen length ↔ length ≤ maxTxRxDataLen := by
  rw [WithinLimit, if_pos even]

theorem withinLimit_of_odd (odd : count % 2 = 1) (bufferLen length : Nat) :
    WithinLimit count bufferLen length ↔
      count * bufferLen ≤ maxTxRxDataLen := by
  rw [WithinLimit, if_neg (by omega)]

/-- A packet that is rebuilt: it is a fragment by itself, or its buffer stays
within the limit. -/
def Admitted (bufferLen : Nat) (data : Bytes) : Prop :=
  data.length ≤ bufferLen ∨
    WithinLimit (getDataFragmentNums bufferLen data) bufferLen data.length

instance decidableAdmitted (bufferLen : Nat) (data : Bytes) :
    Decidable (Admitted bufferLen data) :=
  inferInstanceAs (Decidable (_ ∨ _))

theorem rebuild_orphans {fragments : List Fragment}
    (continuing : ∀ fragment ∈ fragments,
      fragment.pdFlag = .middle ∨ fragment.pdFlag = .last) :
    rebuild none fragments = [] ∧ rebuildNode none fragments = none := by
  induction fragments with
  | nil => exact ⟨rfl, rfl⟩
  | cons fragment fragments induction =>
    have later := induction fun later member =>
      continuing later (.tail _ member)
    rw [rebuild_cons, rebuildNode_cons]
    rcases continuing fragment (by simp) with tag | tag <;>
      simpa [acbPacketReceived, tag, receiveDataNodeUpdate, isFirstPb]
        using later

theorem acbPacketReceived_last (node : Option RecvDataNode) (lcid : Nat)
    (payload : Bytes) :
    acbPacketReceived node ⟨lcid, .last, payload⟩ =
      (none, (receiveDataNodeUpdate node .last
        (arrivedBuff ⟨lcid, .last, payload⟩)).map (·.buf.data)) := by
  simp only [acbPacketReceived]
  cases receiveDataNodeUpdate node .last
    (arrivedBuff ⟨lcid, .last, payload⟩) <;> rfl

/-- The node of a link after `pieces` fragments of a packet: its buffer is
full after an odd number of them, and has room for one more otherwise. -/
structure Collects (bufferLen pieces : Nat) (node : RecvDataNode) : Prop where
  tag : node.pb = .first ∨ node.pb = .middle
  stored : node.buf.data.length = pieces * bufferLen
  room : node.buf.tail.length = if pieces % 2 = 0 then bufferLen else 0
  reserved : pieces % 2 = 0 → (pieces + 1) * bufferLen ≤ maxTxRxDataLen

variable {bufferLen pieces : Nat} {node : RecvDataNode}

section

variable (collects : Collects bufferLen pieces node) {buf : Buff}
include collects

theorem Collects.accepts {pb : PdFlag} (continues : pb = .middle ∨ pb = .last) :
    checkPb node.pb pb = true := by
  rcases collects.tag with tag | tag <;> rcases continues with rfl | rfl <;>
    simp [checkPb, tag, PdFlag.value]

theorem Collects.middle (positive : 0 < bufferLen)
    (whole : buf.data.length = bufferLen) :
    (pieces % 2 = 1 ∧ (pieces + 2) * bufferLen > maxTxRxDataLen ∧
        receiveDataNodeUpdate (some node) .middle buf = none) ∨
      ∃ grown, receiveDataNodeUpdate (some node) .middle buf = some grown ∧
        grown.buf.data = node.buf.data ++ buf.data ∧
        Collects bufferLen (pieces + 1) grown := by
  have accepted := collects.accepts (.inl rfl : PdFlag.middle = .middle ∨ _)
  simp only [receiveDataNodeUpdate, accepted, if_true]
  have next : (pieces + 1) * bufferLen = pieces * bufferLen + bufferLen := by
    rw [Nat.add_mul, Nat.one_mul]
  have afterNext : (pieces + 2) * bufferLen =
      pieces * bufferLen + 2 * bufferLen := by
    rw [Nat.add_mul]
  by_cases even : pieces % 2 = 0
  · right
    have room := collects.room
    rw [if_pos even] at room
    rw [reciveDataUpdate_room (by omega)]
    refine ⟨_, rfl, rfl, collects.tag, ?_, ?_, ?_⟩
    · simp [collects.stored, whole, next]
    · rw [if_neg (by omega)]
      simp [room, whole]
    · omega
  · have room := collects.room
    rw [if_neg even] at room
    have size : grownSize node .middle buf = (pieces + 2) * bufferLen := by
      simp only [grownSize, Buff.dataLen, if_true]
      rw [collects.stored, whole]
      omega
    rw [reciveDataUpdate_grow (by omega), size]
    by_cases large : (pieces + 2) * bufferLen > maxTxRxDataLen
    · left
      exact ⟨by omega, large, if_pos large⟩
    · right
      rw [if_neg large]
      refine ⟨_, rfl, rfl, .inr rfl, ?_, ?_, ?_⟩
      · simp [collects.stored, whole, next]
      · rw [if_pos (by omega), length_replicate, Buff.dataLen,
          Buff.dataLen, collects.stored, whole]
        omega
      · intro _
        exact Nat.le_of_not_lt large

theorem Collects.last (filled : 0 < buf.data.length)
    (fits : buf.data.length ≤ bufferLen) :
    (receiveDataNodeUpdate (some node) .last buf).map (·.buf.data) =
      if WithinLimit (pieces + 1) bufferLen
          (node.buf.data.length + buf.data.length) then
        some (node.buf.data ++ buf.data)
      else none := by
  have accepted := collects.accepts (.inr rfl : _ ∨ PdFlag.last = .last)
  simp only [receiveDataNodeUpdate, accepted, if_true]
  have room := collects.room
  by_cases even : pieces % 2 = 0
  · rw [if_pos even] at room
    have within := (withinLimit_of_odd (by omega) bufferLen
      (node.buf.data.length + buf.data.length)).mpr (collects.reserved even)
    rw [reciveDataUpdate_room (by omega), if_pos within]
    rfl
  · rw [if_neg even] at room
    have size : grownSize node .last buf =
        node.buf.data.length + buf.data.length := by
      exact Nat.add_comm _ _
    have within := withinLimit_of_even (by omega : (pieces + 1) % 2 = 0)
      bufferLen (node.buf.data.length + buf.data.length)
    rw [reciveDataUpdate_grow (by omega), size]
    by_cases large :
        node.buf.data.length + buf.data.length > maxTxRxDataLen
    · rw [if_pos large, if_neg (fun holds =>
        Nat.not_lt.mpr (within.mp holds) large)]
      rfl
    · rw [if_neg large, if_pos (within.mpr (Nat.le_of_not_lt large))]
      rfl

end

theorem getDataFragmentNums_mul_lt (data : Bytes) (positive : 0 < bufferLen) :
    getDataFragmentNums bufferLen data * bufferLen <
      data.length + bufferLen := by
  rw [getDataFragmentNums, if_neg (by omega)]
  have below := Nat.div_mul_le_self (data.length + bufferLen - 1) bufferLen
  omega

variable {data : Bytes}

theorem not_withinLimit (positive : 0 < bufferLen) (odd : pieces % 2 = 1)
    (large : (pieces + 2) * bufferLen > maxTxRxDataLen)
    (missing : 2 ≤ getDataFragmentNums bufferLen data) :
    ¬ WithinLimit (pieces + getDataFragmentNums bufferLen data) bufferLen
      (pieces * bufferLen + data.length) := by
  have full := getDataFragmentNums_mul_lt data positive
  generalize getDataFragmentNums bufferLen data = count at missing full ⊢
  rw [Nat.add_mul] at large
  by_cases even : (pieces + count) % 2 = 0
  · rw [withinLimit_of_even even]
    have more : 3 * bufferLen ≤ count * bufferLen :=
      Nat.mul_le_mul_right _ (by omega)
    omega
  · rw [withinLimit_of_odd (by omega), Nat.add_mul]
    have more : 2 * bufferLen ≤ count * bufferLen :=
      Nat.mul_le_mul_right _ missing
    omega

theorem getDataFragmentNums_pos (positive : 0 < bufferLen)
    (filled : 0 < data.length) :
    0 < getDataFragmentNums bufferLen data := by
  rw [getDataFragmentNums, if_neg (by omega)]
  exact Nat.div_pos (by omega) positive

variable {flag : Option PdFlag} (lcid : Nat)

theorem splitLoop_continuing (positive : 0 < bufferLen)
    (within : WithinPacket flag) (filled : 0 < data.length) :
    ∀ fragment ∈ (splitLoop lcid bufferLen
        (getDataFragmentNums bufferLen data) flag data).1,
      fragment.pdFlag = .middle ∨ fragment.pdFlag = .last := by
  intro fragment member
  have tagged := mem_map_of_mem (f := (·.pdFlag)) member
  rw [(splitLoop_within lcid positive within filled).1] at tagged
  rcases mem_append.mp tagged with middles | last
  · exact .inl (eq_of_mem_replicate middles)
  · exact .inr (mem_singleton.mp last)

theorem rebuild_collects (lcid : Nat) (positive : 0 < bufferLen)
    (short : bufferLen ≤ maxPacketLen) (within : WithinPacket flag)
    (collects : Collects bufferLen pieces node) (filled : 0 < data.length) :
    let count := getDataFragmentNums bufferLen data
    let split := (splitLoop lcid bufferLen count flag data).1
    rebuild (some node) split = (if WithinLimit (pieces + count) bufferLen
            (node.buf.data.length + data.length) then
          [node.buf.data ++ data] else []) ∧
      rebuildNode (some node) split = none := by
  generalize size : data.length = length
  simp only [maxPacketLen, header] at short
  induction length using Nat.strongRecOn generalizing data flag node pieces with
  | _ length induction =>
    by_cases longer : bufferLen < data.length
    · have exact : (bufferLen + header) % 2 ^ 16 - header = bufferLen := by
        simp only [header]
        omega
      have whole : (data.take bufferLen).length = bufferLen :=
        length_take_of_le (Nat.le_of_lt longer)
      have remaining : 0 < (data.drop bufferLen).length := by
        rw [length_drop]
        omega
      have counted := getDataFragmentNums_of_gt positive longer
      rw [counted]
      simp only [splitLoop, pdFlagGet_withinPacket within, if_pos longer, exact]
      rw [rebuild_cons, rebuildNode_cons]
      obtain ⟨odd, large, dropped⟩ | ⟨grown, added, content, next⟩ :=
        collects.middle positive (show (arrivedBuff
          ⟨lcid, .middle, data.take bufferLen⟩).data.length = bufferLen
          from whole)
      · have step : acbPacketReceived (some node)
            ⟨lcid, .middle, data.take bufferLen⟩ = (none, none) := by
          simp only [acbPacketReceived, dropped]
        have missing : 2 ≤ getDataFragmentNums bufferLen data := by
          have more := getDataFragmentNums_pos positive remaining
          omega
        have refused := not_withinLimit positive odd large missing
        rw [counted, ← collects.stored, size] at refused
        rw [step, if_neg refused]
        exact rebuild_orphans (splitLoop_continuing lcid positive
          (.inr rfl) remaining)
      · have step : acbPacketReceived (some node)
            ⟨lcid, .middle, data.take bufferLen⟩ = (some grown, none) := by
          simp only [acbPacketReceived, added]
        have shorter : (data.drop bufferLen).length < length := by
          rw [length_drop]
          omega
        have later := induction _ shorter
          (.inr rfl : WithinPacket (some .middle)) next remaining rfl
        have joined : grown.buf.data ++ data.drop bufferLen =
            node.buf.data ++ data := by
          rw [content, append_assoc]
          exact congrArg _ (take_append_drop _ _)
        have lengths := congrArg List.length joined
        rw [length_append, length_append, size] at lengths
        dsimp only at later
        rw [joined, lengths, Nat.add_right_comm, Nat.add_assoc] at later
        rw [step]
        exact later
    · have fits : data.length ≤ bufferLen := by omega
      have exact : (data.length + header) % 2 ^ 16 - header =
          data.length := by
        simp only [header]
        omega
      have completed : (receiveDataNodeUpdate (some node) .last
          (arrivedBuff ⟨lcid, .last, data⟩)).map (·.buf.data) =
            if WithinLimit (pieces + 1) bufferLen
              (node.buf.data.length + length) then
              some (node.buf.data ++ data)
            else none := by
        rw [← size]
        exact collects.last filled fits
      rw [getDataFragmentNums_of_le filled fits]
      simp only [splitLoop, pdFlagGet_withinPacket within, if_neg longer,
        exact, take_length]
      rw [rebuild_cons, rebuildNode_cons, acbPacketReceived_last, completed]
      refine ⟨?_, rfl⟩
      split <;> rfl

/-- A packet is rebuilt from its fragments exactly when it is admitted, and
leaves no node behind in either case. -/
theorem rebuild_packet (counted : 0 < getDataFragmentNums bufferLen data)
    (short : ShortFragments bufferLen data) :
    rebuild none (packetFragments lcid bufferLen data) =
        (if Admitted bufferLen data then [data] else []) ∧
      rebuildNode none (packetFragments lcid bufferLen data) = none := by
  have positive := bufferLen_pos_of_counted counted
  have filled := length_pos_of_counted counted
  simp only [ShortFragments, maxPacketLen, header] at short
  unfold packetFragments
  by_cases longer : bufferLen < data.length
  · have exact : (bufferLen + header) % 2 ^ 16 - header = bufferLen := by
      simp only [header]
      omega
    have whole : (data.take bufferLen).length = bufferLen :=
      length_take_of_le (Nat.le_of_lt longer)
    have started : Collects bufferLen 1
        ⟨.first, arrivedBuff ⟨lcid, .first, data.take bufferLen⟩⟩ :=
      ⟨.inl rfl, by rw [Nat.one_mul]; exact whole, rfl, by simp⟩
    have remaining : 0 < (data.drop bufferLen).length := by
      rw [length_drop]
      omega
    have rest := rebuild_collects lcid positive
      (by simp only [maxPacketLen, header]; omega)
      (.inl rfl : WithinPacket (some .first)) started remaining
    have joined : (data.take bufferLen).length +
        (data.drop bufferLen).length = data.length := by
      rw [← length_append, take_append_drop]
    simp only [arrivedBuff, take_append_drop, joined, Nat.add_comm 1] at rest
    have admitted : Admitted bufferLen data ↔
        WithinLimit (getDataFragmentNums bufferLen (data.drop bufferLen) + 1)
          bufferLen data.length := by
      rw [Admitted, getDataFragmentNums_of_gt positive longer]
      exact or_iff_right (Nat.not_le.mpr longer)
    rw [getDataFragmentNums_of_gt positive longer]
    simp only [splitLoop, pdFlagGet_atBoundary (.inl rfl), if_pos longer,
      exact, admitted]
    exact rest
  · have exact : (data.length + header) % 2 ^ 16 - header = data.length := by
      simp only [header]
      omega
    have admitted : Admitted bufferLen data := .inl (by omega)
    rw [getDataFragmentNums_of_le filled (by omega), if_pos admitted]
    simp only [splitLoop, pdFlagGet_atBoundary (.inl rfl), if_neg longer,
      exact, take_length]
    exact ⟨rfl, rfl⟩

theorem splitLoop_payload (flag : Option PdFlag) (positive : 0 < bufferLen)
    (filled : 0 < data.length) (short : ShortFragments bufferLen data) :
    (splitLoop lcid bufferLen (getDataFragmentNums bufferLen data) flag
      data).1.flatMap (·.payload) = data := by
  generalize size : data.length = length
  induction length using Nat.strongRecOn generalizing data flag with
  | _ length induction =>
    simp only [ShortFragments, maxPacketLen, header] at short
    by_cases longer : bufferLen < data.length
    · have exact : (bufferLen + header) % 2 ^ 16 - header = bufferLen := by
        simp only [header]
        omega
      have rest := induction (data.drop bufferLen).length
        (by rw [length_drop]; omega) (some (pdFlagGet flag
          data.length bufferLen)) (by rw [length_drop]; omega)
        (.inl (by simp only [maxPacketLen, header]; omega)) rfl
      rw [getDataFragmentNums_of_gt positive longer]
      simp only [splitLoop, if_pos longer, exact, flatMap_cons]
      rw [rest, take_append_drop]
    · have exact : (data.length + header) % 2 ^ 16 - header =
          data.length := by
        simp only [header]
        omega
      rw [getDataFragmentNums_of_le filled (by omega)]
      simp only [splitLoop, if_neg longer, exact, take_length,
        flatMap_cons, flatMap_nil, append_nil]

theorem splitLoop_payload_lt (lcid bufferLen fragmentCnt : Nat)
    (flag : Option PdFlag) (data : Bytes) :
    ∀ fragment ∈ (splitLoop lcid bufferLen fragmentCnt flag data).1,
      fragment.payload.length < 2 ^ 16 := by
  induction fragmentCnt generalizing flag data with
  | zero => simp [splitLoop]
  | succ fragmentCnt induction =>
    refine forall_mem_cons.mpr ⟨?_, induction _ _⟩
    rw [length_take]
    omega

structure Outgoing where
  bufferLen : Nat
  data : DataStru
  deriving DecidableEq

namespace Outgoing

/-- What the callers of `DLI_SplitData` provide. -/
structure Valid (packet : Outgoing) : Prop where
  buffer : packet.bufferLen < 2 ^ 16
  reserved : header ≤ packet.data.buf.head.length
  counted : 0 < getDataFragmentNums packet.bufferLen packet.data.buf.data
  bounded : getDataFragmentNums packet.bufferLen packet.data.buf.data ≤
    maxFragmentNum
  named : packet.data.lcid < 2 ^ connectionHdlBitLen

def Short (packet : Outgoing) : Prop :=
  ShortFragments packet.bufferLen packet.data.buf.data

def Rebuildable (packet : Outgoing) : Prop :=
  Admitted packet.bufferLen packet.data.buf.data

instance decidableRebuildable (packet : Outgoing) :
    Decidable packet.Rebuildable :=
  decidableAdmitted _ _

def fragments (packet : Outgoing) : List Fragment :=
  packetFragments packet.data.lcid packet.bufferLen packet.data.buf.data

structure SplitInto (packet : Outgoing) (bytes : List Bytes) : Prop where
  framed : Framed (bytes.map parseFragment)
  linked : ∀ fragment ∈ bytes.map parseFragment,
    fragment.lcid = packet.data.lcid
  whole : (bytes.map parseFragment).flatMap (·.payload) = packet.data.buf.data

end Outgoing

/-- Packets split one after another: the bytes of the fragments of each, unless
`DLI_SplitData` fails for it. -/
def splitAll : Option PdFlag → List Outgoing → List (Option (List Bytes))
  | _, [] => []
  | flag, packet :: later =>
    let result := packet.data.splitData packet.bufferLen flag
      (newFragmentBufs packet.bufferLen packet.data.buf.data)
    result.fragmentBuf.map (·.map (·.data)) ::
      splitAll result.pdFlag later

/-- The same fragments with those of each link in the same order. -/
def Interleaved (sent feed : List Bytes) : Prop :=
  ∀ lcid, feed.filter (fun bytes => (parseFragment bytes).lcid = lcid) =
    sent.filter (fun bytes => (parseFragment bytes).lcid = lcid)

/-- All packets are split, and whatever the interleaving of the fragments of
different links, exactly the expected packets are handed on, in the order of
each link. -/
def Rebuilds (packets expected : List Outgoing) : Prop :=
  ∃ sent, splitAll none packets = sent.map some ∧
    List.Forall₂ Outgoing.SplitInto packets sent ∧
    ∀ feed, Interleaved sent.flatten feed → ∀ lcid,
      handedTo lcid (handed [] feed) =
        (expected.filter (·.data.lcid = lcid)).map (·.data.buf.data)

namespace Outgoing

def bytes (packet : Outgoing) : List Bytes :=
  packet.fragments.map packet.data.wire

variable {packet : Outgoing}

theorem fragments_lcid (packet : Outgoing) :
    ∀ fragment ∈ packet.fragments, fragment.lcid = packet.data.lcid :=
  splitLoop_lcid _ _ _ _ _

theorem Valid.fragments_payload (valid : packet.Valid) (short : packet.Short) :
    packet.fragments.flatMap (·.payload) = packet.data.buf.data :=
  splitLoop_payload _ _ (bufferLen_pos_of_counted valid.counted)
    (length_pos_of_counted valid.counted) short

theorem Valid.parse_bytes (valid : packet.Valid) :
    packet.bytes.map parseFragment = packet.fragments := by
  have readBack : ∀ fragment ∈ packet.fragments,
      (parseFragment ∘ packet.data.wire) fragment = id fragment := by
    intro fragment member
    exact parseFragment_wire valid.named (packet.fragments_lcid fragment member)
  rw [bytes, map_map, map_congr_left readBack, map_id]

theorem Valid.splitData (valid : packet.Valid) (short : packet.Short)
    {flag : Option PdFlag} (boundary : AtBoundary flag) :
    let result := packet.data.splitData packet.bufferLen flag
      (newFragmentBufs packet.bufferLen packet.data.buf.data)
    result.fragmentBuf.map (·.map (·.data)) = some packet.bytes ∧
      Framed packet.fragments ∧ AtBoundary result.pdFlag := by
  have count : (newFragmentBufs packet.bufferLen packet.data.buf.data).length =
        getDataFragmentNums packet.bufferLen packet.data.buf.data :=
    length_replicate
  have accepted : 0 < (newFragmentBufs packet.bufferLen
      packet.data.buf.data).length ∧ (newFragmentBufs packet.bufferLen
        packet.data.buf.data).length ≤ maxFragmentNum := by
    rw [count]
    exact ⟨valid.counted, valid.bounded⟩
  have split : Dli.splitData packet.data.lcid packet.bufferLen
      (getDataFragmentNums packet.bufferLen packet.data.buf.data) flag
      packet.data.buf.data = some (splitLoop packet.data.lcid packet.bufferLen
        (getDataFragmentNums packet.bufferLen packet.data.buf.data) flag
        packet.data.buf.data) :=
    if_pos ⟨valid.counted, valid.bounded⟩
  obtain ⟨named, framed, after⟩ := splitData_spec boundary split
  have inside : packet.data.buf.head.length + 0 ≤ (packet.data.buf.head ++
      packet.data.buf.data ++ packet.data.buf.tail).length := by
    simp
  have rest : (packet.data.buf.head ++ packet.data.buf.data ++
      packet.data.buf.tail).drop (packet.data.buf.head.length + 0) =
        packet.data.buf.data.drop 0 ++ packet.data.buf.tail := by
    simp
  obtain ⟨left, bufs, stored, contents⟩ := splitDataLoop_spec valid.reserved
    short (getDataFragmentNums packet.bufferLen packet.data.buf.data) flag
    inside rest (Nat.zero_le _)
  rw [drop_zero] at left contents
  rw [named] at framed contents
  simp only [DataStru.splitData, if_pos accepted]
  refine ⟨?_, framed, ?_⟩
  · rw [newFragmentBufs, stored, Option.map_some, contents]
    rfl
  · rw [newFragmentBufs, left]
    exact after

/-- The fragments of packets of one link that arrive in order rebuild the
packets that stay within the limit. -/
theorem rebuild_fragments {packets : List Outgoing}
    (valid : ∀ packet ∈ packets, packet.Valid)
    (short : ∀ packet ∈ packets, packet.Short) :
    rebuild none (packets.flatMap Outgoing.fragments) =
      (packets.filter (·.Rebuildable)).map (·.data.buf.data) := by
  induction packets with
  | nil => rfl
  | cons packet packets induction =>
    have rest := induction (fun later member => valid later (.tail _ member))
      (fun later member => short later (.tail _ member))
    obtain ⟨output, node⟩ := rebuild_packet packet.data.lcid
      (valid packet (by simp)).counted (short packet (by simp))
    rw [flatMap_cons, rebuild_append]
    have whole : packet.fragments = packetFragments packet.data.lcid
      packet.bufferLen packet.data.buf.data := rfl
    rw [whole, output, node, rest]
    by_cases admitted : Admitted packet.bufferLen packet.data.buf.data
    · have kept : packet.Rebuildable := admitted
      rw [if_pos admitted, filter_cons_of_pos (by simpa using kept)]
      rfl
    · have lost : ¬ packet.Rebuildable := admitted
      rw [if_neg admitted, filter_cons_of_neg (by simpa using lost)]
      rfl

theorem bytes_measured (packet : Outgoing) :
    ∀ bytes ∈ packet.bytes, Measured bytes := by
  exact forall_mem_map.mpr fun fragment inside =>
    measured_wire (splitLoop_payload_lt _ _ _ _ _ fragment inside)

theorem Valid.splitInto (valid : packet.Valid) (short : packet.Short) :
    packet.SplitInto packet.bytes := by
  have readBack := valid.parse_bytes
  have split := valid.splitData short (.inl rfl : AtBoundary none)
  constructor <;> rw [readBack]
  · exact split.2.1
  · exact packet.fragments_lcid
  · exact valid.fragments_payload short

end Outgoing

variable {packets : List Outgoing} {feed : List Bytes}

theorem splitAll_eq (boundary : AtBoundary flag)
    (valid : ∀ packet ∈ packets, packet.Valid)
    (short : ∀ packet ∈ packets, packet.Short) :
    splitAll flag packets = (packets.map Outgoing.bytes).map some := by
  induction packets generalizing flag with
  | nil => rfl
  | cons packet packets induction =>
    obtain ⟨output, -, after⟩ := (valid packet (by simp)).splitData
      (short packet (by simp)) boundary
    have rest := induction after
      (fun later member => valid later (.tail _ member))
      (fun later member => short later (.tail _ member))
    rw [splitAll, output, rest, map_cons, map_cons]

theorem filter_fragments (packets : List Outgoing) (lcid : Nat) :
    (packets.flatMap Outgoing.fragments).filter (·.lcid = lcid) =
      (packets.filter (·.data.lcid = lcid)).flatMap Outgoing.fragments := by
  induction packets with
  | nil => rfl
  | cons packet packets induction =>
    rw [flatMap_cons, filter_append, induction]
    by_cases own : packet.data.lcid = lcid
    · have all : packet.fragments.filter (·.lcid = lcid) =
          packet.fragments := by
        apply filter_eq_self.mpr
        intro fragment member
        simpa [packet.fragments_lcid fragment member] using own
      rw [all, filter_cons_of_pos (by simpa using own),
        flatMap_cons]
    · have none : packet.fragments.filter (·.lcid = lcid) = [] := by
        apply filter_eq_nil_iff.mpr
        intro fragment member
        simpa [packet.fragments_lcid fragment member] using own
      rw [none, filter_cons_of_neg (by simpa using own),
        nil_append]

theorem map_parse_bytes (valid : ∀ packet ∈ packets, packet.Valid) :
    (packets.flatMap Outgoing.bytes).map parseFragment =
      packets.flatMap Outgoing.fragments := by
  induction packets with
  | nil => rfl
  | cons packet packets induction =>
    have rest := induction fun later member =>
      valid later (.tail _ member)
    rw [flatMap_cons, flatMap_cons, map_append, rest,
      (valid packet (by simp)).parse_bytes]

theorem Interleaved.mem {sent : List Bytes}
    (interleaved : Interleaved sent feed) {bytes : Bytes}
    (member : bytes ∈ feed) : bytes ∈ sent := by
  have own : bytes ∈ feed.filter (fun other =>
      (parseFragment other).lcid = (parseFragment bytes).lcid) := by
    simpa using member
  rw [interleaved] at own
  exact mem_of_mem_filter own

/-- Whatever the interleaving, the packets of each link that stay within the
limit are handed on in order. -/
theorem handed_interleaved (valid : ∀ packet ∈ packets, packet.Valid)
    (short : ∀ packet ∈ packets, packet.Short)
    (interleaved : Interleaved (packets.flatMap Outgoing.bytes) feed)
    (lcid : Nat) : handedTo lcid (handed [] feed) =
      ((packets.filter (·.Rebuildable)).filter (·.data.lcid = lcid)).map
        (·.data.buf.data) := by
  have measured : ∀ bytes ∈ feed, Measured bytes := by
    intro bytes member
    obtain ⟨packet, -, inside⟩ := mem_flatMap.mp (interleaved.mem member)
    exact packet.bytes_measured bytes inside
  have own : (feed.map parseFragment).filter (·.lcid = lcid) =
      (packets.filter (·.data.lcid = lcid)).flatMap Outgoing.fragments := by
    rw [← filter_fragments, ← map_parse_bytes valid, filter_map, filter_map]
    exact congrArg _ (interleaved lcid)
  rw [handed_eq_rebuild formed_nil measured, own, filter_comm]
  apply Outgoing.rebuild_fragments
  · intro packet member
    exact valid packet (mem_of_mem_filter member)
  · intro packet member
    exact short packet (mem_of_mem_filter member)

/-- Packets whose fragments are short enough for a 16-bit length are all
split, and the ones that stay within the limit of the rebuilding side are
handed on there, whatever was split before and however the links are
interleaved. -/
theorem splitAll_rebuilds (packets : List Outgoing)
    (valid : ∀ packet ∈ packets, packet.Valid)
    (short : ∀ packet ∈ packets, packet.Short) :
    Rebuilds packets (packets.filter (·.Rebuildable)) := by
  refine ⟨packets.map Outgoing.bytes, splitAll_eq (.inl rfl) valid short,
    ?_, ?_⟩
  · rw [forall₂_map_right_iff, forall₂_same]
    intro packet member
    exact (valid packet member).splitInto (short packet member)
  · intro feed interleaved
    exact handed_interleaved valid short interleaved

def smallPackets : List Outgoing :=
  [{ bufferLen := 2
     data := { lcid := 7, type := 0xA3, ts := 0, prio := 0
               buf := ⟨[0, 0, 0, 0, 0], [1, 2, 3, 4, 5], []⟩ } },
   { bufferLen := 2
     data := { lcid := 9, type := 0xA3, ts := 0, prio := 0
               buf := ⟨[0, 0, 0, 0, 0], [6, 7], []⟩ } }]

theorem splitAll_rebuilds_smallPackets :
    smallPackets.filter (·.Rebuildable) = smallPackets ∧
      Rebuilds smallPackets (smallPackets.filter (·.Rebuildable)) := by
  refine ⟨by decide, splitAll_rebuilds smallPackets ?_ ?_⟩
  · intro packet member
    simp only [smallPackets, mem_cons, not_mem_nil, or_false] at member
    rcases member with rfl | rfl <;> constructor <;> decide
  · intro packet member
    simp only [smallPackets, mem_cons, not_mem_nil, or_false] at member
    rcases member with rfl | rfl <;> exact .inl (by decide)

/-- A packet of two fragments that is longer than `DLI_MAX_TXRX_DATA_LEN`. -/
def oversized : Outgoing :=
  { bufferLen := 51201
    data := { lcid := 1, type := 0xA3, ts := 0, prio := 0
              buf := ⟨List.replicate header 0,
                List.replicate (maxTxRxDataLen + 1) 0, []⟩ } }

theorem oversized_length : oversized.data.buf.data.length = 102401 :=
  length_replicate

theorem oversized_count :
    getDataFragmentNums oversized.bufferLen oversized.data.buf.data = 2 := by
  rw [getDataFragmentNums, oversized_length]
  rfl

theorem oversized_valid : oversized.Valid where
  buffer := by decide
  reserved := by decide
  counted := by
    rw [oversized_count]
    decide
  bounded := by
    rw [oversized_count]
    decide
  named := by decide

theorem oversized_notRebuildable : ¬ oversized.Rebuildable := by
  rw [Outgoing.Rebuildable, Admitted, oversized_count, oversized_length]
  decide

theorem oversized_notRebuilt :
    oversized.Valid ∧ ¬ Rebuilds [oversized] [oversized] := by
  refine ⟨oversized_valid, ?_⟩
  rintro ⟨sent, split, -, rebuilt⟩
  have valid : ∀ packet ∈ [oversized], packet.Valid := by
    simpa using oversized_valid
  have short : ∀ packet ∈ [oversized], packet.Short := by
    intro packet member
    rw [mem_singleton.mp member]
    exact .inl (by decide)
  have same : [oversized].map Outgoing.bytes = sent := by
    rw [splitAll_eq (.inl rfl) valid short] at split
    exact map_injective_iff.mpr (Option.some_injective _) split
  have inOrder : Interleaved ([oversized].flatMap Outgoing.bytes)
      sent.flatten := by
    rw [← same, flatMap_def]
    exact fun _ => rfl
  have expected := rebuilt sent.flatten (fun _ => rfl) 1
  rw [handed_interleaved valid short inOrder,
    filter_cons_of_neg (by simpa using oversized_notRebuildable)]
    at expected
  cases expected

end NearLink.Dli
