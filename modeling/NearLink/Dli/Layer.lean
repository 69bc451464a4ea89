import NearLink.Sdf.Buff

/-!
# Fragments of the device layer

`dli_layer.c`: a packet is split into fragments that fit one controller buffer
(`DLI_SplitData`), each tagged as the first, a middle, the last or the only
one, and the peer rebuilds packets from the tags (`DLI_AcbPacketReceived`).  A
fragment keeps the fields the header is encoded from instead of its five
header bytes.
-/

namespace NearLink.Dli

open Sdf List

def header : Nat := 5

def maxTxRxDataLen : Nat := 102400

/-- `DLI_MAX_FRAGMEN_NUM` -/
def maxFragmentNum : Nat := 128

inductive PdFlag where
  | full
  | first
  | middle
  | last
  deriving DecidableEq

def PdFlag.value : PdFlag → Nat
  | full => 0
  | first => 1
  | middle => 2
  | last => 3

/-- A fragment as `DLI_SplitData` writes it. -/
structure Fragment where
  lcid : Nat
  pdFlag : PdFlag
  payload : Bytes
  deriving DecidableEq

/-- `DLI_PdFlagGet`.  The previous flag is kept across packets; it is `none`
before the first one (`UINT8_MAX`). -/
def pdFlagGet (previous : Option PdFlag) (remainLen oneSendLen : Nat) :
    PdFlag :=
  match previous with
  | some .first | some .middle =>
    if remainLen > oneSendLen then .middle else .last
  | some .last | some .full | none =>
    if remainLen > oneSendLen then .first else .full

def getDataFragmentNums (bufferLen : Nat) (data : Bytes) : Nat :=
  if bufferLen = 0 then 0 else (data.length + bufferLen - 1) / bufferLen

/-- The loop of `DLI_SplitData` over the fragments that remain, with the data
that remains.  The length that is copied, header included, is 16 bits wide. -/
@[grind =] def splitLoop (lcid bufferLen : Nat) :
    Nat → Option PdFlag → Bytes → List Fragment × Option PdFlag
  | 0, flag, _ => ([], flag)
  | fragmentCnt + 1, flag, data =>
    let pdFlag := pdFlagGet flag data.length bufferLen
    let sendLen := if data.length > bufferLen then bufferLen else data.length
    let fragmentLen := (sendLen + header) % 2 ^ 16
    let later :=
      splitLoop lcid bufferLen fragmentCnt (some pdFlag) (data.drop sendLen)
    ({ lcid, pdFlag, payload := data.take (fragmentLen - header) } ::
      later.1, later.2)

/-- `DLI_SplitData` into buffers that have room for a whole fragment each. -/
def splitData (lcid bufferLen fragmentCnt : Nat) (flag : Option PdFlag)
    (data : Bytes) : Option (List Fragment × Option PdFlag) :=
  if fragmentCnt > 0 ∧ fragmentCnt ≤ maxFragmentNum then
    some (splitLoop lcid bufferLen fragmentCnt flag data)
  else none

variable {bufferLen lcid : Nat} {flag : Option PdFlag} {data : Bytes}
  {fragments : List Fragment} {node : Option RecvDataNode}

theorem splitData_counted {fragmentCnt : Nat}
    {result : List Fragment × Option PdFlag}
    (split : splitData lcid bufferLen fragmentCnt flag data = some result) :
    0 < fragmentCnt := by
  unfold splitData at split
  split at split
  next counted =>
    exact counted.1
  · cases split

/-- No packet is under way: the next fragment starts one. -/
def AtBoundary (flag : Option PdFlag) : Prop :=
  flag = none ∨ flag = some .last ∨ flag = some .full

def WithinPacket (flag : Option PdFlag) : Prop :=
  flag = some .first ∨ flag = some .middle

def packetFragments (lcid bufferLen : Nat) (data : Bytes) : List Fragment :=
  (splitLoop lcid bufferLen (getDataFragmentNums bufferLen data) none data).1

theorem pdFlagGet_atBoundary (boundary : AtBoundary flag)
    (remainLen oneSendLen : Nat) :
    pdFlagGet flag remainLen oneSendLen =
      if remainLen > oneSendLen then .first else .full := by
  rcases boundary with rfl | rfl | rfl <;> rfl

theorem pdFlagGet_withinPacket (within : WithinPacket flag)
    (remainLen oneSendLen : Nat) :
    pdFlagGet flag remainLen oneSendLen =
      if remainLen > oneSendLen then .middle else .last := by
  rcases within with rfl | rfl <;> rfl

theorem getDataFragmentNums_of_le (filled : 0 < data.length)
    (fits : data.length ≤ bufferLen) :
    getDataFragmentNums bufferLen data = 1 := by
  have positive : bufferLen ≠ 0 := by omega
  rw [getDataFragmentNums, if_neg positive]
  rw [Nat.div_eq_iff (by omega)]
  omega

theorem getDataFragmentNums_of_gt (positive : 0 < bufferLen)
    (longer : bufferLen < data.length) :
    getDataFragmentNums bufferLen data =
      getDataFragmentNums bufferLen (data.drop bufferLen) + 1 := by
  have different : bufferLen ≠ 0 := by omega
  rw [getDataFragmentNums, getDataFragmentNums, if_neg different,
    if_neg different, length_drop]
  have shifted : data.length + bufferLen - 1 =
      (data.length - bufferLen + bufferLen - 1) + bufferLen := by omega
  rw [shifted, Nat.add_div_right _ positive]

section

variable (counted : 0 < getDataFragmentNums bufferLen data)
include counted

theorem bufferLen_pos_of_counted : 0 < bufferLen := by
  apply Nat.pos_of_ne_zero
  rintro rfl
  simp [getDataFragmentNums] at counted

theorem length_pos_of_counted : 0 < data.length := by
  have positive := bufferLen_pos_of_counted counted
  apply Nat.pos_of_ne_zero
  intro empty
  rw [getDataFragmentNums, if_neg (by omega), empty,
    Nat.div_eq_of_lt (by omega)] at counted
  exact Nat.lt_irrefl 0 counted

end

theorem splitLoop_atBoundary (boundary : AtBoundary flag)
    (lcid bufferLen fragmentCnt : Nat) (data : Bytes) :
    (splitLoop lcid bufferLen fragmentCnt flag data).1 =
      (splitLoop lcid bufferLen fragmentCnt none data).1 := by
  cases fragmentCnt with
  | zero => rfl
  | succ fragmentCnt =>
    simp only [splitLoop, pdFlagGet_atBoundary boundary,
      pdFlagGet_atBoundary (.inl rfl)]

section

variable (lcid bufferLen fragmentCnt : Nat) (flag : Option PdFlag)
  (data : Bytes)

theorem splitLoop_length :
    (splitLoop lcid bufferLen fragmentCnt flag data).1.length =
      fragmentCnt := by
  induction fragmentCnt generalizing flag data with
  | zero => rfl
  | succ fragmentCnt induction => simp [splitLoop, induction]

theorem splitLoop_lcid :
    ∀ fragment ∈ (splitLoop lcid bufferLen fragmentCnt flag data).1,
      fragment.lcid = lcid := by
  induction fragmentCnt generalizing flag data with
  | zero => simp [splitLoop]
  | succ fragmentCnt induction => exact forall_mem_cons.mpr ⟨rfl, induction _ _⟩

end

/-- The fragments after the first one of a packet are middle ones, then the
last one, and the packet is over. -/
theorem splitLoop_within (lcid : Nat) (positive : 0 < bufferLen)
    (within : WithinPacket flag) (filled : 0 < data.length) :
    let split := splitLoop lcid bufferLen
      (getDataFragmentNums bufferLen data) flag data
    split.1.map (·.pdFlag) =
        List.replicate (getDataFragmentNums bufferLen data - 1) .middle ++
          [.last] ∧
      split.2 = some .last := by
  generalize size : data.length = length
  induction length using Nat.strongRecOn generalizing data flag with
  | _ length induction =>
    by_cases longer : bufferLen < data.length
    · have shorter : (data.drop bufferLen).length < length := by
        rw [length_drop]
        omega
      have rest := induction _ shorter (.inr rfl : WithinPacket
        (some .middle)) (by rw [length_drop]; omega) rfl
      have nonzero :
          0 < getDataFragmentNums bufferLen (data.drop bufferLen) := by
        rw [getDataFragmentNums, if_neg (by omega), length_drop]
        apply Nat.div_pos _ positive
        omega
      obtain ⟨fewer, count⟩ : ∃ fewer,
          getDataFragmentNums bufferLen (data.drop bufferLen) =
            fewer + 1 := ⟨_, (Nat.succ_pred_eq_of_pos nonzero).symm⟩
      rw [getDataFragmentNums_of_gt positive longer]
      simp only [splitLoop, pdFlagGet_withinPacket within, if_pos longer]
      rw [count] at rest ⊢
      simpa [replicate_succ] using rest
    · have fits : data.length ≤ bufferLen := by omega
      rw [getDataFragmentNums_of_le filled fits]
      simp [splitLoop, pdFlagGet_withinPacket within, longer]

def Framed (fragments : List Fragment) : Prop :=
  fragments.map (·.pdFlag) = [.full] ∨ ∃ middles, fragments.map (·.pdFlag) =
      .first :: (List.replicate middles .middle ++ [.last])

theorem splitData_spec {after : Option PdFlag} (boundary : AtBoundary flag)
    (split : splitData lcid bufferLen (getDataFragmentNums bufferLen data)
      flag data = some (fragments, after)) :
    fragments = packetFragments lcid bufferLen data ∧ Framed fragments ∧
      AtBoundary after := by
  unfold splitData at split
  split at split
  next counted =>
    have positive := bufferLen_pos_of_counted counted.1
    have filled := length_pos_of_counted counted.1
    rw [Option.some.injEq] at split
    have pieces := congrArg Prod.fst split
    have last := congrArg Prod.snd split
    dsimp only at pieces last
    refine ⟨?_, ?_⟩
    · rw [← pieces, packetFragments, splitLoop_atBoundary boundary]
    · by_cases longer : bufferLen < data.length
      · have rest := splitLoop_within lcid positive
          (.inl rfl : WithinPacket (some .first))
          (show 0 < (data.drop bufferLen).length by
            rw [length_drop]; omega)
        rw [getDataFragmentNums_of_gt positive longer] at pieces last
        simp only [splitLoop, pdFlagGet_atBoundary boundary,
          if_pos longer] at pieces last
        rw [← pieces, ← last, rest.2]
        refine ⟨.inr ⟨getDataFragmentNums bufferLen
          (data.drop bufferLen) - 1, ?_⟩, .inr (.inl rfl)⟩
        rw [map_cons, rest.1]
      · rw [getDataFragmentNums_of_le filled (by omega)] at pieces last
        simp only [splitLoop, pdFlagGet_atBoundary boundary,
          if_neg longer] at pieces last
        rw [← pieces, ← last]
        exact ⟨.inl rfl, .inr (.inr rfl)⟩
  · cases split

/-- `DLI_RecvDataNode` of one logical link. -/
structure RecvDataNode where
  pb : PdFlag
  buf : Buff

def isFirstPb (pb : PdFlag) : Bool := pb = .first ∨ pb = .full

def checkPb (prePb curPb : PdFlag) : Bool :=
  ¬ ((prePb ≠ .middle ∧ prePb = curPb) ∨ prePb.value > curPb.value)

/-- `DLI_ReciveDataUpdate`: append to the buffer of the node, or move to a
larger one, which after a middle fragment has room for one more. -/
def reciveDataUpdate (node : RecvDataNode) (pb : PdFlag) (buf : Buff) :
    Option RecvDataNode :=
  match node.buf.append buf.data with
  | some grown => some { node with buf := grown }
  | none =>
    let size := (if pb = .middle then 2 * buf.dataLen else buf.dataLen) +
      node.buf.dataLen
    if size > maxTxRxDataLen then none
    else do
      let newBuf ← (Buff.new size).append node.buf.data
      let grown ← newBuf.append buf.data
      return { pb, buf := grown }

/-- `DLI_ReceiveDataNodeUpdate` on the node of one logical link, with
allocations succeeding: the node that is kept afterwards. -/
def receiveDataNodeUpdate (node : Option RecvDataNode) (pb : PdFlag)
    (buf : Buff) : Option RecvDataNode :=
  match node with
  | none => if isFirstPb pb then some { pb, buf } else none
  | some node =>
    if checkPb node.pb pb then reciveDataUpdate node pb buf
    else if isFirstPb pb then some { pb, buf }
    else none

def arrivedBuff (fragment : Fragment) : Buff :=
  { head := [], data := fragment.payload, tail := [] }

/-- `DLI_AcbPacketReceived`: the node afterwards and the packet handed to
`DLI_AcbRecvHander`, if any. -/
def acbPacketReceived (node : Option RecvDataNode) (fragment : Fragment) :
    Option RecvDataNode × Option Bytes :=
  let buf := arrivedBuff fragment
  match fragment.pdFlag with
  | .full => (node, some fragment.payload)
  | .first => (receiveDataNodeUpdate node .first buf, none)
  | .middle => (receiveDataNodeUpdate node .middle buf, none)
  | .last =>
    match receiveDataNodeUpdate node .last buf with
    | some complete => (none, some complete.buf.data)
    | none => (none, none)

/-- The packets handed on for the fragments of one logical link, in order of
arrival. -/
@[grind =] def rebuild : Option RecvDataNode → List Fragment → List Bytes
  | _, [] => []
  | node, fragment :: fragments =>
    let received := acbPacketReceived node fragment
    received.2.toList ++ rebuild received.1 fragments

def rebuildNode (node : Option RecvDataNode) (fragments : List Fragment) :
    Option RecvDataNode :=
  fragments.foldl (fun node fragment => (acbPacketReceived node fragment).1)
    node

section

variable (node : Option RecvDataNode) (fragment : Fragment)
  (fragments : List Fragment)

theorem rebuild_cons :
    rebuild node (fragment :: fragments) =
      (acbPacketReceived node fragment).2.toList ++
        rebuild (acbPacketReceived node fragment).1 fragments :=
  rfl

theorem rebuildNode_cons :
    rebuildNode node (fragment :: fragments) =
      rebuildNode (acbPacketReceived node fragment).1 fragments :=
  rfl

end

theorem rebuild_append (node : Option RecvDataNode)
    (fragments later : List Fragment) :
    rebuild node (fragments ++ later) =
      rebuild node fragments ++ rebuild (rebuildNode node fragments) later := by
  induction fragments generalizing node with
  | nil => rfl
  | cons fragment fragments induction => simp [rebuild, rebuildNode, induction]

theorem rebuild_unfinished (unfinished : ∀ fragment ∈ fragments,
      fragment.pdFlag = .first ∨ fragment.pdFlag = .middle)
    (node : Option RecvDataNode) : rebuild node fragments = [] := by
  induction fragments generalizing node with
  | nil => rfl
  | cons fragment fragments induction =>
    have later := induction fun later member =>
      unfinished later (.tail _ member)
    rcases unfinished fragment (by simp) with tag | tag <;>
      simp [rebuild, acbPacketReceived, tag, later]

/-- The longest packet whose fragments have a length that fits their header
field. -/
def maxPacketLen : Nat := 2 ^ 16 - 1 - header

/-- The node of a link that has received the bytes `data` of a packet and
waits for more. -/
def Holds (node : Option RecvDataNode) (data : Bytes) : Prop :=
  ∃ waiting, node = some waiting ∧ waiting.buf.data = data ∧
    (waiting.pb = .first ∨ waiting.pb = .middle)

/-- A node that waits for more takes the next bytes, as long as the packet
stays small enough to leave room for one more fragment of the same size. -/
theorem reciveDataUpdate_holds (pb : PdFlag) (fragment : Fragment)
    (holds : Holds node data) (continues : pb = .middle ∨ pb = .last)
    (small : data.length + 2 * fragment.payload.length ≤ maxTxRxDataLen) :
    ∃ grown, receiveDataNodeUpdate node pb (arrivedBuff fragment) =
        some grown ∧ grown.buf.data = data ++ fragment.payload ∧
      (grown.pb = .first ∨ grown.pb = .middle ∨ grown.pb = pb) := by
  obtain ⟨waiting, rfl, rfl, tag⟩ := holds
  have accepted : checkPb waiting.pb pb = true := by
    rcases tag with tag | tag <;> rcases continues with rfl | rfl <;>
      simp [checkPb, tag, PdFlag.value]
  simp only [receiveDataNodeUpdate, accepted, if_true, reciveDataUpdate]
  by_cases room : (arrivedBuff fragment).data.length ≤ waiting.buf.tail.length
  · rw [Buff.append_eq_some room]
    refine ⟨_, rfl, rfl, ?_⟩
    rcases tag with tag | tag
    · exact .inl tag
    · exact .inr (.inl tag)
  · have full : waiting.buf.append (arrivedBuff fragment).data = none := by
      simp [Buff.append, Nat.lt_of_not_le room]
    have size : (if pb = .middle then 2 * (arrivedBuff fragment).dataLen
        else (arrivedBuff fragment).dataLen) + waiting.buf.dataLen ≤
          maxTxRxDataLen := by
      simp only [arrivedBuff, Buff.dataLen]
      split <;> omega
    have enough : waiting.buf.data.length + (arrivedBuff fragment).data.length ≤
          (if pb = .middle then 2 * (arrivedBuff fragment).dataLen
            else (arrivedBuff fragment).dataLen) + waiting.buf.dataLen := by
      simp only [Buff.dataLen]
      split <;> omega
    generalize (if pb = .middle then 2 * (arrivedBuff fragment).dataLen
      else (arrivedBuff fragment).dataLen) + waiting.buf.dataLen = total
      at size enough ⊢
    rw [full]
    simp only [Nat.not_lt.mpr size, if_false]
    have first : waiting.buf.data.length ≤ (Buff.new total).tail.length := by
      simp only [Buff.new, length_replicate]
      omega
    rw [Buff.append_eq_some first]
    simp only [Option.bind_eq_bind, Option.bind_some]
    rw [Buff.append_eq_some (by simp [Buff.new]; omega)]
    exact ⟨_, rfl, by simp [Buff.new, arrivedBuff], .inr (.inr rfl)⟩

theorem rebuild_within {received : Bytes} (lcid : Nat)
    (positive : 0 < bufferLen) (within : WithinPacket flag)
    (holds : Holds node received) (filled : 0 < data.length)
    (started : bufferLen ≤ received.length)
    (small : received.length + data.length ≤ maxPacketLen) :
    let split := (splitLoop lcid bufferLen
      (getDataFragmentNums bufferLen data) flag data).1
    rebuild node split = [received ++ data] ∧ rebuildNode node split = none := by
  generalize size : data.length = length
  simp only [maxPacketLen, header] at small
  induction length using Nat.strongRecOn generalizing
    data flag node received with
  | _ length induction =>
    by_cases longer : bufferLen < data.length
    · have exact : (bufferLen + header) % 2 ^ 16 - header = bufferLen := by
        simp only [header]
        omega
      have shorter : (data.drop bufferLen).length < length := by
        rw [length_drop]
        omega
      rw [getDataFragmentNums_of_gt positive longer]
      simp only [splitLoop, pdFlagGet_withinPacket within, if_pos longer, exact]
      obtain ⟨grown, updated, content, tag⟩ := reciveDataUpdate_holds
        .middle ⟨lcid, .middle, data.take bufferLen⟩ holds (.inl rfl) (by
          simp only [length_take, maxTxRxDataLen]
          omega)
      have step : acbPacketReceived node
          ⟨lcid, .middle, data.take bufferLen⟩ = (some grown, none) := by
        simp only [acbPacketReceived, updated]
      rw [rebuild_cons, rebuildNode_cons, step]
      have next : Holds (some grown) (received ++ data.take bufferLen) := by
        refine ⟨grown, rfl, content, ?_⟩
        tauto
      have rest := induction _ shorter
        (.inr rfl : WithinPacket (some .middle)) next
        (by rw [length_drop]; omega)
        (by rw [length_append]; omega)
        (by
          simp only [length_append, length_take, length_drop]
          omega) rfl
      simpa using rest
    · have fits : data.length ≤ bufferLen := by omega
      have exact : (data.length + header) % 2 ^ 16 - header =
          data.length := by
        simp only [header]
        omega
      rw [getDataFragmentNums_of_le filled fits]
      simp only [splitLoop, pdFlagGet_withinPacket within, if_neg longer,
        exact, take_length]
      obtain ⟨grown, updated, content, -⟩ := reciveDataUpdate_holds
        .last ⟨lcid, .last, data⟩ holds (.inr rfl) (by
          simp only [maxTxRxDataLen]
          omega)
      have step : acbPacketReceived node ⟨lcid, .last, data⟩ =
          (none, some (received ++ data)) := by
        simp only [acbPacketReceived, updated, content]
      rw [rebuild_cons, rebuildNode_cons, step]
      exact ⟨rfl, rfl⟩

theorem rebuild_packetFragments (lcid : Nat)
    (counted : 0 < getDataFragmentNums bufferLen data)
    (small : data.length ≤ maxPacketLen) :
    rebuild none (packetFragments lcid bufferLen data) = [data] ∧
      rebuildNode none (packetFragments lcid bufferLen data) = none := by
  have positive := bufferLen_pos_of_counted counted
  have filled := length_pos_of_counted counted
  simp only [maxPacketLen, header] at small
  unfold packetFragments
  by_cases longer : bufferLen < data.length
  · have exact : (bufferLen + header) % 2 ^ 16 - header = bufferLen := by
      simp only [header]
      omega
    rw [getDataFragmentNums_of_gt positive longer]
    simp only [splitLoop, pdFlagGet_atBoundary (.inl rfl), if_pos longer, exact]
    have started : Holds (acbPacketReceived none
        ⟨lcid, .first, data.take bufferLen⟩).1 (data.take bufferLen) :=
      ⟨_, rfl, rfl, .inl rfl⟩
    have rest := rebuild_within lcid positive
      (.inl rfl : WithinPacket (some .first)) started
      (show 0 < (data.drop bufferLen).length by
        rw [length_drop]; omega)
      (by rw [length_take]; omega)
      (by
        simp only [length_take, length_drop, maxPacketLen, header]
        omega)
    rw [take_append_drop] at rest
    exact rest
  · have exact : (data.length + header) % 2 ^ 16 - header = data.length := by
      simp only [header]
      omega
    rw [getDataFragmentNums_of_le filled (by omega)]
    simp only [splitLoop, pdFlagGet_atBoundary (.inl rfl), if_neg longer,
      exact, take_length]
    exact ⟨rfl, rfl⟩

end NearLink.Dli
