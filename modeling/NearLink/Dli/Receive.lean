import NearLink.Dli.Split
import NearLink.Keyed

/-!
# Rebuilding the packets of all links

`DLI_AcbPacketReceived` on the bytes of a fragment and the list
`g_info.dataRx`, which has one node for every link with a packet under way.
What happens to the packets of one link depends on the fragments of that link
only: the list cannot fill up, because its bound exceeds the number of links.
-/

namespace NearLink.Dli

open Sdf Keyed Option
open List hiding lookup lookup_append

def headerWithoutTypeSize : Nat := 4

def dataLenOffset : Nat := 2

def dataMaxCnt : Nat := 10000

def PdFlag.ofValue : Nat → PdFlag
  | 0 => full
  | 1 => first
  | 2 => middle
  | _ => last

/-- `DLI_RecvDataNode` -/
structure LinkNode where
  lcid : Nat
  node : RecvDataNode

/-- `DLI_ReceiveDataNodeUpdate`, with allocations succeeding: the list
afterwards and the node that is returned. -/
def nodeUpdate (dataRx : List LinkNode) (buf : Buff) (lcid : Nat)
    (pb : PdFlag) : List LinkNode × Option RecvDataNode :=
  let replace := fun node : RecvDataNode =>
    (modify LinkNode.lcid lcid (fun entry => { entry with node }) dataRx,
      some node)
  match lookup LinkNode.lcid lcid dataRx with
  | none =>
    if ¬ isFirstPb pb then (dataRx, none)
    else if dataRx.length ≥ dataMaxCnt then (dataRx, none)
    else (dataRx ++ [⟨lcid, { pb, buf }⟩], some { pb, buf })
  | some found =>
    if ¬ checkPb found.node.pb pb then
      if isFirstPb pb then replace { pb, buf }
      else (remove LinkNode.lcid lcid dataRx, none)
    else
      match reciveDataUpdate found.node pb buf with
      | none => (remove LinkNode.lcid lcid dataRx, none)
      | some grown => replace grown

/-- `DLI_AcbPacketReceived`: the list afterwards, and the link and the packet
`DLI_AcbRecvHander` is called with, if it is. -/
def packetReceived (dataRx : List LinkNode) (buff : Buff) :
    List LinkNode × Option (Nat × Bytes) :=
  let dataLen := decode2Byte buff.data dataLenOffset
  if dataLen ≠ buff.dataLen - headerWithoutTypeSize then (dataRx, none)
  else
    let handle := decode2Byte buff.data 0
    let pb := PdFlag.ofValue (handle / 2 ^ connectionHdlBitLen % 4)
    let lcid := handle % 2 ^ connectionHdlBitLen
    let trimmed := (buff.trimPrefix headerWithoutTypeSize).getD buff
    match pb with
    | .full => (dataRx, some (lcid, trimmed.data))
    | .first => ((nodeUpdate dataRx trimmed lcid .first).1, none)
    | .middle => ((nodeUpdate dataRx trimmed lcid .middle).1, none)
    | .last =>
      match nodeUpdate dataRx trimmed lcid .last with
      | (after, none) => (after, none)
      | (after, some complete) =>
        (remove LinkNode.lcid lcid after, some (lcid, complete.buf.data))

/-- `DLI_CreateRxBuff` of a fragment, whose type the driver has taken off. -/
def createRxBuff (bytes : Bytes) : Buff :=
  { head := [], data := bytes.drop 1, tail := [] }

def handed : List LinkNode → List Bytes → List (Nat × Bytes)
  | _, [] => []
  | dataRx, bytes :: later =>
    let received := packetReceived dataRx (createRxBuff bytes)
    received.2.toList ++ handed received.1 later

structure Formed (dataRx : List LinkNode) : Prop where
  unique : (dataRx.map (·.lcid)).Nodup
  named : ∀ entry ∈ dataRx, entry.lcid < 2 ^ connectionHdlBitLen

theorem formed_nil : Formed [] :=
  ⟨nodup_nil, by simp⟩

variable {dataRx : List LinkNode} {node : RecvDataNode} {buf : Buff}
  {fragment : Fragment} {data : DataStru} {bytes : Bytes}

section

variable (formed : Formed dataRx)
include formed

theorem Formed.length_lt : dataRx.length < dataMaxCnt := by
  have among : dataRx.map (·.lcid) ⊆ List.range (2 ^ connectionHdlBitLen) := by
    exact forall_mem_map.mpr fun entry inside =>
      mem_range.mpr (formed.named entry inside)
  have bound := (subperm_of_subset formed.unique among).length_le
  rw [length_map, length_range] at bound
  simp only [connectionHdlBitLen, dataMaxCnt] at bound ⊢
  omega

theorem Formed.remove (lcid : Nat) :
    Formed (remove LinkNode.lcid lcid dataRx) := by
  refine ⟨formed.unique.sublist (remove_sublist.map _), ?_⟩
  intro entry member
  exact formed.named entry (remove_sublist.subset member)

theorem Formed.modify (lcid : Nat) (node : RecvDataNode) :
    Formed (modify LinkNode.lcid lcid (fun entry => { entry with node })
      dataRx) := by
  refine ⟨?_, ?_⟩
  · have kept : (Keyed.modify LinkNode.lcid lcid
        (fun entry => { entry with node }) dataRx).map LinkNode.lcid =
          dataRx.map LinkNode.lcid := map_modify fun _ => rfl
    exact kept ▸ formed.unique
  · apply forall_modify formed.named
    intro entry located
    exact formed.named entry (lookup_mem located)

theorem Formed.append {lcid : Nat} (node : RecvDataNode)
    (named : lcid < 2 ^ connectionHdlBitLen)
    (absent : lookup LinkNode.lcid lcid dataRx = none) :
    Formed (dataRx ++ [⟨lcid, node⟩]) := by
  refine ⟨nodup_append_singleton formed.unique (lookup_eq_none.mp absent), ?_⟩
  exact forall_mem_append.mpr ⟨formed.named, forall_mem_singleton.mpr named⟩

end

/-- A buffer without the header bytes it still holds before the data, which
nothing reads. -/
def bareBuff (buf : Buff) : Buff :=
  { buf with head := [] }

def RecvDataNode.bare (node : RecvDataNode) : RecvDataNode :=
  { node with buf := bareBuff node.buf }

def nodeOf (lcid : Nat) (dataRx : List LinkNode) : Option RecvDataNode :=
  (lookup LinkNode.lcid lcid dataRx).map (·.node.bare)

/-- The room `DLI_ReciveDataUpdate` asks for when it moves to a larger
buffer. -/
def grownSize (node : RecvDataNode) (pb : PdFlag) (buf : Buff) : Nat :=
  (if pb = .middle then 2 * buf.dataLen else buf.dataLen) + node.buf.dataLen

theorem reciveDataUpdate_room (room : buf.data.length ≤ node.buf.tail.length)
    (pb : PdFlag) :
    reciveDataUpdate node pb buf = some { node with buf := { node.buf with
      data := node.buf.data ++ buf.data
      tail := node.buf.tail.drop buf.data.length } } := by
  simp only [reciveDataUpdate, Buff.append_eq_some room]

theorem reciveDataUpdate_grow (full : node.buf.tail.length < buf.data.length)
    (pb : PdFlag) : reciveDataUpdate node pb buf =
      if grownSize node pb buf > maxTxRxDataLen then none
      else some { pb, buf := {
        head := []
        data := node.buf.data ++ buf.data
        tail := List.replicate
          (grownSize node pb buf - (node.buf.dataLen + buf.dataLen)) 0 } } := by
  have refused : node.buf.append buf.data = none := by
    simp [Buff.append, full]
  have enough : node.buf.dataLen + buf.dataLen ≤ grownSize node pb buf := by
    simp only [grownSize]
    split <;> omega
  have size : (if pb = .middle then 2 * buf.dataLen else buf.dataLen) +
      node.buf.dataLen = grownSize node pb buf := rfl
  simp only [reciveDataUpdate, refused, size]
  generalize grownSize node pb buf = size at enough ⊢
  simp only [Buff.dataLen] at enough ⊢
  congr 1
  have moved : node.buf.data.length ≤ (Buff.new size).tail.length := by
    simp only [Buff.new, length_replicate]
    omega
  rw [Buff.append_eq_some moved, bind_eq_bind, bind_some]
  have added : buf.data.length ≤
      ((Buff.new size).tail.drop node.buf.data.length).length := by
    simp only [Buff.new, length_drop, length_replicate]
    omega
  rw [Buff.append_eq_some added]
  simp [Buff.new, Nat.sub_sub]

theorem reciveDataUpdate_bare (node : RecvDataNode) (pb : PdFlag) (buf : Buff) :
    reciveDataUpdate node.bare pb (bareBuff buf) =
      (reciveDataUpdate node pb buf).map RecvDataNode.bare := by
  by_cases room : buf.data.length ≤ node.buf.tail.length
  · have bareRoom : (bareBuff buf).data.length ≤
        node.bare.buf.tail.length := room
    rw [reciveDataUpdate_room room, reciveDataUpdate_room bareRoom]
    rfl
  · have full : node.buf.tail.length < buf.data.length := Nat.lt_of_not_le room
    have bareFull : node.bare.buf.tail.length <
        (bareBuff buf).data.length := full
    rw [reciveDataUpdate_grow full, reciveDataUpdate_grow bareFull,
      apply_ite (Option.map RecvDataNode.bare)]
    rfl

structure Updated (lcid : Nat) (before after : List LinkNode)
    (node : Option RecvDataNode) : Prop where
  formed : Formed after
  own : nodeOf lcid after = node
  others : ∀ other, other ≠ lcid → nodeOf other after = nodeOf other before

section

variable (formed : Formed dataRx) {lcid : Nat}
include formed

theorem Formed.updated_remove (lcid : Nat) :
    Updated lcid dataRx (Keyed.remove LinkNode.lcid lcid dataRx) none where
  formed := formed.remove lcid
  own := by
    simp only [nodeOf, lookup_remove_self formed.unique, map_none]
  others other differs := by
    simp only [nodeOf, lookup_remove_ne differs]

theorem Formed.updated_modify {found : LinkNode}
    (located : lookup LinkNode.lcid lcid dataRx = some found)
    (node : RecvDataNode) : Updated lcid dataRx (Keyed.modify LinkNode.lcid lcid
      (fun entry => { entry with node }) dataRx) (some node.bare) where
  formed := formed.modify lcid node
  own := by
    have keeps : ∀ entry : LinkNode, LinkNode.lcid { entry with node } =
      entry.lcid := fun _ => rfl
    rw [nodeOf, lookup_modify_self keeps, located]
    rfl
  others other differs := by
    have keeps : ∀ entry : LinkNode, LinkNode.lcid { entry with node } =
      entry.lcid := fun _ => rfl
    rw [nodeOf, nodeOf, lookup_modify_ne keeps differs]

theorem Formed.updated_append (named : lcid < 2 ^ connectionHdlBitLen)
    (absent : lookup LinkNode.lcid lcid dataRx = none) (node : RecvDataNode) :
    Updated lcid dataRx (dataRx ++ [⟨lcid, node⟩]) (some node.bare) where
  formed := formed.append node named absent
  own := by
    simp [nodeOf, lookup_append, absent]
  others other differs := by
    simp [nodeOf, lookup_append, differs.symm]

theorem nodeUpdate_spec (named : lcid < 2 ^ connectionHdlBitLen) (buf : Buff)
    (pb : PdFlag) : Updated lcid dataRx (nodeUpdate dataRx buf lcid pb).1
        (receiveDataNodeUpdate (nodeOf lcid dataRx) pb (bareBuff buf)) ∧
      (nodeUpdate dataRx buf lcid pb).2.map RecvDataNode.bare =
        receiveDataNodeUpdate (nodeOf lcid dataRx) pb (bareBuff buf) := by
  cases located : lookup LinkNode.lcid lcid dataRx with
  | none =>
    have room : ¬ dataRx.length ≥ dataMaxCnt :=
      Nat.not_le.mpr formed.length_lt
    have own : nodeOf lcid dataRx = none := by
      rw [nodeOf, located, map_none]
    simp only [nodeUpdate, located, own, receiveDataNodeUpdate, room, if_false]
    by_cases starts : isFirstPb pb = true
    · simp only [starts, not_true_eq_false, if_true, if_false]
      exact ⟨formed.updated_append named located _, rfl⟩
    · simp only [starts]
      exact ⟨⟨formed, own, fun _ _ => rfl⟩, rfl⟩
  | some found =>
    have own : nodeOf lcid dataRx = some found.node.bare := by
      rw [nodeOf, located, map_some]
    have tag : found.node.bare.pb = found.node.pb := rfl
    simp only [nodeUpdate, located, own, receiveDataNodeUpdate, tag]
    by_cases accepted : checkPb found.node.pb pb = true
    · simp only [accepted, not_true_eq_false, if_true, if_false,
        reciveDataUpdate_bare]
      cases reciveDataUpdate found.node pb buf with
      | none => exact ⟨formed.updated_remove lcid, rfl⟩
      | some grown => exact ⟨formed.updated_modify located grown, rfl⟩
    · simp only [accepted]
      by_cases starts : isFirstPb pb = true
      · simp only [starts, if_true]
        exact ⟨formed.updated_modify located _, rfl⟩
      · simp only [starts]
        exact ⟨formed.updated_remove lcid, rfl⟩

end

def parseFragment (bytes : Bytes) : Fragment :=
  let handle := decode2Byte bytes 1
  { lcid := handle % 2 ^ connectionHdlBitLen
    pdFlag := PdFlag.ofValue (handle / 2 ^ connectionHdlBitLen % 4)
    payload := bytes.drop header }

def Measured (bytes : Bytes) : Prop :=
  header ≤ bytes.length ∧ decode2Byte bytes 3 = bytes.length - header

@[simp] theorem PdFlag.ofValue_value (pdFlag : PdFlag) :
    PdFlag.ofValue pdFlag.value = pdFlag := by
  cases pdFlag <;> rfl

theorem parseFragment_wire (named : data.lcid < 2 ^ connectionHdlBitLen)
    (owned : fragment.lcid = data.lcid) :
    parseFragment (data.wire fragment) = fragment := by
  have handle : decode2Byte (data.wire fragment) 1 =
      data.handleField fragment.pdFlag % 2 ^ 16 := by
    apply decode2Byte_encode2Byte _ [data.type]
    rfl
  obtain ⟨flags, field⟩ := data.handleField_eq fragment.pdFlag named
  have tag := fragment.pdFlag.value_lt
  simp only [connectionHdlBitLen] at named
  have lcid : decode2Byte (data.wire fragment) 1 % 2 ^ connectionHdlBitLen =
      fragment.lcid := by
    simp only [connectionHdlBitLen]
    omega
  have pdFlag : decode2Byte (data.wire fragment) 1 /
      2 ^ connectionHdlBitLen % 4 = fragment.pdFlag.value := by
    simp only [connectionHdlBitLen]
    omega
  simp only [parseFragment, lcid, pdFlag, PdFlag.ofValue_value]
  rfl

theorem measured_wire (short : fragment.payload.length < 2 ^ 16) :
    Measured (data.wire fragment) := by
  have length : decode2Byte (data.wire fragment) 3 =
      fragment.payload.length % 2 ^ 16 := by
    apply decode2Byte_encode2Byte _
      (data.type :: encode2Byte (data.handleField fragment.pdFlag))
    rfl
  rw [Nat.mod_eq_of_lt short] at length
  refine ⟨?_, ?_⟩
  · rw [DataStru.wire, length_append, DataStru.length_headerBytes]
    omega
  · rw [length, DataStru.wire, length_append, DataStru.length_headerBytes]
    omega

theorem decode2Byte_drop (bytes : Bytes) (offset : Nat) :
    decode2Byte (bytes.drop 1) offset = decode2Byte bytes (offset + 1) := by
  cases bytes <;> rfl

def trimmedBuff (bytes : Bytes) : Buff :=
  { head := (bytes.drop 1).take headerWithoutTypeSize
    data := (parseFragment bytes).payload
    tail := [] }

theorem packetReceived_eq (measured : Measured bytes) (dataRx : List LinkNode) :
    packetReceived dataRx (createRxBuff bytes) =
      let fragment := parseFragment bytes
      let update := nodeUpdate dataRx (trimmedBuff bytes) fragment.lcid
      match fragment.pdFlag with
      | .full => (dataRx, some (fragment.lcid, fragment.payload))
      | .first => ((update .first).1, none)
      | .middle => ((update .middle).1, none)
      | .last =>
        match update .last with
        | (after, none) => (after, none)
        | (after, some complete) =>
          (remove LinkNode.lcid fragment.lcid after,
            some (fragment.lcid, complete.buf.data)) := by
  have content : (createRxBuff bytes).data = bytes.drop 1 := rfl
  have size : (createRxBuff bytes).dataLen = bytes.length - 1 := by
    rw [Buff.dataLen, content, length_drop]
  have long : ¬ headerWithoutTypeSize > (bytes.drop 1).length := by
    have length := measured.1
    rw [length_drop]
    simp only [header, headerWithoutTypeSize] at length ⊢
    omega
  have trimmed : ((createRxBuff bytes).trimPrefix
      headerWithoutTypeSize).getD (createRxBuff bytes) = trimmedBuff bytes := by
    rw [Buff.trimPrefix, content, if_neg long, getD_some, drop_drop]
    rfl
  have matching : ¬ decode2Byte bytes (dataLenOffset + 1) ≠
      bytes.length - 1 - headerWithoutTypeSize := by
    exact not_not_intro measured.2
  rw [packetReceived]
  simp only [content, size, trimmed, decode2Byte_drop]
  rw [if_neg matching]
  rfl

theorem packetReceived_spec (formed : Formed dataRx)
    (measured : Measured bytes) :
    let fragment := parseFragment bytes
    let alone := acbPacketReceived (nodeOf fragment.lcid dataRx) fragment
    let received := packetReceived dataRx (createRxBuff bytes)
    Updated fragment.lcid dataRx received.1 alone.1 ∧
      received.2 = alone.2.map (fragment.lcid, ·) := by
  rw [packetReceived_eq measured]
  have named : (parseFragment bytes).lcid < 2 ^ connectionHdlBitLen :=
    Nat.mod_lt _ (by decide)
  have bare : bareBuff (trimmedBuff bytes) =
    arrivedBuff (parseFragment bytes) := rfl
  have updated := nodeUpdate_spec formed named (trimmedBuff bytes)
  rw [bare] at updated
  generalize parseFragment bytes = fragment at named updated ⊢
  obtain ⟨lcid, pdFlag, payload⟩ := fragment
  cases pdFlag with
  | full => exact ⟨⟨formed, rfl, fun _ _ => rfl⟩, rfl⟩
  | first => exact ⟨(updated .first).1, rfl⟩
  | middle => exact ⟨(updated .middle).1, rfl⟩
  | last =>
    obtain ⟨change, node⟩ := updated .last
    simp only [acbPacketReceived]
    rw [← node] at change ⊢
    generalize nodeUpdate dataRx (trimmedBuff bytes) lcid .last = result
      at change ⊢
    obtain ⟨after, returned⟩ := result
    cases returned with
    | none => exact ⟨change, rfl⟩
    | some complete =>
      have removed := change.formed.updated_remove lcid
      refine ⟨⟨removed.formed, removed.own, ?_⟩, rfl⟩
      intro other differs
      rw [removed.others other differs, change.others other differs]

def handedTo (lcid : Nat) (packets : List (Nat × Bytes)) : List Bytes :=
  (packets.filter (·.1 = lcid)).map (·.2)

/-- What is handed on for a link is what its own fragments rebuild, however
they are interleaved with those of other links. -/
theorem handed_eq_rebuild {feed : List Bytes} (formed : Formed dataRx)
    (measured : ∀ bytes ∈ feed, Measured bytes) (lcid : Nat) :
    handedTo lcid (handed dataRx feed) = rebuild (nodeOf lcid dataRx)
        ((feed.map parseFragment).filter (·.lcid = lcid)) := by
  induction feed generalizing dataRx with
  | nil => rfl
  | cons bytes feed induction =>
    obtain ⟨updated, output⟩ :=
      packetReceived_spec formed (measured bytes (by simp))
    have rest := induction updated.formed fun later member =>
      measured later (.tail _ member)
    simp only [handed, handedTo, filter_append, map_append, map_cons] at rest ⊢
    rw [rest, output]
    by_cases own : (parseFragment bytes).lcid = lcid
    · subst own
      rw [filter_cons_of_pos (by simp), rebuild_cons, updated.own]
      congr 1
      cases (acbPacketReceived (nodeOf (parseFragment bytes).lcid dataRx)
        (parseFragment bytes)).2 <;> simp
    · rw [filter_cons_of_neg (by simpa using own),
        updated.others lcid (Ne.symm own)]
      cases (acbPacketReceived (nodeOf (parseFragment bytes).lcid dataRx)
        (parseFragment bytes)).2 <;> simp [own]

end NearLink.Dli
