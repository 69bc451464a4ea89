import Mathlib.Data.Nat.Bitwise
import NearLink.Dli.Layer

/-!
# Fragments as bytes

`DLI_SplitData` on the allocation of the packet: the header of each fragment is
written in place before its payload, over the headroom or over bytes that were
copied out with the previous fragment, and the fragment is then copied out
together with its header.
-/

namespace NearLink.Dli

open Sdf List

def connectionHdlBitLen : Nat := 12

def pbBitLen : Nat := 2

def encode2Byte (value : Nat) : Bytes :=
  [UInt8.ofNat value, UInt8.ofNat (value / 256)]

def decode2Byte (bytes : Bytes) (offset : Nat) : Nat :=
  (bytes.getD offset 0).toNat + 256 * (bytes.getD (offset + 1) 0).toNat

structure DataStru where
  lcid : Nat
  type : UInt8
  ts : UInt8
  prio : UInt8
  buf : Buff
  deriving DecidableEq

namespace DataStru

/-- The field of a header with the link, the tag, the time stamp bit and the
priority bit. -/
def handleField (data : DataStru) (pdFlag : PdFlag) : Nat :=
  data.lcid ||| pdFlag.value <<< connectionHdlBitLen |||
    data.ts.toNat <<< (connectionHdlBitLen + pbBitLen) |||
    data.prio.toNat <<< (connectionHdlBitLen + pbBitLen + 1)

def headerBytes (data : DataStru) (pdFlag : PdFlag) (sendLen : Nat) : Bytes :=
  data.type :: (encode2Byte (data.handleField pdFlag) ++ encode2Byte sendLen)

def wire (data : DataStru) (fragment : Fragment) : Bytes :=
  data.headerBytes fragment.pdFlag fragment.payload.length ++ fragment.payload

@[simp] theorem length_headerBytes (data : DataStru) (pdFlag : PdFlag)
    (sendLen : Nat) :
    (data.headerBytes pdFlag sendLen).length = header :=
  rfl

end DataStru

def overwrite (block : Bytes) (offset : Nat) (bytes : Bytes) : Bytes :=
  block.take offset ++ bytes ++ block.drop (offset + bytes.length)

/-- `SDF_BuffAppend` of a fragment buffer followed by `memcpy_s`, which
refuses a destination of no bytes. -/
def copyFragment (fragmentBuf : Buff) (bytes : Bytes) : Option Buff :=
  if bytes = [] then none else fragmentBuf.append bytes

/-- What `DLI_SplitData` leaves behind: `g_info.pdFlag`, the allocation of the
packet, and the fragment buffers unless it fails. -/
structure SplitResult where
  pdFlag : Option PdFlag
  block : Bytes
  fragmentBuf : Option (List Buff)

/-- The loop of `DLI_SplitData` over the fragment buffers that remain. -/
def splitDataLoop (bufferLen : Nat) (data : DataStru) :
    List Buff → Nat → Option PdFlag → Bytes → SplitResult
  | [], _, flag, block => ⟨flag, block, some []⟩
  | fragmentBuf :: later, dataOffset, flag, block =>
    let p := data.buf.head.length - header + dataOffset
    let remainLen := data.buf.dataLen - dataOffset
    let pdFlag := pdFlagGet flag remainLen bufferLen
    let sendLen := if remainLen > bufferLen then bufferLen else remainLen
    let written := overwrite block p (data.headerBytes pdFlag sendLen)
    let fragmentLen := (sendLen + header) % 2 ^ 16
    match copyFragment fragmentBuf ((written.drop p).take fragmentLen) with
    | none => ⟨some pdFlag, written, none⟩
    | some filled =>
      let result := splitDataLoop bufferLen data later
        (dataOffset + sendLen) (some pdFlag) written
      { result with
        fragmentBuf := result.fragmentBuf.map (filled :: ·) }

/-- `DLI_SplitData` with the length of a controller buffer and the previous
flag.  The parameters are refused before the flag is touched. -/
def DataStru.splitData (data : DataStru) (bufferLen : Nat)
    (flag : Option PdFlag) (fragmentBuf : List Buff) : SplitResult :=
  let block := data.buf.head ++ data.buf.data ++ data.buf.tail
  if 0 < fragmentBuf.length ∧ fragmentBuf.length ≤ maxFragmentNum then
    splitDataLoop bufferLen data fragmentBuf 0 flag block
  else ⟨flag, block, none⟩

def getFragmentMaxLen (bufferLen : Nat) : Nat := bufferLen + header

/-- The fragment buffers `DTAP_SplitData` allocates. -/
def newFragmentBufs (bufferLen : Nat) (data : Bytes) : List Buff :=
  List.replicate (getDataFragmentNums bufferLen data)
    (Buff.new (getFragmentMaxLen bufferLen))

variable {offset : Nat}

theorem decode2Byte_encode2Byte (value : Nat) (before after : Bytes)
    (length : before.length = offset) :
    decode2Byte (before ++ (encode2Byte value ++ after)) offset =
      value % 2 ^ 16 := by
  have low : (before ++ (encode2Byte value ++ after)).getD offset 0 =
      UInt8.ofNat value := by
    simp [encode2Byte, ← length]
  have high : (before ++ (encode2Byte value ++ after)).getD (offset + 1) 0 =
      UInt8.ofNat (value / 256) := by
    simp [encode2Byte, ← length]
  unfold decode2Byte
  rw [low, high, UInt8.toNat_ofNat', UInt8.toNat_ofNat']
  omega

theorem PdFlag.value_lt (pdFlag : PdFlag) : pdFlag.value < 4 := by
  cases pdFlag <;> decide

theorem DataStru.handleField_eq (data : DataStru) (pdFlag : PdFlag)
    (named : data.lcid < 2 ^ connectionHdlBitLen) :
    ∃ flags, data.handleField pdFlag =
      flags * 2 ^ 14 + (pdFlag.value * 2 ^ 12 + data.lcid) := by
  have tagged : data.lcid ||| pdFlag.value <<< connectionHdlBitLen =
      pdFlag.value * 2 ^ 12 + data.lcid := by
    rw [Nat.lor_comm, ← Nat.shiftLeft_add_eq_or_of_lt named, Nat.shiftLeft_eq]
    rfl
  have bounded : pdFlag.value * 2 ^ 12 + data.lcid < 2 ^ 14 := by
    have value := pdFlag.value_lt
    simp only [connectionHdlBitLen] at named
    omega
  refine ⟨data.ts.toNat ||| data.prio.toNat <<< 1, ?_⟩
  have flags : data.ts.toNat <<< (connectionHdlBitLen + pbBitLen) |||
      data.prio.toNat <<< (connectionHdlBitLen + pbBitLen + 1) =
        (data.ts.toNat ||| data.prio.toNat <<< 1) <<< 14 := by
    rw [Nat.shiftLeft_or_distrib, ← Nat.shiftLeft_add]
    rfl
  calc data.handleField pdFlag
      = (pdFlag.value * 2 ^ 12 + data.lcid) |||
          (data.ts.toNat ||| data.prio.toNat <<< 1) <<< 14 := by
        rw [← flags, ← tagged, handleField, Nat.lor_assoc]
    _ = _ := by
        rw [Nat.lor_comm, ← Nat.shiftLeft_add_eq_or_of_lt bounded,
          Nat.shiftLeft_eq]

variable {block bytes : Bytes} {dataOffset : Nat} {data : DataStru}

theorem drop_overwrite (inside : offset ≤ block.length) :
    (overwrite block offset bytes).drop offset =
      bytes ++ block.drop (offset + bytes.length) := by
  have length : (block.take offset).length = offset := by
    rw [length_take, Nat.min_eq_left inside]
  rw [overwrite, append_assoc]
  exact drop_left' length

theorem copyFragment_new {size : Nat} (filled : bytes ≠ [])
    (fits : bytes.length ≤ size) :
    ∃ copied, copyFragment (Buff.new size) bytes = some copied ∧
      copied.data = bytes := by
  rw [copyFragment, if_neg filled, Buff.append_eq_some (by simpa [Buff.new])]
  exact ⟨_, rfl, rfl⟩

def ShortFragments (bufferLen : Nat) (data : Bytes) : Prop :=
  bufferLen ≤ maxPacketLen ∨ data.length ≤ maxPacketLen

theorem overwritten_rest (reserved : header ≤ data.buf.head.length)
    (inside : data.buf.head.length + dataOffset ≤ block.length)
    (rest : block.drop (data.buf.head.length + dataOffset) =
      data.buf.data.drop dataOffset ++ data.buf.tail) (pdFlag : PdFlag)
    (sendLen : Nat) :
    (overwrite block (data.buf.head.length - header + dataOffset)
        (data.headerBytes pdFlag sendLen)).drop
          (data.buf.head.length - header + dataOffset) =
      data.headerBytes pdFlag sendLen ++
        (data.buf.data.drop dataOffset ++ data.buf.tail) := by
  rw [drop_overwrite (by omega), DataStru.length_headerBytes, ← rest]
  congr 2
  omega

theorem overwritten_next {sendLen : Nat} {pdFlag : PdFlag}
    (within : sendLen ≤ (data.buf.data.drop dataOffset).length)
    (written : block.drop (data.buf.head.length - header + dataOffset) =
      data.headerBytes pdFlag sendLen ++
        (data.buf.data.drop dataOffset ++ data.buf.tail))
    (reserved : header ≤ data.buf.head.length) :
    data.buf.head.length + (dataOffset + sendLen) ≤ block.length ∧
      block.drop (data.buf.head.length + (dataOffset + sendLen)) =
        data.buf.data.drop (dataOffset + sendLen) ++ data.buf.tail := by
  have place : data.buf.head.length + (dataOffset + sendLen) =
      data.buf.head.length - header + dataOffset + (header + sendLen) := by
    omega
  constructor
  · have length := congrArg List.length written
    rw [length_drop, length_append, length_append,
      DataStru.length_headerBytes] at length
    simp only [header] at length reserved ⊢
    omega
  · rw [place, ← drop_drop, written,
      ← DataStru.length_headerBytes data pdFlag sendLen, drop_length_add_append,
      drop_append_of_le_length within, drop_drop]

theorem splitDataLoop_spec {bufferLen : Nat}
    (reserved : header ≤ data.buf.head.length)
    (short : ShortFragments bufferLen data.buf.data) (count : Nat)
    (flag : Option PdFlag)
    (inside : data.buf.head.length + dataOffset ≤ block.length)
    (rest : block.drop (data.buf.head.length + dataOffset) =
      data.buf.data.drop dataOffset ++ data.buf.tail)
    (covered : dataOffset ≤ data.buf.data.length) :
    let split := splitLoop data.lcid bufferLen count flag
      (data.buf.data.drop dataOffset)
    let result := splitDataLoop bufferLen data
      (List.replicate count (Buff.new (getFragmentMaxLen bufferLen)))
      dataOffset flag block
    result.pdFlag = split.2 ∧ ∃ bufs, result.fragmentBuf = some bufs ∧
      bufs.map (·.data) = split.1.map data.wire := by
  induction count generalizing dataOffset flag block with
  | zero => exact ⟨rfl, [], rfl, rfl⟩
  | succ count induction =>
    have remain : data.buf.dataLen - dataOffset =
        (data.buf.data.drop dataOffset).length := by
      rw [length_drop, Buff.dataLen]
    simp only [replicate_succ, splitDataLoop, splitLoop, remain]
    generalize tag : pdFlagGet flag (data.buf.data.drop dataOffset).length
      bufferLen = pdFlag
    generalize size : (if (data.buf.data.drop dataOffset).length > bufferLen
      then bufferLen else (data.buf.data.drop dataOffset).length) = sendLen
    have withinBuffer : sendLen ≤ bufferLen := by
      rw [← size]
      split <;> omega
    have withinData : sendLen ≤ (data.buf.data.drop dataOffset).length := by
      rw [← size]
      split <;> omega
    have unwrapped : (sendLen + header) % 2 ^ 16 = sendLen + header := by
      apply Nat.mod_eq_of_lt
      rw [length_drop] at withinData
      rcases short with short | short <;>
        simp only [maxPacketLen, header] at short ⊢ <;> omega
    have copied : (data.headerBytes pdFlag sendLen ++
        (data.buf.data.drop dataOffset ++ data.buf.tail)).take
          (sendLen + header) =
        data.wire ⟨data.lcid, pdFlag,
          (data.buf.data.drop dataOffset).take sendLen⟩ := by
      rw [DataStru.wire, length_take_of_le withinData, Nat.add_comm,
        ← DataStru.length_headerBytes data pdFlag sendLen,
        take_length_add_append, take_append_of_le_length withinData]
    rw [overwritten_rest reserved inside rest, unwrapped, copied,
      Nat.add_sub_cancel]
    generalize packed : data.wire ⟨data.lcid, pdFlag,
      (data.buf.data.drop dataOffset).take sendLen⟩ = bytes
    have nonempty : bytes ≠ [] := by
      simp [← packed, DataStru.wire, DataStru.headerBytes]
    have fits : bytes.length ≤ getFragmentMaxLen bufferLen := by
      rw [← packed, DataStru.wire, length_append, DataStru.length_headerBytes,
        length_take_of_le withinData, getFragmentMaxLen]
      omega
    obtain ⟨filled, stored, content⟩ := copyFragment_new nonempty fits
    obtain ⟨nextInside, nextRest⟩ := overwritten_next withinData
      (overwritten_rest reserved inside rest pdFlag sendLen) reserved
    have later := induction (some pdFlag) nextInside nextRest (by
      rw [length_drop] at withinData
      omega)
    rw [← drop_drop] at later
    obtain ⟨flagged, bufs, result, contents⟩ := later
    rw [stored]
    refine ⟨flagged, filled :: bufs, ?_, ?_⟩
    · simp only [result, Option.map_some]
    · rw [map_cons, map_cons, contents, content, packed]

end NearLink.Dli
