import NearLink.Crc16
import Mathlib

/-!
# HiBox frames

The records and the check sum of `hibox_local.c` and the check of received
frames in `hibox_process.c`.  The parser of a message is a function of a state
of its own; memory is allocated.
-/

namespace NearLink.Hibox

open Sdf List

structure Tlv where
  type : UInt8
  value : Bytes

/-- One bit of `HiboxL2cuDoCheckMic`, with `CRC16_POLY`. -/
def micShift (crc : UInt16) : UInt16 :=
  if crc &&& 0x8000 ≠ 0 then crc <<< 1 ^^^ 0x8005 else crc <<< 1

def micByte (crc : UInt16) (byte : UInt8) : UInt16 :=
  micShift^[8] (crc ^^^ (byte.toUInt16 <<< 8))

def l2cuDoCheckMic (buf : Bytes) : UInt16 :=
  buf.foldl micByte 0

def compareArrayToValue (array : Bytes) (value : UInt8) : Bool :=
  array.all (· == value)

/-- What is written at `buf`; nothing for `HIBOX_INVALID_TLV_LEN`. -/
def combineTlv (bufLen : Nat) (tlv : Tlv) : Bytes :=
  if 0 < tlv.value.length ∧ 3 ≤ bufLen ∧ tlv.value.length ≤ bufLen - 3 ∧
      ¬ compareArrayToValue tlv.value 0xFF then
    tlv.type :: encode2ByteLittle (.ofNat tlv.value.length) ++ tlv.value
  else []

/-- `SERVICE_HIBOX_ADD_TLV`; `buf` is the part before `offset`. -/
def addTlv (bufLen : Nat) (buf : Bytes) (tlv : Tlv) : Bytes :=
  if buf.length < bufLen then
    buf ++ combineTlv (bufLen - buf.length) tlv
  else buf

def combileMsg (bufLen : Nat) (sid cmdId : UInt8) (tlvData : Bytes)
    (dataType : UInt8) : Bytes :=
  if tlvData.length + 5 ≤ bufLen then
    let checkData := dataType :: sid :: cmdId :: tlvData
    checkData ++ encode2ByteLittle (l2cuDoCheckMic checkData)
  else []

inductive Message where
  | req
  | rsp

/-- `HIBOX_REQ_FIXED_HEADER` and `HIBOX_RSP_FIXED_HEADER` -/
def Message.header : Message → UInt8
  | .req => 0x3F
  | .rsp => 0xF3

/-- The end of `HiboxCombReqMsg` and `HiboxCombRspMsg`. -/
def Message.comb (message : Message) (bufLen : Nat) (sid cmdId : UInt8)
    (tlvs : List Tlv) : Bytes :=
  let tlvValue := tlvs.foldl (addTlv bufLen) []
  combileMsg ((tlvValue.length + 5) % 2 ^ 16) sid cmdId tlvValue message.header

def isHibox (minLen : Nat) (header : UInt8) (data : Bytes) : Bool :=
  let body := data.length - 2
  decide (minLen ≤ data.length) && data.head? == some header &&
    decode2ByteLittle (data.drop body) ==
      (l2cuDoCheckMic (data.take body)).toNat

/-- A request without records is refused. -/
def isHiboxReq : Bytes → Bool :=
  isHibox 6 0x3F

def isHiboxRsp : Bytes → Bool :=
  isHibox 5 0xF3

def Message.check : Message → Bytes → Bool
  | .req => isHiboxReq
  | .rsp => isHiboxRsp

/-- The loop of `HiboxTlvParseHandler`; `none` is a read behind `data`. -/
def tlvParseLoop (parseFunc : Tlv → σ → Bool × σ) (data : Bytes)
    (leftLen : Int) (parseLen : Nat) (state : σ) : Option (Nat × σ) :=
  if 3 ≤ leftLen then
    match data with
    | type :: low :: high :: data =>
      let length := decode2ByteLittle [low, high]
      let leftLen := leftLen - 3 - length
      if length = 0 ∨ leftLen < 0 then
        some (0, state)
      else if length ≤ data.length then
        match parseFunc ⟨type, data.take length⟩ state with
        | (true, state) => tlvParseLoop parseFunc (data.drop length)
            leftLen ((parseLen + length) % 2 ^ 16) state
        | (false, state) => some (0, state)
      else none
    | _ => none
  else some (parseLen, state)
termination_by data.length

def tlvParseHandler (parseFunc : Tlv → σ → Bool × σ) (data : Bytes)
    (state : σ) : Option (Nat × σ) :=
  tlvParseLoop parseFunc data data.length 0 state

/-- `HiboxRecvIndMsg` and `HiboxRecvCfmMsg` up to the records. -/
def Message.recv (message : Message) (parseFunc : Tlv → σ → Bool × σ)
    (frame : Bytes) (state : σ) : Option (Nat × σ) :=
  let tlv := (frame.drop 3).take (frame.length - 5)
  if message.check frame ∧ 3 < tlv.length then
    tlvParseHandler parseFunc tlv state
  else some (0, state)

/-- The records at the front of `data`, and whether it ends behind them with
less than a header. -/
inductive Divides : Bytes → List Tlv → Bool → Prop where
  | tail {data : Bytes} (short : data.length < 3) : Divides data [] true
  | malformed {type low high : UInt8} {data : Bytes}
      (bad : decode2ByteLittle [low, high] = 0 ∨
        data.length < decode2ByteLittle [low, high]) :
      Divides (type :: low :: high :: data) [] false
  | record {type low high : UInt8} {value data : Bytes} {records : List Tlv}
      {whole : Bool} (more : value ≠ [])
      (length : decode2ByteLittle [low, high] = value.length)
      (rest : Divides data records whole) :
      Divides (type :: low :: high :: (value ++ data))
        (⟨type, value⟩ :: records) whole

/-- The parser is called on the records in order up to one it refuses. -/
def offer (parseFunc : Tlv → σ → Bool × σ) : List Tlv → σ → Bool × σ
  | [], state => (true, state)
  | record :: records, state =>
    match parseFunc record state with
    | (true, state) => offer parseFunc records state
    | (false, state) => (false, state)

def total (records : List Tlv) : Nat :=
  (records.map fun record => record.value.length).sum

def Tlv.encoded (tlv : Tlv) : Bytes :=
  tlv.type :: encode2ByteLittle (.ofNat tlv.value.length) ++ tlv.value

theorem Divides.exists (data : Bytes) :
    ∃ records whole, Divides data records whole := by
  match data with
  | [] => exact ⟨_, _, .tail (by decide)⟩
  | [_] => exact ⟨_, _, .tail (by simp)⟩
  | [_, _] => exact ⟨_, _, .tail (by simp)⟩
  | type :: low :: high :: data =>
    by_cases bad : decode2ByteLittle [low, high] = 0 ∨
        data.length < decode2ByteLittle [low, high]
    · exact ⟨_, _, .malformed bad⟩
    · obtain ⟨nonzero, inside⟩ := not_or.mp bad
      have length : decode2ByteLittle [low, high] =
          (data.take (decode2ByteLittle [low, high])).length := by
        rw [length_take]; omega
      obtain ⟨records, whole, rest⟩ :=
        Divides.exists (data.drop (decode2ByteLittle [low, high]))
      have divides := @Divides.record type _ _ _ _ _ _
        (ne_nil_of_length_pos (by omega)) length rest
      rw [take_append_drop] at divides
      exact ⟨_, _, divides⟩
termination_by data.length

theorem Divides.total_eq_zero {data : Bytes} {records : List Tlv}
    {whole : Bool} (divides : Divides data records whole) :
    total records = 0 ↔ records = [] := by
  cases divides with
  | tail | malformed => simp [total]
  | record more => simp [total, more]

theorem tlvParseLoop_spec (parseFunc : Tlv → σ → Bool × σ) {data : Bytes}
    {records : List Tlv} {whole : Bool} (divides : Divides data records whole)
    {parseLen : Nat} {state : σ} (fits : parseLen + data.length < 2 ^ 16) :
    tlvParseLoop parseFunc data data.length parseLen state =
      some (if (offer parseFunc records state).1 ∧ whole then
        parseLen + total records else 0,
        (offer parseFunc records state).2) := by
  induction divides generalizing parseLen state with
  | tail short =>
    unfold tlvParseLoop
    rw [if_neg (by omega)]
    simp [offer, total]
  | malformed bad =>
    rw [tlvParseLoop]
    simp only [length_cons]
    rw [if_pos (by omega), if_pos (by omega)]
    simp [offer]
  | @record type low high value data records whole more length _ induction =>
    have positive := length_pos_iff.mpr more
    simp only [length_cons, length_append] at fits
    rw [tlvParseLoop]
    simp only [length_cons, length_append, length]
    rw [if_pos (by omega), if_neg (by omega), if_pos (by omega),
      take_left, drop_left]
    rcases called : parseFunc ⟨type, value⟩ state with ⟨_ | _, after⟩
    · simp [offer, called]
    · have left : ((value.length + data.length + 1 + 1 + 1 : ℕ) : ℤ) - 3 -
          value.length = data.length := by omega
      have room : (parseLen + value.length) % 65536 =
          parseLen + value.length := Nat.mod_eq_of_lt (by omega)
      simp only [left, Nat.reducePow, room]
      rw [induction (by omega)]
      simp [offer, called, total, Nat.add_assoc]

theorem addTlv_foldl {bufLen : Nat} {tlvs : List Tlv} {buf : Bytes}
    (written : ∀ tlv ∈ tlvs, ∃ byte ∈ tlv.value, byte ≠ 0xFF)
    (fits : (buf ++ tlvs.flatMap Tlv.encoded).length ≤ bufLen) :
    tlvs.foldl (addTlv bufLen) buf = buf ++ tlvs.flatMap Tlv.encoded := by
  induction tlvs generalizing buf with
  | nil => simp
  | cons tlv tlvs induction =>
    obtain ⟨byte, inside, other⟩ := written tlv (.head _)
    have positive := length_pos_of_mem inside
    have long : tlv.encoded.length = tlv.value.length + 3 := by
      simp [Tlv.encoded]; omega
    simp only [flatMap_cons, length_append, long] at fits
    have added : addTlv bufLen buf tlv = buf ++ tlv.encoded := by
      rw [addTlv, if_pos (by omega), combineTlv, if_pos
        ⟨positive, by omega, by omega, fun all => other (by
          simpa using all_eq_true.mp all byte inside)⟩]
      rfl
    rw [foldl_cons, added, induction (written · <| .tail _ ·)
      (by simp only [length_append, long]; omega)]
    simp

theorem divides_encoded {tlvs : List Tlv}
    (written : ∀ tlv ∈ tlvs, ∃ byte ∈ tlv.value, byte ≠ 0xFF)
    (fits : (tlvs.flatMap Tlv.encoded).length < 2 ^ 16) :
    Divides (tlvs.flatMap Tlv.encoded) tlvs true := by
  induction tlvs with
  | nil => exact .tail (by decide)
  | cons tlv tlvs induction =>
    obtain ⟨byte, inside, _⟩ := written tlv (.head _)
    rw [flatMap_cons, length_append] at fits
    have long : tlv.encoded.length = tlv.value.length + 3 := by
      simp [Tlv.encoded]; omega
    have length : decode2ByteLittle (encode2ByteLittle
        (.ofNat tlv.value.length)) = tlv.value.length := by
      rw [decode2ByteLittle_encode]
      simp; omega
    exact .record (ne_nil_of_mem inside) length
      (induction (written · <| .tail _ ·) (by omega))

theorem encode2ByteLittle_of_decode {tail : Bytes} {value : UInt16}
    (length : tail.length = 2) (same : decode2ByteLittle tail = value.toNat) :
    tail = encode2ByteLittle value := by
  obtain ⟨low, high, rfl⟩ := length_eq_two.mp length
  have lowBound := low.toNat_lt
  have highBound := high.toNat_lt
  simp only [decode2ByteLittle, getD_cons_zero, getD_cons_succ] at same
  have lowByte : low = value.toUInt8 := by
    apply UInt8.toNat_inj.mp
    simp; omega
  have highByte : high = (value >>> 8).toUInt8 := by
    apply UInt8.toNat_inj.mp
    simp [Nat.shiftRight_eq_div_pow]; omega
  rw [lowByte, highByte]
  rfl

theorem isHibox_iff {minLen : Nat} {header : UInt8} {data : Bytes}
    (enough : 2 ≤ minLen) :
    isHibox minLen header data ↔
      minLen ≤ data.length ∧ data.head? = some header ∧
        ∃ rest, data = rest ++ encode2ByteLittle (l2cuDoCheckMic rest) := by
  simp only [isHibox, Bool.and_eq_true, decide_eq_true_eq, beq_iff_eq,
    and_assoc]
  refine and_congr_right fun long => and_congr_right fun _ => ?_
  constructor
  · intro same
    refine ⟨data.take (data.length - 2), ?_⟩
    rw [← encode2ByteLittle_of_decode (by simp; omega) same,
      take_append_drop]
  · rintro ⟨rest, rfl⟩
    simp [decode2ByteLittle_encode]

theorem Message.check_mic {message : Message} {data : Bytes}
    (accepted : message.check data) :
    ∃ rest, data = rest ++ encode2ByteLittle (l2cuDoCheckMic rest) := by
  cases message <;> exact ((isHibox_iff (by decide)).mp accepted).2.2

theorem Message.comb_eq (message : Message) {bufLen : Nat} (sid cmdId : UInt8)
    {records : List Tlv} (room : bufLen + 5 < 2 ^ 16)
    (written : ∀ tlv ∈ records, ∃ byte ∈ tlv.value, byte ≠ 0xFF)
    (fits : (records.flatMap Tlv.encoded).length ≤ bufLen) :
    let body := message.header :: sid :: cmdId :: records.flatMap Tlv.encoded
    message.comb bufLen sid cmdId records =
      body ++ encode2ByteLittle (l2cuDoCheckMic body) := by
  have whole := @addTlv_foldl bufLen records [] written fits
  rw [nil_append] at whole
  simp only [Message.comb, whole, combileMsg]
  rw [if_pos (by omega)]

theorem tlvParseHandler_spec (parseFunc : Tlv → σ → Bool × σ) {data : Bytes}
    {records : List Tlv} {whole : Bool} (divides : Divides data records whole)
    (bound : data.length < 2 ^ 16) (state : σ) :
    tlvParseHandler parseFunc data state =
      some (if (offer parseFunc records state).1 ∧ whole then
        total records else 0, (offer parseFunc records state).2) := by
  have looped := @tlvParseLoop_spec _ parseFunc _ _ _ divides 0 state (by omega)
  rwa [Nat.zero_add] at looped

theorem frame_codec (message : Message) (parseFunc : Tlv → σ → Bool × σ)
    (state : σ) {bufLen : Nat} (sid cmdId : UInt8) {records : List Tlv}
    (room : bufLen + 5 < 2 ^ 16)
    (written : ∀ tlv ∈ records, ∃ byte ∈ tlv.value, byte ≠ 0xFF)
    (fits : (records.flatMap Tlv.encoded).length ≤ bufLen) :
    let frame := message.comb bufLen sid cmdId records
    let offered := offer parseFunc records state
    (records ≠ [] → message.check frame) ∧ message.recv parseFunc frame state =
        some (if offered.1 then total records else 0, offered.2) ∧
      (∀ data, message.check data →
        ∃ rest, data = rest ++ encode2ByteLittle (l2cuDoCheckMic rest)) ∧
      ∀ data, data.length < 2 ^ 16 →
        ∃ records whole, Divides data records whole ∧ ∃ parseLen after,
            tlvParseHandler parseFunc data state = some (parseLen, after) ∧
              (parseLen = 0 ↔ whole = false ∨
                (offer parseFunc records state).1 = false ∨
                records = []) := by
  have divides := divides_encoded written (by omega)
  have long : records ≠ [] → 4 ≤ (records.flatMap Tlv.encoded).length := by
    intro more
    obtain ⟨record, later, rfl⟩ := exists_cons_of_ne_nil more
    obtain ⟨byte, inside, _⟩ := written record (.head _)
    have positive := length_pos_of_mem inside
    simp [Tlv.encoded]
    omega
  have accepted : records ≠ [] →
      message.check (message.comb bufLen sid cmdId records) := by
    intro more
    have enough := long more
    rw [message.comb_eq sid cmdId room written fits]
    cases message <;>
      refine (isHibox_iff (by decide)).mpr ⟨?_, rfl, _, rfl⟩ <;>
      simp only [length_append, length_cons] <;> omega
  refine ⟨accepted, ?_, fun _ => Message.check_mic, fun data bound => ?_⟩
  · have tlv : ((message.comb bufLen sid cmdId records).drop 3).take
        ((message.comb bufLen sid cmdId records).length - 5) =
          records.flatMap Tlv.encoded := by
      rw [message.comb_eq sid cmdId room written fits]
      simp
    simp only [Message.recv, tlv]
    by_cases more : records = []
    · subst more
      rw [if_neg (by simp)]
      simp [offer, total]
    · rw [if_pos ⟨accepted more, by have := long more; omega⟩]
      simpa using tlvParseHandler_spec parseFunc divides (by omega) state
  · obtain ⟨records, whole, divides⟩ := Divides.exists data
    refine ⟨_, _, divides, _, _,
      tlvParseHandler_spec parseFunc divides bound state, ?_⟩
    rw [← divides.total_eq_zero]
    split
    · next passed => simp [passed]
    · cases whole <;> simp_all

/-- One record of `HIBOX_RSP_TYPE_RESULT`, noted down by the parser. -/
theorem frame_codec_result :
    Message.rsp.recv (fun record seen => (true, seen ++ [record]))
      (Message.rsp.comb 640 5 11 [⟨0x7F, [0]⟩]) [] =
        some (1, [⟨0x7F, [0]⟩]) := by
  have codec := @frame_codec _ .rsp
    (fun record seen => (true, seen ++ [record])) [] 640 5 11
    [⟨0x7F, [0]⟩] (by decide) (by simp) (by simp [Tlv.encoded])
  exact codec.2.1

end NearLink.Hibox
