import NearLink.Ssap.Access
import NearLink.Ssap.ReadMulti

/-!
# Decoding the values of responses

`SSAPC_ReadRspHandle` and `SSAPC_ReadByUuidRspDecode` of `ssapc_client.c`
against the responses of the server.  Allocation succeeds.
-/

namespace NearLink.Ssap

open Sdf Keyed List Nat Server

structure ValuePkt where
  controlCode : UInt8
  handle : Nat
  dataType : UInt8
  errorCode : UInt8
  value : Bytes
  deriving DecidableEq

structure ReadByHandleComplete where
  errCode : ErrCode
  readVals : List ValuePkt
  deriving DecidableEq

namespace Client

/-- `MultiReadRspDecodeSingleItem` in the loop of `MultiReadRspDecode`: what is
decoded before the loop ends, and why it ends.  Every round takes two bytes at
least, which bounds their number. -/
def multiReadItems (rspLen : Nat) :
    Nat → Nat → Bytes → List ValuePkt × ErrCode
  | 0, _, _ => ([], .success)
  | fuel + 1, dataLen, data =>
    if rspLen > dataLen + 2 then
      let length := decode16 data 0 % 0x8000
      if decode16 data 0 ≥ 0x8000 then
        if rspLen < dataLen + 2 + length then ([], .dataLength)
        else
          let later := multiReadItems rspLen fuel (dataLen + 2 + length)
            (data.drop (2 + length))
          (⟨0, 0, 0, 0, (data.drop 2).take length⟩ :: later.1, later.2)
      else
        let later := multiReadItems rspLen fuel (dataLen + 2)
          (data.drop 2)
        (⟨0, 0, 0, UInt8.ofNat length, []⟩ :: later.1, later.2)
    else ([], .success)

/-- The last loop of `MultiReadRspDecode`. -/
def nameItem (item : Item) (valuePkt : ValuePkt) : ValuePkt :=
  { valuePkt with handle := item.handle, dataType := item.type }

def multiReadRspDecode (readReqItems : List Item) (handleNum : Nat)
    (data : Bytes) (rspLen : Nat) : ReadByHandleComplete :=
  let decoded := multiReadItems rspLen rspLen 0 data
  if decoded.2 ≠ .success then ⟨decoded.2, decoded.1⟩
  else if decoded.1.length ≠ handleNum then ⟨.unknown, decoded.1⟩
  else ⟨.success, List.zipWith nameItem readReqItems decoded.1⟩

/-- `CountReqHandleNum` of a request with a number of items. -/
def countReqHandleNum (items : List Item) : Nat :=
  if items.length ≤ 255 then items.length else 0

/-- `SSAPC_ReadRspHandle` after a request for several items: what the
application is told, unless the response is too long. -/
def readRspHandle (items : List Item) (pdu : Bytes) :
    Option ReadByHandleComplete :=
  if pdu.length > stackMtuMax then none
  else if pdu.length < pduBaseLen then none
  else
    some (multiReadRspDecode items (countReqHandleNum items)
      (pdu.drop pduBaseLen) pdu.length)

structure UuidState where
  errorCode : Nat
  dataIndicationLen : Nat

/-- The head of a round of `SSAPC_ReadByUuidRspDecode`: the state and the
length of the value. -/
def uuidIndication (controlCode : UInt8) (dataLen : Nat) (state : UuidState)
    (data : Bytes) : UuidState × Nat :=
  let dataIndication := decode16 data 2
  if controlCode &&& 4 ≠ 0 then
    if dataIndication ≥ 0x8000 then
      (⟨state.errorCode, 2⟩, dataIndication % 0x8000)
    else (⟨dataIndication % 0x8000, 2⟩, 0)
  else if controlCode &&& 8 ≠ 0 then (⟨dataIndication % 0x8000, 2⟩, 0)
  else (state, dataLen - 2)

/-- The loop of `SSAPC_ReadByUuidRspDecode`. -/
def uuidItems (controlCode : UInt8) (dataLen : Nat) :
    Nat → Nat → UuidState → Bytes → List ValuePkt
  | 0, _, _, _ => []
  | fuel + 1, index, state, data =>
    if dataLen > index + 2 then
      if controlCode &&& 4 ≠ 0 ∧ dataLen < index + 4 then []
      else
        let indicated := uuidIndication controlCode dataLen state data
        let size := 2 + indicated.1.dataIndicationLen + indicated.2
        if dataLen < index + size then []
        else
          ⟨controlCode, decode16 data 0, 0, UInt8.ofNat indicated.1.errorCode,
              (data.drop (2 + indicated.1.dataIndicationLen)).take
                indicated.2⟩ ::
            uuidItems controlCode dataLen fuel (index + size) indicated.1
              (data.drop size)
    else []

def readByUuidRspDecode (controlCode : UInt8) (data : Bytes) :
    List ValuePkt :=
  uuidItems controlCode data.length data.length 0 ⟨0, 0⟩ data

end Client

def entryOf (controlCode : UInt8) (handle : Nat) (dataType : UInt8) :
    Except ErrCode Bytes → ValuePkt
  | .error errorCode => ⟨controlCode, handle, dataType, errorCode.value, []⟩
  | .ok value => ⟨controlCode, handle, dataType, 0, value⟩

def valueOf : Except ErrCode (Option Bytes) → Except ErrCode Bytes
  | .error errorCode => .error errorCode
  | .ok value => .ok (value.getD [])

def calcMultiReadTotalSize
    (results : List (Except ErrCode (Option Bytes))) : Nat :=
  (results.map fun result =>
    match result with
    | .ok (some value) => 2 + value.length
    | _ => 2).sum

def MultiReadDecodes (items : List Item)
    (results : List (Except ErrCode (Option Bytes))) : Prop :=
  Client.readRspHandle items (sendMultiReadReqRsp results) =
    some ⟨.success, List.zipWith
      (fun item result => entryOf 0 item.handle item.type (valueOf result))
      items results⟩

namespace Server

def readByUuidResult (server : Server) (link : Link) (dataType : UInt8)
    (property : Property) : Except ErrCode Bytes :=
  match server.readByUuidCheckError link property dataType with
  | .success => getPropertyValue link property dataType
  | errorCode => .error errorCode

def ReadByUuidDecodes (server : Server) (link : Link) (dataType : UInt8)
    (properties : List Property) : Prop :=
  ∃ pdu, server.readByUuidAnswer link dataType properties = some pdu ∧
    Client.readByUuidRspDecode (byteAt pdu 1) (pdu.drop pduBaseLen) =
      properties.map fun property =>
        entryOf (byteAt pdu 1) property.handle 0
          (server.readByUuidResult link dataType property)

end Server

def uuidSize (several : Bool) (result : Except ErrCode Bytes) : Nat :=
  match result with
  | .error _ => 4
  | .ok value => (if several then 4 else 2) + value.length

/-- Results a response by uuid carries: a single value is not empty, and among
several no value comes after an error. -/
def UuidSafe : List (Except ErrCode Bytes) → Prop
  | [.ok value] => value ≠ []
  | results => results.Pairwise fun earlier later => later.isOk → earlier.isOk

theorem serializeMultiReadItem_ok (value : Option Bytes) :
    serializeMultiReadItem (.ok value) =
      encode16 ((value.getD []).length + 0x8000) ++ value.getD [] := by
  cases value <;> simp [serializeMultiReadItem]

theorem serializeMultiReadItem_error (errorCode : ErrCode) :
    serializeMultiReadItem (.error errorCode) =
      encode16 errorCode.value.toNat := rfl

section

variable (results : List (Except ErrCode (Option Bytes)))

theorem calcMultiReadTotalSize_eq :
    calcMultiReadTotalSize results =
      (results.flatMap serializeMultiReadItem).length := by
  induction results with
  | nil => rfl
  | cons result results induction =>
    have size : (serializeMultiReadItem result).length =
        match result with
        | .ok (some value) => 2 + value.length
        | _ => 2 := by
      rcases result with errorCode | _ | value
      · rfl
      · rfl
      · rw [serializeMultiReadItem, length_append]
        rfl
    rw [flatMap_cons, length_append, ← induction, size]
    rfl

theorem multiReadItems_flatMap {rspLen dataLen fuel : Nat}
    (sized : rspLen = dataLen + 2 +
      (results.flatMap serializeMultiReadItem).length)
    (small : rspLen ≤ stackMtuMax) (enough : results.length ≤ fuel) :
    Client.multiReadItems rspLen fuel dataLen
        (results.flatMap serializeMultiReadItem) =
      (results.map fun result => entryOf 0 0 0 (valueOf result), .success) := by
  induction results generalizing dataLen fuel with
  | nil =>
    cases fuel with
    | zero => rfl
    | succ fuel =>
      rw [Client.multiReadItems, if_neg]
      · rfl
      · simp only [flatMap_nil, length_nil] at sized
        omega
  | cons result results induction =>
    obtain ⟨left, rfl⟩ : ∃ left, fuel = left + 1 :=
      ⟨fuel - 1, by simp only [length_cons] at enough; omega⟩
    simp only [length_cons, add_le_add_iff_right] at enough
    rw [flatMap_cons] at sized ⊢
    rw [length_append] at sized
    have least := length_serializeMultiReadItem result
    rw [Client.multiReadItems, if_pos (by omega)]
    cases result with
    | error errorCode =>
      have bounded := code_lt errorCode
      have field := decode16_encode16
        (show errorCode.value.toNat < 65536 by omega)
        (results.flatMap serializeMultiReadItem)
      rw [serializeMultiReadItem_error] at sized ⊢
      rw [field, if_neg (by omega), mod_eq_of_lt bounded,
        drop_left' (length_encode16 _),
        induction (by rw [length_encode16] at sized; omega) enough]
      simp [entryOf, valueOf]
    | ok value =>
      rw [serializeMultiReadItem_ok] at sized ⊢
      rw [length_append, length_encode16] at sized
      have field := decode16_encode16
        (show (value.getD []).length + 0x8000 < 65536 by
          simp only [stackMtuMax] at small
          omega)
        (value.getD [] ++ results.flatMap serializeMultiReadItem)
      have length : ((value.getD []).length + 0x8000) % 0x8000 =
          (value.getD []).length := by
        simp only [stackMtuMax] at small
        omega
      rw [append_assoc, field, if_pos (by omega), length,
        if_neg (by omega), drop_left' (length_encode16 _),
        take_left, ← drop_drop,
        drop_left' (length_encode16 _), drop_left,
        induction (by omega) enough]
      rfl

end

/-- A response of several values is decoded to its results exactly when 8 bits
hold their number and the response is no longer than the largest MTU. -/
theorem multiReadDecodes_iff (items : List Item)
    (results : List (Except ErrCode (Option Bytes)))
    (matched : items.length = results.length) :
    MultiReadDecodes items results ↔ results.length ≤ 255 ∧
        pduBaseLen + calcMultiReadTotalSize results ≤ stackMtuMax := by
  have sized : (sendMultiReadReqRsp results).length =
      pduBaseLen + calcMultiReadTotalSize results := by
    rw [calcMultiReadTotalSize_eq, sendMultiReadReqRsp, length_append]
    rfl
  have body : (sendMultiReadReqRsp results).drop pduBaseLen =
      results.flatMap serializeMultiReadItem := rfl
  unfold MultiReadDecodes Client.readRspHandle
  by_cases small : pduBaseLen + calcMultiReadTotalSize results ≤ stackMtuMax
  · rw [sized, if_neg (by omega), if_neg (by omega), body]
    have decoded := multiReadItems_flatMap results
      (show pduBaseLen + calcMultiReadTotalSize results = 0 + 2 + _ by
        rw [calcMultiReadTotalSize_eq]
        rfl) small
      (show results.length ≤ pduBaseLen + calcMultiReadTotalSize results by
        rw [calcMultiReadTotalSize_eq]
        have bounded := length_le_flatMap results
        omega)
    simp only [Client.multiReadRspDecode, decoded, ne_eq, not_true_eq_false,
      if_false, length_map, Option.some.injEq]
    by_cases counted : results.length ≤ 255
    · have number : Client.countReqHandleNum items = results.length := by
        rw [Client.countReqHandleNum, matched, if_pos counted]
      rw [if_neg fun differs => differs number.symm]
      refine iff_of_true ?_ ⟨counted, small⟩
      rw [zipWith_map_right]
      congr 2
      funext item result
      cases valueOf result <;> rfl
    · have number : Client.countReqHandleNum items = 0 := by
        rw [Client.countReqHandleNum, matched, if_neg counted]
      rw [if_pos (by omega)]
      simp [counted]
  · rw [sized, if_pos (by omega)]
    simp [small]

def uuidBytes (several : Bool) (pair : Nat × Except ErrCode Bytes) : Bytes :=
  addItem pair.1 (pair.2.map fun value =>
    encode16 pair.1 ++
      (if several then encode16 (value.length + 0x8000) else []) ++ value)

theorem length_uuidBytes (several : Bool) (pair : Nat × Except ErrCode Bytes) :
    (uuidBytes several pair).length = uuidSize several pair.2 := by
  obtain ⟨handle, errorCode | value⟩ := pair
  · rfl
  · cases several with
    | true =>
      simp only [uuidBytes, uuidSize, Except.map, addItem, if_true,
        length_append, length_encode16]
    | false => simp [uuidBytes, uuidSize, Except.map, addItem, length_encode16]

/-- What the decoder makes of several results: an error code stays for the
entries after it. -/
def carried (controlCode : UInt8) :
    Nat → List (Nat × Except ErrCode Bytes) → List ValuePkt
  | _, [] => []
  | _, (handle, .error errorCode) :: pairs =>
    ⟨controlCode, handle, 0, errorCode.value, []⟩ ::
      carried controlCode errorCode.value.toNat pairs
  | code, (handle, .ok value) :: pairs =>
    ⟨controlCode, handle, 0, UInt8.ofNat code, value⟩ ::
      carried controlCode code pairs

theorem decode16_skip (value : Nat) (data : Bytes) :
    decode16 (encode16 value ++ data) 2 = decode16 data 0 := rfl

section

variable {controlCode : UInt8} {dataLen index fuel : Nat}
  {state : Client.UuidState}

theorem uuidItems_end (past : ¬ dataLen > index + 2) (data : Bytes) :
    Client.uuidItems controlCode dataLen fuel index state data = [] := by
  cases fuel with
  | zero => rfl
  | succ fuel => rw [Client.uuidItems, if_neg past]

theorem uuidItems_error {handle : Nat} {errorCode : ErrCode} {rest : Bytes}
    (flagged : controlCode &&& 4 ≠ 0 ∨ controlCode &&& 8 ≠ 0)
    (named : handle ≤ uint16Max) (inside : index + 4 ≤ dataLen) :
    Client.uuidItems controlCode dataLen (fuel + 1) index state
        (encode16 handle ++ (encode16 errorCode.value.toNat ++ rest)) =
      ⟨controlCode, handle, 0, errorCode.value, []⟩ ::
        Client.uuidItems controlCode dataLen fuel (index + 4)
          ⟨errorCode.value.toNat, 2⟩ rest := by
  have bounded := code_lt errorCode
  have field := decode16_encode16
    (show handle < 65536 by simp only [uint16Max] at named; omega)
  have indication := decode16_encode16
    (show errorCode.value.toNat < 65536 by omega) rest
  have indicated : Client.uuidIndication controlCode dataLen state
      (encode16 handle ++ (encode16 errorCode.value.toNat ++ rest)) =
        (⟨errorCode.value.toNat, 2⟩, 0) := by
    rw [Client.uuidIndication, decode16_skip, indication, mod_eq_of_lt bounded]
    split_ifs
    · omega
    · rfl
    · rfl
    · tauto
  rw [Client.uuidItems, if_pos (by omega), if_neg (by omega), indicated, field]
  dsimp only
  rw [if_neg (by omega), UInt8.ofNat_toNat]
  rfl

theorem uuidItems_several (multi : controlCode &&& 4 ≠ 0)
    (pairs : List (Nat × Except ErrCode Bytes))
    (handles : ∀ pair ∈ pairs, pair.1 ≤ uint16Max)
    (sized : dataLen = index + (pairs.flatMap (uuidBytes true)).length)
    (small : dataLen ≤ stackMtuMax) (enough : pairs.length ≤ fuel) :
    Client.uuidItems controlCode dataLen fuel index state
        (pairs.flatMap (uuidBytes true)) =
      carried controlCode state.errorCode pairs := by
  induction pairs generalizing index fuel state with
  | nil =>
    simp only [flatMap_nil, length_nil] at sized
    exact uuidItems_end (by omega) _
  | cons pair pairs induction =>
    obtain ⟨left, rfl⟩ : ∃ left, fuel = left + 1 :=
      ⟨fuel - 1, by simp only [length_cons] at enough; omega⟩
    simp only [length_cons, add_le_add_iff_right] at enough
    have named := handles pair mem_cons_self
    have later := fun other member =>
      handles other (mem_cons_of_mem pair member)
    rw [flatMap_cons, length_append, length_uuidBytes] at sized
    obtain ⟨handle, errorCode | value⟩ := pair
    · have bytes : ((handle, Except.error errorCode) :: pairs).flatMap
          (uuidBytes true) = encode16 handle ++
            (encode16 errorCode.value.toNat ++
              pairs.flatMap (uuidBytes true)) := rfl
      simp only [uuidSize] at sized
      rw [bytes, uuidItems_error (.inl multi) named (by omega),
        induction later (by omega) enough, carried]
    · have bytes : ((handle, Except.ok value) :: pairs).flatMap
          (uuidBytes true) = encode16 handle ++
            (encode16 (value.length + 0x8000) ++ (value ++
              pairs.flatMap (uuidBytes true))) := by
        simp [uuidBytes, addItem, Except.map]
      simp only [uuidSize, if_true] at sized
      have bounded : value.length < 0x8000 := by
        simp only [stackMtuMax] at small
        omega
      have field := decode16_encode16
        (show handle < 65536 by simp only [uint16Max] at named; omega)
      have indication := decode16_encode16
        (show value.length + 0x8000 < 65536 by omega)
        (value ++ pairs.flatMap (uuidBytes true))
      have indicated : Client.uuidIndication controlCode dataLen state
          (encode16 handle ++ (encode16 (value.length + 0x8000) ++ (value ++
            pairs.flatMap (uuidBytes true)))) =
              (⟨state.errorCode, 2⟩, value.length) := by
        rw [Client.uuidIndication, if_pos multi, decode16_skip, indication,
          if_pos (by omega), add_mod_right, mod_eq_of_lt bounded]
      have skip : (encode16 handle ++ (encode16 (value.length + 0x8000) ++
          (value ++ pairs.flatMap (uuidBytes true)))).drop (2 + 2) =
            value ++ pairs.flatMap (uuidBytes true) := rfl
      rw [bytes, Client.uuidItems, if_pos (by omega), if_neg (by omega),
        indicated, field]
      dsimp only
      rw [if_neg (by omega), skip, take_left, ← drop_drop, skip,
        drop_left, induction later (by omega) enough, carried]

theorem uuidItems_errors (failed : controlCode &&& 8 ≠ 0)
    (pairs : List (Nat × ErrCode))
    (handles : ∀ pair ∈ pairs, pair.1 ≤ uint16Max)
    (sized : dataLen = index + (pairs.flatMap fun pair =>
      encode16 pair.1 ++ encode16 pair.2.value.toNat).length)
    (enough : pairs.length ≤ fuel) :
    Client.uuidItems controlCode dataLen fuel index state
        (pairs.flatMap fun pair =>
          encode16 pair.1 ++ encode16 pair.2.value.toNat) =
      pairs.map fun pair => entryOf controlCode pair.1 0 (.error pair.2) := by
  induction pairs generalizing index fuel state with
  | nil =>
    simp only [flatMap_nil, length_nil] at sized
    exact uuidItems_end (by omega) _
  | cons pair pairs induction =>
    obtain ⟨left, rfl⟩ : ∃ left, fuel = left + 1 :=
      ⟨fuel - 1, by simp only [length_cons] at enough; omega⟩
    simp only [length_cons, add_le_add_iff_right] at enough
    have later := fun other member =>
      handles other (mem_cons_of_mem pair member)
    rw [flatMap_cons, append_assoc] at sized ⊢
    simp only [length_append, length_encode16] at sized
    rw [uuidItems_error (.inr failed) (handles pair mem_cons_self) (by omega),
      induction later (by omega) enough]
    rfl

end

theorem uuidItems_value {controlCode : UInt8}
    (single : ¬ controlCode &&& 4 ≠ 0) (clear : ¬ controlCode &&& 8 ≠ 0)
    {handle : Nat} (named : handle ≤ uint16Max) (value : Bytes) :
    Client.readByUuidRspDecode controlCode (encode16 handle ++ value) =
      if value = [] then [] else [entryOf controlCode handle 0 (.ok value)]
    := by
  have field := decode16_encode16
    (show handle < 65536 by simp only [uint16Max] at named; omega) value
  have sized : (encode16 handle ++ value).length = 2 + value.length := by
    rw [length_append, length_encode16]
  unfold Client.readByUuidRspDecode
  rw [sized]
  cases value with
  | nil => rfl
  | cons byte bytes =>
    rw [show 2 + (byte :: bytes).length = (bytes.length + 2) + 1 by
        simp only [length_cons]
        omega,
      Client.uuidItems, if_pos (by omega), if_neg (by tauto),
      Client.uuidIndication, if_neg single, if_neg clear, field]
    dsimp only
    rw [if_neg (by omega), if_neg (cons_ne_nil _ _)]
    rw [uuidItems_end (by omega), drop_left' (length_encode16 _),
      take_of_length_le (by simp only [length_cons]; omega)]
    rfl

section

variable (controlCode : UInt8) (handle : Nat) (dataType : UInt8)

theorem entryOf_error (errorCode : ErrCode) :
    entryOf controlCode handle dataType (.error errorCode) =
      ⟨controlCode, handle, dataType, errorCode.value, []⟩ := rfl

theorem entryOf_ok (value : Bytes) :
    entryOf controlCode handle dataType (.ok value) =
      ⟨controlCode, handle, dataType, 0, value⟩ := rfl

end

/-- No value takes over the code of an error before it exactly when no value
comes after an error. -/
theorem carried_eq_iff (controlCode : UInt8)
    (pairs : List (Nat × Except ErrCode Bytes))
    (honest : ∀ pair ∈ pairs, pair.2 ≠ .error .success) {code : Nat}
    (small : code < 256) :
    carried controlCode code pairs =
        pairs.map (fun pair => entryOf controlCode pair.1 0 pair.2) ↔
      (code = 0 ∨ ∀ pair ∈ pairs, ¬ pair.2.isOk) ∧
        (pairs.map Prod.snd).Pairwise fun earlier later =>
          later.isOk → earlier.isOk := by
  induction pairs generalizing code with
  | nil => simp [carried]
  | cons pair pairs induction =>
    have later := fun other member =>
      honest other (mem_cons_of_mem pair member)
    obtain ⟨handle, errorCode | value⟩ := pair
    · have failed : errorCode.value.toNat ≠ 0 := by
        have own : errorCode ≠ .success := fun same =>
          honest _ mem_cons_self (congrArg Except.error same)
        cases errorCode <;> first | exact absurd rfl own | decide
      rw [carried, map_cons, entryOf_error]
      simp only [List.cons.injEq, true_and, pairwise_cons, map_cons]
      rw [induction later (UInt8.toNat_lt _)]
      have isError : ¬ (Except.error errorCode : Except ErrCode Bytes).isOk
          := Bool.false_ne_true
      constructor
      · rintro ⟨start | none, tail⟩
        · exact absurd start failed
        · refine ⟨.inr ?_, ?_, tail⟩
          · exact forall_mem_cons.mpr ⟨isError, none⟩
          · intro result member ok
            obtain ⟨pair, located, rfl⟩ := mem_map.mp member
            exact absurd ok (none pair located)
      · rintro ⟨_, none, tail⟩
        refine ⟨.inr ?_, tail⟩
        intro pair member ok
        exact isError (none pair.2 (mem_map_of_mem member) ok)
    · have zero : UInt8.ofNat code = 0 ↔ code = 0 := by
        rw [UInt8.ofNat_eq_iff_mod_eq_toNat]
        simp [mod_eq_of_lt small]
      rw [carried, map_cons, entryOf_ok]
      simp only [List.cons.injEq, ValuePkt.mk.injEq, true_and, and_true,
        pairwise_cons, zero, map_cons]
      constructor
      · rintro ⟨rfl, tail⟩
        have kept := (induction later small).mp tail
        exact ⟨.inl rfl, fun _ _ _ => rfl, kept.2⟩
      · rintro ⟨first, _, tail⟩
        have start : code = 0 := by
          rcases first with start | none
          · exact start
          · exact absurd rfl (none _ mem_cons_self)
        subst start
        exact ⟨rfl, (induction later small).mpr ⟨.inl rfl, tail⟩⟩

namespace Server

variable {server : Server} {link : Link} {dataType : UInt8}
  {properties : List Property} {results : List (Except ErrCode Bytes)}

def uuidPairs (server : Server) (link : Link) (dataType : UInt8)
    (properties : List Property) : List (Nat × Except ErrCode Bytes) :=
  properties.map fun property =>
    (property.handle, server.readByUuidResult link dataType property)

variable (several : Bool) (property : Property)
  (pairs : List (Nat × Except ErrCode Bytes))

theorem addItem_readByUuidItem :
    addItem property.handle
        (server.readByUuidItem link dataType several property) =
      uuidBytes several
        (property.handle, server.readByUuidResult link dataType property)
    := by
  unfold readByUuidItem uuidBytes readByUuidResult
  cases server.readByUuidCheckError link property dataType with
  | success =>
    cases getPropertyValue link property dataType with
    | error errorCode => rfl
    | ok value => cases several <;> simp [Except.map, addItem]
  | _ => rfl

theorem isOk_readByUuidItem :
    (server.readByUuidItem link dataType several property).isOk =
      (server.readByUuidResult link dataType property).isOk := by
  unfold readByUuidItem readByUuidResult
  cases server.readByUuidCheckError link property dataType with
  | success =>
    cases getPropertyValue link property dataType with
    | error errorCode => rfl
    | ok value => cases several <;> rfl
  | _ => rfl

theorem readByUuidResult_honest :
    server.readByUuidResult link dataType property ≠ .error .success := by
  unfold readByUuidResult
  cases server.readByUuidCheckError link property dataType with
  | success =>
    unfold getPropertyValue
    cases property.getVal link.addr dataType with
    | none => simp
    | some value =>
      dsimp only
      split_ifs <;> simp
  | _ => simp

theorem readByUuidItems_some {several : Bool} {leftLen : Nat}
    {out : Bytes × Bool × Bool}
    (built : server.readByUuidItems link dataType several leftLen properties =
      some out) : out = ((server.uuidPairs link dataType properties).flatMap
        (uuidBytes several),
      (server.uuidPairs link dataType properties).any fun pair =>
        !pair.2.isOk,
      (server.uuidPairs link dataType properties).any fun pair =>
        pair.2.isOk) := by
  induction properties generalizing leftLen out with
  | nil => exact (Option.some.inj built).symm
  | cons property properties induction =>
    rw [readByUuidItems] at built
    split_ifs at built with short
    obtain ⟨later, found, rfl⟩ := Option.map_eq_some_iff.mp built
    rw [induction found]
    simp only [addItem_readByUuidItem, isOk_readByUuidItem, uuidPairs,
      map_cons, flatMap_cons, any_cons]

theorem appendLen_le :
    appendLen link dataType property ≤ stackMtuMax + 2 := by
  have high := link.mtuHigh
  unfold appendLen getPropertyValue
  cases property.getVal link.addr dataType with
  | none => exact (by decide : 4 ≤ stackMtuMax + 2)
  | some value =>
    dsimp only
    split_ifs with empty long
    · decide
    · decide
    · simp only [stackMtuMax, pduBaseLen] at *
      omega

/-- The length that is reserved covers every answer within the MTU, also when
its sum leaves 16 bits. -/
theorem appendLens_ge (dataLen : Nat) (properties : List Property) :
    min (dataLen + (properties.map (appendLen link dataType)).sum)
        (uint16Max - (stackMtuMax + 2)) ≤
      appendLens link dataType dataLen properties := by
  induction properties generalizing dataLen with
  | nil => simp [appendLens]
  | cons property properties induction =>
    have bounded : appendLen link dataType property ≤ stackMtuMax + 2 :=
      appendLen_le property
    rw [appendLens, map_cons, sum_cons]
    split_ifs with full
    · omega
    · have later := induction (dataLen + appendLen link dataType property)
      omega

def uuidTotal (server : Server) (link : Link) (dataType : UInt8)
    (properties : List Property) : Nat :=
  (properties.map fun property =>
    uuidSize (decide (properties.length > 1))
      (server.readByUuidResult link dataType property)).sum

theorem length_flatMap_uuidBytes (properties : List Property) :
    ((server.uuidPairs link dataType properties).flatMap
        (uuidBytes several)).length =
      (properties.map fun property => uuidSize several
        (server.readByUuidResult link dataType property)).sum := by
  rw [length_flatMap, uuidPairs, map_map]
  simp only [Function.comp_def, length_uuidBytes]

def uuidControl (several : Bool) (pairs : List (Nat × Except ErrCode Bytes)) : UInt8 :=
  ctrlNoFrag + (if several && pairs.any fun pair => pair.2.isOk then 4 else 0) +
    (if pairs.any fun pair => !pair.2.isOk then 8 else 0)

theorem readByUuidAnswer_within
    (fits : server.uuidTotal link dataType properties ≤ link.mtu - pduBaseLen) :
    server.readByUuidAnswer link dataType properties =
      some ([MsgCode.readByUuidRsp.value,
        uuidControl (decide (properties.length > 1))
          (server.uuidPairs link dataType properties)] ++
        (server.uuidPairs link dataType properties).flatMap
          (uuidBytes (decide (properties.length > 1)))) := by
  have high := link.mtuHigh
  have written : (properties.map fun property => (addItem property.handle
      (server.readByUuidItem link dataType
        (decide (properties.length > 1)) property)).length).sum =
        server.uuidTotal link dataType properties := by
    simp only [addItem_readByUuidItem, length_uuidBytes, uuidTotal]
  have room : (properties.map fun property => (addItem property.handle
      (server.readByUuidItem link dataType
        (decide (properties.length > 1)) property)).length).sum ≤
        readByUuidReqRspLen link properties dataType := by
    rcases properties with _ | ⟨first, _ | ⟨second, rest⟩⟩
    · simp
    · exact single_room first
    · rw [readByUuidReqRspLen]
      · have covered : ((first :: second :: rest).map fun property =>
            (addItem property.handle (server.readByUuidItem link dataType
              (decide ((first :: second :: rest).length > 1))
                property)).length).sum ≤
            ((first :: second :: rest).map (appendLen link dataType)).sum :=
          sum_le_sum fun property _ => length_addItem_le property
        have reserved : min (0 + ((first :: second :: rest).map
            (appendLen link dataType)).sum) _ ≤ _ :=
          appendLens_ge 0 (first :: second :: rest)
        simp only [stackMtuMax, uint16Max] at *
        omega
      · simp
  have built := readByUuidItems_eq room
  dsimp only at built
  have shape := readByUuidItems_some built
  unfold readByUuidAnswer
  dsimp only
  rw [built, shape, Option.map_some, sendReadByUuidReqRsp, if_neg]
  · rfl
  · rw [length_flatMap_uuidBytes]
    exact not_lt.mpr fits

theorem readByUuidAnswer_past {pdu : Bytes}
    (past : link.mtu - pduBaseLen < server.uuidTotal link dataType properties)
    (answer : server.readByUuidAnswer link dataType properties = some pdu) :
    pdu = sendReadByUuidReqErrorRsp .serverFrag 0 := by
  obtain ⟨out, built, rfl⟩ := Option.map_eq_some_iff.mp answer
  rw [readByUuidItems_some built]
  dsimp only
  rw [sendReadByUuidReqRsp, if_pos]
  rw [length_flatMap_uuidBytes]
  exact past

theorem flatMap_uuidBytes_errors (failed : ∀ pair ∈ pairs, ¬ pair.2.isOk) :
    ∃ errors : List (Nat × ErrCode),
      pairs = errors.map (fun pair => (pair.1, .error pair.2)) ∧
      pairs.flatMap (uuidBytes several) = errors.flatMap fun pair =>
        encode16 pair.1 ++ encode16 pair.2.value.toNat := by
  induction pairs with
  | nil => exact ⟨[], rfl, rfl⟩
  | cons pair pairs induction =>
    obtain ⟨errors, same, bytes⟩ := induction fun other member =>
      failed other (.tail _ member)
    obtain ⟨handle, errorCode | value⟩ := pair
    · refine ⟨(handle, errorCode) :: errors, ?_, ?_⟩
      · rw [same, map_cons]
      · rw [flatMap_cons, bytes, flatMap_cons]
        rfl
    · exact absurd rfl (failed _ mem_cons_self)

theorem readByUuidRspDecode_errors {controlCode : UInt8}
    (flagged : controlCode &&& 8 ≠ 0) (several : Bool)
    (pairs : List (Nat × Except ErrCode Bytes))
    (handles : ∀ pair ∈ pairs, pair.1 ≤ uint16Max)
    (failed : ∀ pair ∈ pairs, ¬ pair.2.isOk) :
    Client.readByUuidRspDecode controlCode (pairs.flatMap (uuidBytes several)) =
      pairs.map fun pair => entryOf controlCode pair.1 0 pair.2 := by
  obtain ⟨errors, rfl, bytes⟩ :=
    flatMap_uuidBytes_errors several pairs failed
  rw [bytes, Client.readByUuidRspDecode, uuidItems_errors flagged errors]
  · rw [map_map]
    rfl
  · intro pair member
    exact handles _ (mem_map_of_mem member)
  · omega
  · rw [length_flatMap]
    have counted : errors.length ≤ (errors.map fun _ => 4).sum := by
      simp
      omega
    exact counted

theorem not_readByUuidDecodes_past
    (past : link.mtu - pduBaseLen < server.uuidTotal link dataType properties) :
    ¬ server.ReadByUuidDecodes link dataType properties := by
  have low := link.mtuLow
  rintro ⟨pdu, answer, decoded⟩
  rw [readByUuidAnswer_past past answer] at decoded
  have lone : properties.length = 1 := by
    have counted := congrArg List.length decoded
    rw [length_map] at counted
    exact counted.symm
  obtain ⟨property, rfl⟩ := length_eq_one_iff.mp lone
  -- The only entry is an error, but an error alone always fits.
  cases result : server.readByUuidResult link dataType property with
  | error errorCode =>
    simp only [uuidTotal, map_cons, map_nil, result, uuidSize,
      sum_cons, sum_nil, stackMtuDefault, pduBaseLen] at *
    omega
  | ok value =>
    rw [map_cons, result] at decoded
    have codes : [ErrCode.serverFrag.value] = [0] :=
      congrArg (List.map ValuePkt.errorCode) decoded
    exact absurd codes (by decide)

theorem uuidSafe_several (several : results.length > 1) :
    UuidSafe results ↔ results.Pairwise fun earlier later =>
      later.isOk → earlier.isOk := by
  rcases results with _ | ⟨first, _ | ⟨second, rest⟩⟩
  · simp at several
  · simp at several
  · cases first <;> rfl

theorem uuidSafe_errors (failed : ∀ result ∈ results, ¬ result.isOk) :
    UuidSafe results := by
  have ordered : results.Pairwise fun earlier later =>
      later.isOk → earlier.isOk :=
    pairwise_of_forall_mem_list fun earlier _ later member ok =>
      absurd ok (failed later member)
  rcases results with _ | ⟨errorCode | value, _ | ⟨second, rest⟩⟩
  any_goals exact ordered
  exact absurd rfl (failed _ mem_cons_self)

section

variable (handles : ∀ pair ∈ pairs, pair.1 ≤ uint16Max)
include handles

theorem decode_errors_iff (failed : ∀ pair ∈ pairs, ¬ pair.2.isOk) :
    Client.readByUuidRspDecode (uuidControl several pairs)
          (pairs.flatMap (uuidBytes several)) =
        pairs.map (fun pair =>
          entryOf (uuidControl several pairs) pair.1 0 pair.2) ↔
      UuidSafe (pairs.map Prod.snd) := by
  refine iff_of_true ?_ (uuidSafe_errors ?_)
  · rcases pairs with _ | ⟨pair, pairs⟩
    · rfl
    · have none : ((pair :: pairs).any fun pair => pair.2.isOk) = false := by
        simpa using failed
      have some : ((pair :: pairs).any fun pair => !pair.2.isOk) = true := by
        have first := failed pair mem_cons_self
        simp [first]
      have control : uuidControl several (pair :: pairs) = 11 := by
        rw [uuidControl, none, some]
        cases several <;> decide
      rw [control]
      exact readByUuidRspDecode_errors (by decide) several _ handles failed
  · exact forall_mem_map.mpr failed

theorem decode_several_iff (honest : ∀ pair ∈ pairs, pair.2 ≠ .error .success)
    (small : (pairs.flatMap (uuidBytes true)).length ≤ stackMtuMax)
    (several : (pairs.map Prod.snd).length > 1)
    (valued : (pairs.any fun pair => pair.2.isOk) = true) :
    Client.readByUuidRspDecode (uuidControl true pairs)
          (pairs.flatMap (uuidBytes true)) =
        pairs.map (fun pair =>
          entryOf (uuidControl true pairs) pair.1 0 pair.2) ↔
      UuidSafe (pairs.map Prod.snd) := by
  have multi : uuidControl true pairs &&& 4 ≠ 0 := by
    rw [uuidControl, valued]
    split_ifs <;> first | decide | simp_all
  have counted : pairs.length ≤ (pairs.flatMap (uuidBytes true)).length := by
    have least : (pairs.map fun _ => 1).sum ≤
        (pairs.map fun pair => (uuidBytes true pair).length).sum :=
      sum_le_sum fun pair _ => by
        rw [length_uuidBytes]
        unfold uuidSize
        split
        · omega
        · simp only [if_true]
          omega
    simpa using least
  rw [uuidSafe_several several, Client.readByUuidRspDecode,
    uuidItems_several multi pairs handles (by omega) small counted,
    carried_eq_iff _ pairs honest (by decide)]
  simp

end

theorem decode_single_iff {handle : Nat} {result : Except ErrCode Bytes}
    (named : handle ≤ uint16Max) (valued : result.isOk = true) :
    Client.readByUuidRspDecode (uuidControl false [(handle, result)])
          ([(handle, result)].flatMap (uuidBytes false)) =
        [(handle, result)].map (fun pair =>
          entryOf (uuidControl false [(handle, result)]) pair.1 0 pair.2) ↔
      UuidSafe ([(handle, result)].map Prod.snd) := by
  cases result with
  | error errorCode => exact absurd valued Bool.false_ne_true
  | ok value =>
    have control : uuidControl false [(handle, Except.ok value)] = 3 := rfl
    have bytes : [(handle, Except.ok value)].flatMap (uuidBytes false) =
        encode16 handle ++ value := by
      simp [uuidBytes, addItem, Except.map]
    rw [control, bytes, uuidItems_value (by decide) (by decide) named]
    by_cases empty : value = [] <;> simp [empty, UuidSafe]

theorem readByUuidDecodes_iff (server : Server) (link : Link)
    (dataType : UInt8) (properties : List Property)
    (handles : ∀ property ∈ properties, property.handle ≤ uint16Max) :
    server.ReadByUuidDecodes link dataType properties ↔
      server.uuidTotal link dataType properties ≤ link.mtu - pduBaseLen ∧
        UuidSafe (properties.map (server.readByUuidResult link dataType)) := by
  by_cases fits : server.uuidTotal link dataType properties ≤
      link.mtu - pduBaseLen
  swap
  · exact iff_of_false (not_readByUuidDecodes_past (not_le.mp fits))
      (fun both => fits both.1)
  have named : ∀ pair ∈ server.uuidPairs link dataType properties,
      pair.1 ≤ uint16Max := by
    exact forall_mem_map.mpr handles
  have results : properties.map (server.readByUuidResult link dataType) =
      (server.uuidPairs link dataType properties).map Prod.snd := by
    rw [uuidPairs, map_map]
    rfl
  have entries : ∀ controlCode, (properties.map fun property =>
      entryOf controlCode property.handle 0
        (server.readByUuidResult link dataType property)) =
      (server.uuidPairs link dataType properties).map fun pair =>
        entryOf controlCode pair.1 0 pair.2 := by
    intro controlCode
    rw [uuidPairs, map_map]
    rfl
  unfold ReadByUuidDecodes
  rw [readByUuidAnswer_within fits, results]
  simp only [Option.some.injEq, exists_eq_left', fits, true_and, entries]
  by_cases valued : (server.uuidPairs link dataType properties).any
      fun pair => pair.2.isOk
  · by_cases several : properties.length > 1
    · have sized : ((server.uuidPairs link dataType properties).flatMap
          (uuidBytes true)).length ≤ stackMtuMax := by
        have high := link.mtuHigh
        rw [length_flatMap_uuidBytes]
        simp only [uuidTotal, several, decide_true] at fits
        omega
      rw [decide_eq_true several]
      refine decode_several_iff _ named ?_ sized ?_ valued
      · exact forall_mem_map.mpr fun property _ =>
          readByUuidResult_honest property
      · rw [← results, length_map]
        exact several
    · rcases properties with _ | ⟨property, _ | ⟨second, rest⟩⟩
      · simp [uuidPairs] at valued
      · exact decode_single_iff (named _ mem_cons_self)
          (by simpa [uuidPairs] using valued)
      · simp at several
  · refine decode_errors_iff _ _ named ?_
    simpa using valued

/-- Both kinds of responses are decoded to their results exactly under these
conditions. -/
theorem responses_decode_iff (items : List Item)
    (results : List (Except ErrCode (Option Bytes)))
    (matched : items.length = results.length) (server : Server) (link : Link)
    (dataType : UInt8) (properties : List Property)
    (handles : ∀ property ∈ properties, property.handle ≤ uint16Max) :
    (MultiReadDecodes items results ↔ results.length ≤ 255 ∧
        pduBaseLen + calcMultiReadTotalSize results ≤ stackMtuMax) ∧
    (server.ReadByUuidDecodes link dataType properties ↔
      server.uuidTotal link dataType properties ≤ link.mtu - pduBaseLen ∧
        UuidSafe (properties.map (server.readByUuidResult link dataType))) :=
  ⟨multiReadDecodes_iff items results matched,
    readByUuidDecodes_iff server link dataType properties handles⟩

def laterTable : Table where
  services :=
    [{ handle := 1
       endHandle := 3
       uuid := []
       serviceType := 0
       properties :=
         [⟨2, [], 0, 0, [], [8]⟩, ⟨3, [], operateIndicationRead, 0, [], [7]⟩]
       methods := [] }]
  unique := by decide

theorem responses_decode_mixed :
    MultiReadDecodes [⟨2, 0⟩, ⟨3, 0⟩] [.error .forbidRead, .ok (some [7])] ∧
      (init mixedTable).ReadByUuidDecodes mixedLink typeData
        mixedTable.properties := by
  have both := responses_decode_iff [⟨2, 0⟩, ⟨3, 0⟩]
    [.error .forbidRead, .ok (some [7])] rfl (init mixedTable) mixedLink
    typeData mixedTable.properties (by decide)
  refine ⟨both.1.mpr (by decide), both.2.mpr ⟨by decide, ?_⟩⟩
  exact List.Pairwise.cons (fun _ _ _ => rfl) (pairwise_singleton _ _)

/-- The value behind an error is decoded with the code of that error. -/
theorem responses_decode_fails :
    (∃ pdu, (init laterTable).readByUuidAnswer mixedLink typeData
        laterTable.properties = some pdu ∧
      Client.readByUuidRspDecode (byteAt pdu 1) (pdu.drop pduBaseLen) =
        [⟨15, 2, 0, ErrCode.forbidRead.value, []⟩,
          ⟨15, 3, 0, ErrCode.forbidRead.value, [7]⟩]) ∧
      ¬ (init laterTable).ReadByUuidDecodes mixedLink typeData
        laterTable.properties := by
  refine ⟨⟨_, rfl, by decide⟩, ?_⟩
  rintro ⟨pdu, answer, decoded⟩
  obtain rfl := Option.some.inj answer
  exact absurd decoded (by decide)

end Server

end NearLink.Ssap
