import NearLink.Ssap.Pending
import NearLink.Ssap.Find

/-!
# Responses to requests

The handlers that return without a response are those for long requests, for
short exchanges of information and for reads by uuid whose results do not fit
into the length that was reserved for them.
-/

namespace NearLink.Ssap

open Sdf Keyed List

def MsgCode.reply : MsgCode → Option MsgCode
  | exchangeInfoReq => some exchangeInfoRsp
  | findStructureReq => some findStructureRsp
  | findStructureByUuidReq => some findStructureByUuidRsp
  | readReq => some readRsp
  | readByUuidReq => some readByUuidRsp
  | writeReq => some writeRsp
  | callMethodReq => some callMethodRsp
  | _ => none

def Answers (code : MsgCode) (response : Bytes) : Prop :=
  (∃ reply, code.reply = some reply ∧ response.head? = some reply.value) ∨
    response.head? = some MsgCode.errorRsp.value ∧
      response[2]? = some code.value

namespace Server

/-- `SSAP_Recv` with `SSAP_DataDispatch` for a request. -/
def serve (server : Server) (isOld : Nat → Bool) (link : Link)
    (code : MsgCode) (pdu : Bytes) : Outcome :=
  match code with
  | .findStructureReq =>
    (server, server.findReqHandle isOld link .findStructureReq pdu)
  | .findStructureByUuidReq =>
    (server, server.findReqHandle isOld link .findStructureByUuidReq pdu)
  | _ => server.dispatch link pdu

def uuidLength (server : Server) (link : Link) (dataType : UInt8)
    (properties : List Property) : Nat :=
  (properties.map fun property => (addItem property.handle
    (server.readByUuidItem link dataType (decide (properties.length > 1))
      property)).length).sum

def Reserved (server : Server) (link : Link) (request : ReadByUuidReq) :
    Prop :=
  server.uuidLength link request.dataType (server.findPropertys request) ≤
    readByUuidReqRspLen link (server.findPropertys request) request.dataType

def Dropped (server : Server) (link : Link) (code : MsgCode) (pdu : Bytes) :
    Prop :=
  match code with
  | .exchangeInfoReq =>
    pdu.length > stackMtuMax ∨ pdu.length < exchangeInfoPktLen
  | .findStructureReq => pdu.length > stackMtuMax
  | .findStructureByUuidReq => pdu.length > stackMtuMax
  | .readByUuidReq =>
    pdu.length > stackMtuMax ∨
      ∃ request, readByUuidReqPreHandle pdu = .ok request ∧
        ¬ server.Reserved link request
  | .callMethodReq => pdu.length > stackMtuMax
  | _ => False

def NeedsConsent (server : Server) (item : Item)
    (check : UInt32 → UInt8 → ErrCode) : Prop :=
  ∃ permissions opIndication,
    server.table.access item = some (permissions, opIndication) ∧
      check opIndication permissions = .success ∧
      permissions &&& permissionAuthorizationNeed ≠ 0

def Defers (server : Server) (link : Link) (code : MsgCode) (pdu : Bytes) :
    Prop :=
  match code with
  | .readReq =>
    pdu.length = 5 ∧ ¬ byteAt pdu 4 > descTypePropertyFormat ∧
      byteAt pdu 1 &&& ctrlNoFrag = ctrlNoFrag ∧
      server.NeedsConsent ⟨decode16 pdu 2, byteAt pdu 4⟩
        fun opIndication permissions =>
          server.readControlCheck opIndication permissions link
  | .writeReq =>
    writeDataOffset < pdu.length ∧ pdu.length ≤ stackMtuMax ∧
      ctrlOper pdu = 0 ∧ ctrlFragment pdu = ctrlNoFrag ∧
      ctrlMulti pdu = 0 ∧ ¬ byteAt pdu 4 > descTypePropertyFormat ∧
      server.NeedsConsent ⟨decode16 pdu 2, byteAt pdu 4⟩
        fun opIndication permissions =>
          server.writeControlCheck link opIndication permissions
            (byteAt pdu 4) .writeReq
  | .callMethodReq =>
    methodReqPduMinLen ≤ pdu.length ∧ pdu.length ≤ stackMtuMax ∧
      ctrlFragment pdu = ctrlNoFrag ∧
      ∃ method, server.table.getMethodByHandle (decode16 pdu 2) = some method ∧
        server.methodCallCheck method.permission link = .success
  | _ => False

variable {server : Server} {link : Link} {code : MsgCode} {pdu : Bytes}
  {check : UInt32 → UInt8 → ErrCode} {item : Item} {entries : List FindEntry}
  {properties : List Property} {dataType : UInt8}

def Responds (code : MsgCode) (response : Option Bytes) : Prop :=
  ∃ pdu, response = some pdu ∧ Answers code pdu

def Deferred (server : Server) (link : Link) (code : MsgCode)
    (outcome : Outcome) : Prop :=
  ∃ operation : BufferedOperation, operation.msgCode = code ∧
    operation.addr = link.addr ∧
    outcome = (server.pushOperationPenddingVector operation, none)

theorem responds_error (handle : Nat) (errorCode : ErrCode) :
    Responds code (some (pduErrorRsp code handle errorCode)) :=
  ⟨_, rfl, .inr ⟨rfl, rfl⟩⟩

theorem responds_reply {reply : MsgCode} {response : Bytes}
    (answers : code.reply = some reply)
    (head : response.head? = some reply.value) :
    Responds code (some response) :=
  ⟨_, rfl, .inl ⟨reply, answers, head⟩⟩

theorem head_sendReadReqRsp (value : Except ErrCode Bytes) :
    (sendReadReqRsp value).head? = some MsgCode.readRsp.value := by
  cases value <;> rfl

theorem head_sendWriteReqRsp (errorCode : ErrCode)
    (operation : BufferedOperation) :
    (sendWriteReqRsp errorCode operation).head? =
      some MsgCode.writeRsp.value := by
  unfold sendWriteReqRsp
  split <;> rfl

theorem not_needsConsent (unknown : server.table.access item = none) :
    ¬ server.NeedsConsent item check := by
  rintro ⟨permissions, opIndication, known, _⟩
  rw [unknown] at known
  cases known

theorem needsConsent_iff {permissions : UInt8} {opIndication : UInt32}
    (known : server.table.access item = some (permissions, opIndication)) :
    server.NeedsConsent item check ↔ check opIndication permissions = .success ∧
        permissions &&& permissionAuthorizationNeed ≠ 0 := by
  constructor
  · rintro ⟨others, indicated, same, checked⟩
    rw [known] at same
    cases same
    exact checked
  · exact fun checked => ⟨permissions, opIndication, known, checked⟩

theorem readSingleHandleReq_outcome (server : Server) (link : Link)
    (item : Item) :
    (Responds .readReq (server.readSingleHandleReq link item).2 ∧
      ¬ server.NeedsConsent item fun opIndication permissions =>
        server.readControlCheck opIndication permissions link) ∨
    (server.Deferred link .readReq (server.readSingleHandleReq link item) ∧
      server.NeedsConsent item fun opIndication permissions =>
        server.readControlCheck opIndication permissions link) := by
  have failed : Responds .readReq
      (some (server.handleReadReqError item.handle)) := by
    unfold handleReadReqError
    split <;> exact responds_reply rfl rfl
  unfold readSingleHandleReq
  cases located : server.table.getPropertyByHandle item.handle with
  | none =>
    refine .inl ⟨failed, not_needsConsent ?_⟩
    rw [Table.access, located]
    rfl
  | some property =>
    dsimp only
    have known : server.table.access item =
        property.getPermissionAndOperation item.type := by
      rw [Table.access, located]
      rfl
    cases access : property.getPermissionAndOperation item.type with
    | none => exact .inl ⟨failed, not_needsConsent (known.trans access)⟩
    | some pair =>
      obtain ⟨permissions, opIndication⟩ := pair
      rw [needsConsent_iff (known.trans access)]
      dsimp only
      cases checked : server.readControlCheck opIndication permissions link
      case success =>
        dsimp only
        split
        next consent =>
          exact .inr ⟨⟨_, rfl, rfl, rfl⟩, rfl, consent⟩
        next free =>
          exact .inl ⟨responds_reply rfl (head_sendReadReqRsp _),
            fun both => free both.2⟩
      all_goals
        exact .inl ⟨responds_reply rfl rfl, fun both => by cases both.1⟩

theorem writeSingleItem_outcome (server : Server) (link : Link)
    (operation : BufferedOperation) (request : operation.msgCode = .writeReq)
    (client : operation.addr = link.addr) :
    (Responds .writeReq (server.writeSingleItem link operation).2 ∧
      ¬ server.NeedsConsent ⟨operation.propertyHandle, operation.dataType⟩
        fun opIndication permissions =>
          server.writeControlCheck link opIndication permissions
            operation.dataType .writeReq) ∨
    (server.Deferred link .writeReq (server.writeSingleItem link operation) ∧
      server.NeedsConsent ⟨operation.propertyHandle, operation.dataType⟩
        fun opIndication permissions =>
          server.writeControlCheck link opIndication permissions
            operation.dataType .writeReq) := by
  have responds : ∀ errorCode : ErrCode,
      Responds .writeReq (some (sendWriteReqRsp errorCode operation)) :=
    fun errorCode => responds_reply rfl (head_sendWriteReqRsp errorCode operation)
  unfold writeSingleItem
  cases located :
      server.table.getPropertyByHandle operation.propertyHandle with
  | none =>
    refine .inl ⟨responds _, not_needsConsent ?_⟩
    rw [Table.access, located]
    rfl
  | some property =>
    dsimp only
    have known : server.table.access
        ⟨operation.propertyHandle, operation.dataType⟩ =
        property.getPermissionAndOperation operation.dataType := by
      rw [Table.access, located]
      rfl
    cases access :
        property.getPermissionAndOperation operation.dataType with
    | none => exact .inl ⟨responds _, not_needsConsent (known.trans access)⟩
    | some pair =>
      obtain ⟨permissions, opIndication⟩ := pair
      rw [needsConsent_iff (known.trans access)]
      dsimp only
      cases checked : server.writeControlCheck link opIndication
        permissions operation.dataType .writeReq
      case success =>
        dsimp only
        split
        next consent =>
          exact .inr ⟨⟨operation, request, client, rfl⟩, rfl, consent⟩
        next free =>
          exact .inl ⟨responds _, fun both => free both.2⟩
      all_goals
        exact .inl ⟨responds _, fun both => by cases both.1⟩

def Settled (server : Server) (link : Link) (code : MsgCode) (pdu : Bytes)
    (outcome : Outcome) : Prop :=
  (Responds code outcome.2 ∧ ¬ server.Defers link code pdu) ∨
    (server.Deferred link code outcome ∧ server.Defers link code pdu)

theorem readReqItems_single (sized : pdu.length = 5) :
    readReqItems (pdu.drop 2) = [⟨decode16 pdu 2, byteAt pdu 4⟩] := by
  match pdu with
  | [_, _, _, _, _] => rfl

theorem readReqItems_several (sized : 5 ≤ pdu.length) (many : pdu.length ≠ 5)
    (whole : (pdu.length - 2) % 3 = 0) :
    readReqItems (pdu.drop 2) ≠ [item] := by
  match pdu with
  | _ :: _ :: _ :: _ :: _ :: _ :: _ :: _ :: _ => simp [readReqItems]
  | [] => simp at sized
  | [_] => simp at sized
  | [_, _] => simp at sized
  | [_, _, _] => simp at sized
  | [_, _, _, _] => simp at sized
  | [_, _, _, _, _] => simp at many
  | [_, _, _, _, _, _] => simp at whole
  | [_, _, _, _, _, _, _] => simp at whole

theorem readReqHandle_settled :
    server.Settled link .readReq pdu (server.readReqHandle link pdu) := by
  unfold readReqHandle
  split
  next long =>
    refine .inl ⟨responds_error 0 _, fun defers => ?_⟩
    have sized : pdu.length = 5 := defers.1
    unfold stackMtuMax at long
    omega
  split
  next short =>
    refine .inl ⟨responds_error 0 _, fun defers => ?_⟩
    have sized : pdu.length = 5 := defers.1
    omega
  split
  next type =>
    exact .inl ⟨responds_error 0 _, fun defers => defers.2.1 type⟩
  split
  next fragment =>
    exact .inl ⟨responds_reply rfl rfl, fun defers => fragment defers.2.2.1⟩
  rename_i long short type fragment
  by_cases single : pdu.length = 5
  · rw [readReqItems_single single]
    rcases readSingleHandleReq_outcome server link
      ⟨decode16 pdu 2, byteAt pdu 4⟩ with ⟨prompt, free⟩ | ⟨kept, consent⟩
    · exact .inl ⟨prompt, fun defers => free defers.2.2.2⟩
    · exact .inr ⟨kept, single, type, not_not.mp fragment, consent⟩
  · have several : ∀ item, readReqItems (pdu.drop 2) ≠ [item] := fun item =>
      readReqItems_several (by omega) single (by omega)
    split
    next item found =>
      exact absurd found (several item)
    · refine .inl ⟨?_, fun defers => single defers.1⟩
      split
      · exact responds_error _ _
      · exact responds_reply rfl rfl

theorem writeReqHandle_settled :
    server.Settled link .writeReq pdu (server.writeReqHandle link pdu) := by
  unfold writeReqHandle
  split
  next long =>
    refine .inl ⟨responds_error 0 _, fun defers => ?_⟩
    have sized : pdu.length ≤ stackMtuMax := defers.2.1
    omega
  split
  next short =>
    refine .inl ⟨responds_error 0 _, fun defers => ?_⟩
    have sized : writeDataOffset < pdu.length := defers.1
    unfold writeDataOffset at sized
    omega
  split
  next oper =>
    exact .inl ⟨responds_error 0 _, fun defers => oper defers.2.2.1⟩
  split
  next fragment =>
    exact .inl ⟨responds_reply rfl rfl, fun defers => fragment defers.2.2.2.1⟩
  split
  next long short oper fragment single =>
    unfold writeSingleHandleReq
    dsimp only
    split
    next few =>
      refine .inl ⟨responds_error 0 _, fun defers => ?_⟩
      have sized : writeDataOffset < pdu.length := defers.1
      omega
    split
    next type =>
      exact .inl ⟨responds_error _ _, fun defers => defers.2.2.2.2.2.1 type⟩
    next few type =>
      rcases writeSingleItem_outcome server link
        (composeOperation .writeReq link pdu) rfl rfl with
        ⟨prompt, free⟩ | ⟨kept, consent⟩
      · exact .inl ⟨prompt, fun defers => free defers.2.2.2.2.2.2⟩
      · exact .inr ⟨kept, Nat.lt_of_not_le few, Nat.le_of_not_lt long,
          not_not.mp oper, not_not.mp fragment, single, type, consent⟩
  next several =>
    refine .inl ⟨?_, fun defers => several defers.2.2.2.2.1⟩
    unfold writeMultiHandleReq
    split
    · exact responds_error 0 _
    · dsimp only
      split
      · exact responds_error 0 _
      · unfold sendMultiWriteReqRsp
        dsimp only
        split
        · exact responds_error 0 _
        split
        all_goals exact responds_reply rfl rfl

theorem methodHandle_settled (sized : pdu.length ≤ stackMtuMax) :
    server.Settled link .callMethodReq pdu
      (server.methodHandle link .callMethodReq pdu) := by
  have refuses : ∀ (errorCode : ErrCode) (handle : Nat), Responds .callMethodReq
        (methodErrorProcess .callMethodReq errorCode handle) :=
    fun errorCode handle => responds_error handle errorCode
  unfold methodHandle
  rw [if_neg (Nat.not_lt.mpr sized)]
  split
  next short =>
    refine .inl ⟨refuses _ _, fun defers => ?_⟩
    have enough : methodReqPduMinLen ≤ pdu.length := defers.1
    omega
  split
  next fragment =>
    exact .inl ⟨refuses _ _, fun defers => fragment defers.2.2.1⟩
  rename_i short fragment
  cases located : server.table.getMethodByHandle (decode16 pdu 2) with
  | none =>
    refine .inl ⟨?_, fun defers => ?_⟩
    · dsimp only
      split <;> exact refuses _ _
    · obtain ⟨method, found, _⟩ := defers.2.2.2
      rw [located] at found
      cases found
  | some method =>
    dsimp only
    cases checked : server.methodCallCheck method.permission link
    case success =>
      refine .inr ⟨⟨_, rfl, rfl, rfl⟩, Nat.le_of_not_lt short, sized,
        not_not.mp fragment, method, located, checked⟩
    all_goals
      refine .inl ⟨refuses _ _, fun defers => ?_⟩
      obtain ⟨other, found, passed⟩ := defers.2.2.2
      rw [located] at found
      cases found
      rw [checked] at passed
      cases passed

/-- Every entry takes this many bytes, so that the numbers of entries of a
response fit into a byte. -/
def entryMinLen : Nat := 5

theorem length_fitting {leftSize : Nat}
    (sized : ∀ entry ∈ entries, entryMinLen ≤ entry.bytes.length) :
    entryMinLen * (fitting leftSize entries).length ≤ leftSize := by
  induction entries generalizing leftSize with
  | nil => simp [fitting]
  | cons entry entries induction =>
    have first := sized entry (by simp)
    unfold fitting
    split
    next fits =>
      have later := @induction (leftSize - entry.bytes.length)
        fun other member => sized other (.tail _ member)
      rw [length_cons, Nat.mul_succ]
      omega
    · simp

theorem isSome_payload (itemType : FindItemType)
    (sized : ∀ entry ∈ entries, entryMinLen ≤ entry.bytes.length) :
    (payload link.mtu itemType entries).isSome := by
  cases itemType with
  | mix =>
    have high := link.mtuHigh
    have counted := @length_fitting entries (link.mtu - pduBaseLen - 2) sized
    have few : ∀ kind : FindEntry → Bool,
        ((fitting (link.mtu - pduBaseLen - 2) entries).filter kind).length ≤
          255 := by
      intro kind
      have within := length_filter_le kind
        (fitting (link.mtu - pduBaseLen - 2) entries)
      simp only [entryMinLen, stackMtuMax, pduBaseLen] at *
      omega
    unfold payload buildMixPayload
    rw [if_neg (by
      have standard := few FindEntry.isStdUuid
      have custom := few fun entry => !entry.isStdUuid
      omega)]
    rfl
  | _ => rfl

section Find

variable {req : FindReq} (finds : req.msgCode = .findStructureReq ∨
    req.msgCode = .findStructureByUuidReq)

theorem responds_errorRsp (handle : Nat) (errorCode : ErrCode) :
    Responds req.msgCode (req.errorRsp handle errorCode) :=
  ⟨_, rfl, .inr ⟨rfl, rfl⟩⟩

include finds

section

variable (itemType : FindItemType)
include itemType

theorem responds_sendFindRspPkt {data : Option Bytes} (built : data.isSome) :
    Responds req.msgCode (req.sendFindRspPkt itemType data) := by
  obtain ⟨bytes, rfl⟩ := Option.isSome_iff_exists.mp built
  refine ⟨_, rfl, .inl ?_⟩
  rcases finds with plain | byUuid
  · exact ⟨.findStructureRsp, by rw [plain]; rfl, by rw [plain]; rfl⟩
  · exact ⟨.findStructureByUuidRsp, by rw [byUuid]; rfl, by rw [byUuid]; rfl⟩

theorem responds_sendEntries {entries : List FindEntry}
    (sized : ∀ entry ∈ entries, entryMinLen ≤ entry.bytes.length) :
    Responds req.msgCode (req.sendEntries link.mtu itemType entries) := by
  unfold FindReq.sendEntries
  split
  · exact responds_errorRsp _ _
  · exact responds_sendFindRspPkt finds itemType (isSome_payload itemType sized)

theorem responds_map {Kind : Type} (kinds : List Kind)
    (entry : Kind → FindEntry)
    (sized : ∀ kind, entryMinLen ≤ (entry kind).bytes.length) :
    Responds req.msgCode
      (req.sendEntries link.mtu itemType (kinds.map entry)) := by
  refine responds_sendEntries finds itemType ?_
  exact forall_mem_map.mpr fun kind _ => sized kind

theorem responds_sendFindPrimaryServiceRsp : Responds req.msgCode
      (server.sendFindPrimaryServiceRsp link req itemType) := by
  unfold sendFindPrimaryServiceRsp
  split
  · exact responds_errorRsp _ _
  · refine responds_map finds itemType _ _ fun service => ?_
    simp [Service.primaryServiceInfo, length_encode16, entryMinLen]
    omega

end

theorem responds_sendFindPrimaryServiceRspV10 :
    Responds req.msgCode (server.sendFindPrimaryServiceRspV10 link req) := by
  unfold sendFindPrimaryServiceRspV10
  split
  · exact responds_errorRsp _ _
  · refine responds_map finds _ _ _ fun service => ?_
    split
    · simp [Service.primaryServiceInfo, length_encode16, entryMinLen]
      omega
    · simp [Service.primaryServiceInfoV10, length_encode16, entryMinLen]

variable (itemType : FindItemType)

theorem responds_properties (properties : List Property) :
    Responds req.msgCode (req.sendEntries link.mtu itemType
      (properties.map Property.propertyInfo)) := by
  refine responds_map finds itemType _ _ fun property => ?_
  simp [Property.propertyInfo, encode32, length_encode16, entryMinLen]
  omega

theorem responds_sendFindPropertyRsp :
    Responds req.msgCode (server.sendFindPropertyRsp link req itemType) := by
  unfold sendFindPropertyRsp
  split
  · exact responds_properties finds itemType _
  · split
    any_goals exact responds_properties finds itemType _
    exact responds_errorRsp _ _

theorem responds_sendFindPropertyRspV10 :
    Responds req.msgCode (server.sendFindPropertyRspV10 link req) := by
  unfold sendFindPropertyRspV10
  split
  · exact responds_errorRsp _ _
  · refine responds_map finds _ _ _ fun property => ?_
    split
    · simp [Property.propertyInfo, encode32, length_encode16, entryMinLen]
      omega
    · simp [Property.propertyInfoV10, encode32, length_encode16, entryMinLen]
      omega

section

variable (itemType : FindItemType)

theorem responds_methods (methods : List Method) :
    Responds req.msgCode (req.sendEntries link.mtu itemType
      (methods.map Method.methodInfo)) := by
  refine responds_map finds itemType _ _ fun method => ?_
  simp [Method.methodInfo, length_encode16, entryMinLen]
  omega

theorem responds_sendFindMethodRsp :
    Responds req.msgCode (server.sendFindMethodRsp link req itemType) := by
  unfold sendFindMethodRsp
  split
  · exact responds_methods finds itemType _
  · split
    any_goals exact responds_methods finds itemType _
    exact responds_errorRsp _ _

theorem responds_sendFindStructureRsp :
    Responds req.msgCode (server.sendFindStructureRsp link req itemType) := by
  unfold sendFindStructureRsp
  dsimp only
  split
  · exact responds_errorRsp _ _
  split
  · exact responds_errorRsp _ _
  · exact responds_sendFindRspPkt finds itemType rfl

end

theorem responds_sendFindRsp (isOld : Nat → Bool) :
    Responds req.msgCode (server.sendFindRsp isOld link req) := by
  unfold sendFindRsp
  split
  any_goals exact responds_errorRsp _ _
  split
  any_goals exact responds_errorRsp _ _
  · exact responds_sendFindStructureRsp finds _
  · split
    · exact responds_sendFindPrimaryServiceRspV10 finds
    · exact responds_sendFindPrimaryServiceRsp finds _
  · split
    · exact responds_sendFindPropertyRspV10 finds
    · exact responds_sendFindPropertyRsp finds _
  · exact responds_sendFindMethodRsp finds _

end Find

theorem responds_findReqHandle (isOld : Nat → Bool)
    (finds : code = .findStructureReq ∨ code = .findStructureByUuidReq)
    (sized : pdu.length ≤ stackMtuMax) :
    Responds code (server.findReqHandle isOld link code pdu) := by
  unfold findReqHandle
  rw [if_neg (Nat.not_lt.mpr sized)]
  have refuses : ∀ (handle : Nat) (errorCode : ErrCode),
      Responds code ((findReq code pdu).errorRsp handle errorCode) :=
    fun handle errorCode => responds_errorRsp handle errorCode
  split
  · exact refuses _ _
  split
  · exact refuses _ _
  split
  · exact refuses _ _
  split
  · exact refuses _ _
  · exact responds_sendFindRsp finds isOld

theorem readByUuidItems_none {several : Bool} {leftLen : Nat}
    (exceeds : leftLen < (properties.map fun property =>
      (addItem property.handle (server.readByUuidItem link dataType several
        property)).length).sum) :
    server.readByUuidItems link dataType several leftLen properties =
      none := by
  induction properties generalizing leftLen with
  | nil => simp at exceeds
  | cons property properties induction =>
    rw [map_cons, sum_cons] at exceeds
    unfold readByUuidItems
    dsimp only
    split
    · rfl
    · rw [induction (by omega)]
      rfl

theorem responds_readByUuidReqPreHandle {response : Option Bytes}
    (sized : pdu.length ≤ stackMtuMax)
    (refused : readByUuidReqPreHandle pdu = .error response) :
    Responds .readByUuidReq response := by
  unfold readByUuidReqPreHandle at refused
  rw [if_neg (Nat.not_lt.mpr sized)] at refused
  generalize (if byteAt pdu 1 &&& 1 = 0 then readByStandardUuidReqPktLen
    else readByCustomUuidReqPktLen) = payloadLen at refused
  have failed : ∀ (errorCode : ErrCode) (handle : Nat), Responds .readByUuidReq
      (some (sendReadByUuidReqErrorRsp errorCode handle)) :=
    fun _ _ => ⟨_, rfl, .inl ⟨.readByUuidRsp, rfl, rfl⟩⟩
  have unsupported : ∀ errorCode : ErrCode, Responds .readByUuidReq
      (some (pduErrorRsp .readByUuidReq 0 errorCode)) :=
    fun _ => ⟨_, rfl, .inr ⟨rfl, rfl⟩⟩
  split at refused
  · cases refused
    exact unsupported _
  split at refused
  · cases refused
    exact unsupported _
  split at refused
  · cases refused
    exact failed _ _
  split at refused <;> cases refused
  · exact failed _ _

theorem responds_sendReadByUuidReqRsp (data : Bytes)
    (multiFlag errorFlag : Bool) :
    Responds .readByUuidReq
      (some (sendReadByUuidReqRsp link data multiFlag errorFlag)) := by
  refine ⟨_, rfl, .inl ⟨.readByUuidRsp, rfl, ?_⟩⟩
  unfold sendReadByUuidReqRsp
  split <;> rfl

theorem responds_readByUuidAnswer
    (room : server.uuidLength link dataType properties ≤
      readByUuidReqRspLen link properties dataType) : Responds .readByUuidReq
      (server.readByUuidAnswer link dataType properties) := by
  unfold readByUuidAnswer
  dsimp only
  rw [readByUuidItems_eq room]
  exact responds_sendReadByUuidReqRsp _ _ _

theorem readByUuidAnswer_none
    (exceeds : ¬ server.uuidLength link dataType properties ≤
      readByUuidReqRspLen link properties dataType) :
    server.readByUuidAnswer link dataType properties = none := by
  unfold readByUuidAnswer
  dsimp only
  rw [readByUuidItems_none (Nat.lt_of_not_le exceeds)]
  rfl

theorem responds_readByUuidReqHandle (server : Server) (link : Link)
    (sized : pdu.length ≤ stackMtuMax) :
    (Responds .readByUuidReq (server.readByUuidReqHandle link pdu).2 ∧
      ∀ request, readByUuidReqPreHandle pdu = .ok request →
        server.Reserved link request) ∨
    ((server.readByUuidReqHandle link pdu).2 = none ∧
      ∃ request, readByUuidReqPreHandle pdu = .ok request ∧
        ¬ server.Reserved link request) := by
  unfold readByUuidReqHandle
  cases parsed : readByUuidReqPreHandle pdu with
  | error response =>
    exact .inl ⟨responds_readByUuidReqPreHandle sized parsed, by simp⟩
  | ok request =>
    dsimp only
    by_cases room : server.Reserved link request
    · refine .inl ⟨?_, ?_⟩
      · cases found : server.findPropertys request with
        | nil => exact ⟨_, rfl, .inl ⟨.readByUuidRsp, rfl, rfl⟩⟩
        | cons property properties =>
          dsimp only
          rw [← found]
          exact responds_readByUuidAnswer room
      · rintro other ⟨⟩
        exact room
    · refine .inr ⟨?_, request, rfl, room⟩
      have exceeds := readByUuidAnswer_none room
      cases found : server.findPropertys request with
      | nil =>
        unfold Reserved uuidLength at room
        rw [found] at room
        simp at room
      | cons property properties =>
        dsimp only
        rw [← found]
        exact exceeds

/-- The entry of `g_dispatchTable` for a code. -/
def handle (server : Server) (link : Link) (code : MsgCode) (pdu : Bytes) :
    Outcome :=
  match code with
  | .exchangeInfoReq => server.exchangeInfoReqHandle link pdu
  | .readReq => server.readReqHandle link pdu
  | .readByUuidReq => server.readByUuidReqHandle link pdu
  | .writeCmd => (server.writeCmdHandle link pdu, none)
  | .writeReq => server.writeReqHandle link pdu
  | .callMethodCmd => server.methodHandle link .callMethodCmd pdu
  | .callMethodReq => server.methodHandle link .callMethodReq pdu
  | _ => (server, none)

theorem dispatch_eq (opcode : pdu.head? = some code.value) :
    server.dispatch link pdu = server.handle link code pdu := by
  unfold dispatch
  rw [opcode]
  cases code <;> rfl

theorem serve_cases (server : Server) (isOld : Nat → Bool) (link : Link)
    (request : code.reply.isSome) (opcode : pdu.head? = some code.value) :
    (server.Dropped link code pdu ∧
      (server.serve isOld link code pdu).2 = none ∧
      (server.serve isOld link code pdu).1.pending = server.pending) ∨
    (¬ server.Dropped link code pdu ∧
      server.Settled link code pdu (server.serve isOld link code pdu)) := by
  cases code
  case exchangeInfoReq =>
    unfold serve
    rw [dispatch_eq opcode]
    dsimp only [handle, exchangeInfoReqHandle]
    split
    case isTrue dropped => exact .inl ⟨dropped, rfl, rfl⟩
    case isFalse dropped =>
      exact .inr ⟨dropped, .inl ⟨responds_reply rfl rfl, id⟩⟩
  case findStructureReq =>
    by_cases sized : pdu.length ≤ stackMtuMax
    · exact .inr ⟨Nat.not_lt.mpr sized, .inl
        ⟨responds_findReqHandle isOld (.inl rfl) sized, id⟩⟩
    · have long : pdu.length > stackMtuMax := Nat.lt_of_not_le sized
      refine .inl ⟨long, ?_, rfl⟩
      exact if_pos long
  case findStructureByUuidReq =>
    by_cases sized : pdu.length ≤ stackMtuMax
    · exact .inr ⟨Nat.not_lt.mpr sized, .inl
        ⟨responds_findReqHandle isOld (.inr rfl) sized, id⟩⟩
    · have long : pdu.length > stackMtuMax := Nat.lt_of_not_le sized
      refine .inl ⟨long, ?_, rfl⟩
      exact if_pos long
  case readReq =>
    unfold serve
    rw [dispatch_eq opcode]
    exact .inr ⟨id, readReqHandle_settled⟩
  case readByUuidReq =>
    unfold serve
    rw [dispatch_eq opcode]
    by_cases sized : pdu.length ≤ stackMtuMax
    · rcases responds_readByUuidReqHandle server link sized with
        ⟨responds, reserved⟩ | ⟨none, unreserved⟩
      · refine .inr ⟨?_, .inl ⟨responds, id⟩⟩
        rintro (long | ⟨request, parsed, exceeds⟩)
        · exact Nat.not_lt.mpr sized long
        · exact exceeds (reserved request parsed)
      · exact .inl ⟨.inr unreserved, none,
          congrArg pending (readByUuidReqHandle_fst server link pdu)⟩
    · have long : pdu.length > stackMtuMax := Nat.lt_of_not_le sized
      refine .inl ⟨.inl long, ?_, ?_⟩
      · dsimp only [handle]
        unfold readByUuidReqHandle readByUuidReqPreHandle
        rw [if_pos long]
      · exact congrArg pending (readByUuidReqHandle_fst server link pdu)
  case writeReq =>
    unfold serve
    rw [dispatch_eq opcode]
    exact .inr ⟨id, writeReqHandle_settled⟩
  case callMethodReq =>
    unfold serve
    rw [dispatch_eq opcode]
    by_cases sized : pdu.length ≤ stackMtuMax
    · exact .inr ⟨Nat.not_lt.mpr sized, methodHandle_settled sized⟩
    · have long : pdu.length > stackMtuMax := Nat.lt_of_not_le sized
      refine .inl ⟨long, ?_, ?_⟩
      all_goals
        dsimp only [handle, methodHandle]
        rw [if_pos long]
  all_goals cases request

end Server

end NearLink.Ssap
