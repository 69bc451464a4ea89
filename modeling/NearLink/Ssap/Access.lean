import Mathlib.Algebra.Order.BigOperators.Group.List
import NearLink.Ssap.Erase
import NearLink.Ssap.Server
import NearLink.Transition

/-!
# Access control

Who may read and write an item at a step of a server, and what a run has to
respect.  A value reaches the wire when erasing it changes what is sent.  The
last section names the steps at which the handlers forget a test.
-/

namespace NearLink.Ssap.Server

open Sdf Keyed Transition List

def Permits (server : Server) (link : Link) (permissions : UInt8) : Prop :=
  (permissions &&& permissionAuthenticationNeed ≠ 0 →
    server.smIsSLinkAuthComplete link.lcid) ∧
  (permissions &&& permissionEncryptionNeed ≠ 0 →
    server.smIsSLinkEncryptComplete link.lcid)

def itemOf (operation : BufferedOperation) : Item :=
  ⟨operation.propertyHandle, operation.dataType⟩

def Accesses (code : MsgCode) : Prop :=
  code = .readReq ∨ code = .writeCmd ∨ code = .writeReq

/-- The event is an answer of the application that allows one pending request,
which the client of the link made for the item. -/
def Authorised (server : Server) (event : Event) (link : Link) (item : Item)
    (code : MsgCode) : Prop :=
  ∃ param operation, event = .userResponse param ∧ param.status = authAllow ∧
    (server.pending.filter fun pended =>
      pended.requestId = param.requestId) = [operation] ∧
    operation.addr.addr = link.client ∧ itemOf operation = item ∧
    operation.msgCode = code

def Allowed (server : Server) (event : Event) (item : Item) (code : MsgCode)
    (indicated : UInt32 → Prop) : Prop :=
  ∃ link permissions opIndication, server.recipient event = some link ∧
    server.table.access item = some (permissions, opIndication) ∧
    indicated opIndication ∧ server.Permits link permissions ∧
    (permissions &&& permissionAuthorizationNeed ≠ 0 →
      server.Authorised event link item code)

def MayRead (server : Server) (event : Event) (item : Item) : Prop :=
  server.Allowed event item .readReq fun opIndication =>
    opIndication &&& operateIndicationRead ≠ 0

def requestCode (server : Server) : Event → Option MsgCode
  | .recv _ pdu => pdu.head?.bind MsgCode.ofByte
  | event => (server.answered event).map BufferedOperation.msgCode

def MayWrite (server : Server) (event : Event) (item : Item) : Prop :=
  ∃ code, server.requestCode event = some code ∧
    (code = .writeCmd ∨ code = .writeReq) ∧
    server.Allowed event item code fun opIndication =>
      writeIndication opIndication item.type code ≠ 0

/-- What the event changes, it changes for a client.  The value an application
sends along with the answer to a read is its own. -/
def Requested (server : Server) : Event → Prop
  | .recv _ _ => True
  | .userResponse param =>
    ∀ operation, server.popOperationPenddingVector param.requestId =
      some operation → operation.msgCode ≠ .readReq
  | _ => False

def erase (server : Server) (item : Item) : Server :=
  { server with table := server.table.erase item }

structure Secure (server : Server) (event : Event) : Prop where
  reads : ∀ item, (server.erase item).sent event ≠ server.sent event →
    server.MayRead event item
  writes : ∀ item,
    (server.next event).table.content item ≠ server.table.content item →
    server.Requested event → server.MayWrite event item

def responsesTo (client : BitVec 48) : Server → List Event → List Bytes
  | _, [] => []
  | server, event :: events =>
    (if (server.recipient event).map Link.client = some client then
      (server.sent event).toList
    else []) ++ responsesTo client (server.next event) events

def Withheld (client : BitVec 48) (item : Item) (server : Server)
    (event : Event) : Prop :=
  (server.recipient event).map Link.client = some client →
    ¬ server.MayRead event item

/-- Tables that differ in the value of an item look the same to a client that
may not read it. -/
def Confidential (first second : Table) (events : List Event) : Prop :=
  ∀ item client, Table.Agree item first second →
    Meets Server.next (Withheld client item) (init first) events →
    responsesTo client (init first) events =
      responsesTo client (init second) events

/-- No property that a request by uuid may read needs an authorization, and
the lengths reserved for the properties add up within 16 bits. -/
def UuidRegular (server : Server) (link : Link) (request : ReadByUuidReq) :
    Prop :=
  (∀ property ∈ server.findPropertys request,
    server.readByUuidCheckError link property request.dataType = .success →
    ∀ permissions opIndication,
      property.getPermissionAndOperation request.dataType =
        some (permissions, opIndication) →
      permissions &&& permissionAuthorizationNeed = 0) ∧
  ((server.findPropertys request).map
    (appendLen link request.dataType)).sum ≤ uint16Max

/-- The request identifier of an answer is not in use twice, and the link to
the client still has what the item asks for. -/
def ResumeRegular (server : Server) (link : Link)
    (operation : BufferedOperation) : Prop :=
  (server.pending.filter fun pended =>
    pended.requestId = operation.requestId).length ≤ 1 ∧
  ∀ permissions opIndication, server.table.access (itemOf operation) =
      some (permissions, opIndication) →
    server.Permits link permissions

def Regular (server : Server) : Event → Prop
  | .recv lcid pdu =>
    ∀ link request, server.findSsapLinkByLcid lcid = some link →
      pdu.head? = some MsgCode.readByUuidReq.value →
      readByUuidReqPreHandle pdu = .ok request →
      server.UuidRegular link request
  | .userResponse param =>
    param.status = authAllow → ∀ operation link,
        server.popOperationPenddingVector param.requestId = some operation →
        server.findSsapLinkByAddr operation.addr = some link →
        Accesses operation.msgCode →
        server.ResumeRegular link operation
  | _ => True

variable {server : Server} {link : Link} {opIndication : UInt32}
  {permissions : UInt8}

theorem readControlCheck_success :
    server.readControlCheck opIndication permissions link = .success ↔
      opIndication &&& operateIndicationRead ≠ 0 ∧
        server.Permits link permissions := by
  unfold readControlCheck Permits
  split_ifs
  · simp [*]
  · simp_all
  · simp_all
  · simp_all

variable {type : UInt8} {property : Property} {several : Bool}
  {properties : List Property}

theorem readByUuidCheckError_eq :
    server.readByUuidCheckError link property type =
      match property.getPermissionAndOperation type with
      | none => .dataType
      | some (permissions, opIndication) =>
        server.readControlCheck opIndication permissions link :=
  rfl

theorem writeControlCheck_success {opCode : MsgCode} :
    server.writeControlCheck link opIndication permissions type opCode =
        .success ↔
      writeIndication opIndication type opCode ≠ 0 ∧
        server.Permits link permissions := by
  unfold writeControlCheck Permits
  split_ifs
  · simp [*]
  · simp_all
  · simp_all
  · simp_all

theorem updatePropertyValue_eq {value : Bytes} {addr : Addr} :
    server.updatePropertyValue property type value addr =
      if (property.getPermissionAndOperation type).isSome then
        ({ server with
            table := server.table.updatePropertyValue property.handle type
              value addr }, .success)
      else (server, .dataType) := by
  have same : (property.updatePropertyValue type value addr).isSome =
      (property.getPermissionAndOperation type).isSome :=
    property.isSome_updatePropertyValue
  unfold updatePropertyValue
  rw [← same]
  cases property.updatePropertyValue type value addr <;> rfl

def Hidden (server : Server) (link : Link) (item : Item) : Prop :=
  ∀ permissions opIndication,
    server.table.access item = some (permissions, opIndication) →
    server.readControlCheck opIndication permissions link = .success →
    permissions &&& permissionAuthorizationNeed ≠ 0

theorem free_of_checkMultiReadAuthNeed {items : List Item}
    (admitted : ¬ server.checkMultiReadAuthNeed items) {item : Item}
    (member : item ∈ items) (permissions : UInt8) (opIndication : UInt32)
    (access : server.table.access item = some (permissions, opIndication)) :
    permissions &&& permissionAuthorizationNeed = 0 := by
  by_contra needed
  apply admitted
  refine any_eq_true.mpr ⟨item, member, ?_⟩
  unfold Table.access at access
  cases located : server.table.getPropertyByHandle item.handle with
  | none =>
    rw [located] at access
    cases access
  | some property =>
    rw [located, Option.bind_some] at access
    simp [access, needed]

theorem readByUuidReqHandle_fst (server : Server) (link : Link) (pdu : Bytes) :
    (server.readByUuidReqHandle link pdu).1 = server := by
  unfold readByUuidReqHandle
  split
  · rfl
  · split <;> rfl

theorem length_encode16 (value : Nat) : (encode16 value).length = 2 := rfl

theorem appendLens_eq (dataLen : Nat) (properties : List Property)
    (fits : dataLen + (properties.map (appendLen link type)).sum ≤ uint16Max) :
    appendLens link type dataLen properties =
      dataLen + (properties.map (appendLen link type)).sum := by
  induction properties generalizing dataLen with
  | nil => simp [appendLens]
  | cons property properties induction =>
    rw [map_cons, sum_cons] at fits ⊢
    have room : ¬ dataLen > uint16Max - appendLen link type property := by
      omega
    rw [appendLens, if_neg room, induction _ (by omega)]
    omega

theorem length_addItem_le (property : Property) : (addItem property.handle
      (server.readByUuidItem link type several property)).length ≤
        appendLen link type property := by
  unfold readByUuidItem appendLen
  cases getPropertyValue link property type with
  | error errorCode => split <;> simp [addItem, length_encode16]
  | ok value =>
    split
    · cases several with
      | true =>
        simp only [if_true, addItem, length_append, length_encode16]
        omega
      | false => simp [addItem, length_encode16]
    · simp [addItem, length_encode16]

def uuidItems (server : Server) (link : Link) (type : UInt8) (several : Bool)
    (properties : List Property) : List (Nat × Except ErrCode Bytes) :=
  properties.map fun property =>
    (property.handle, server.readByUuidItem link type several property)

theorem readByUuidItems_eq {leftLen : Nat}
    (room : (properties.map fun property => (addItem property.handle
      (server.readByUuidItem link type several property)).length).sum ≤
        leftLen) : server.readByUuidItems link type several leftLen properties =
      let items := server.uuidItems link type several properties
      some (items.flatMap fun item => addItem item.1 item.2,
        items.any fun item => !item.2.isOk,
        items.any fun item => item.2.isOk) := by
  induction properties generalizing leftLen with
  | nil => rfl
  | cons property properties induction =>
    rw [map_cons, sum_cons] at room
    rw [readByUuidItems, if_neg (by omega), induction (by omega)]
    simp [uuidItems]

theorem single_room (property : Property) :
    ([property].map fun property => (addItem property.handle
      (server.readByUuidItem link type false property)).length).sum ≤
        readByUuidReqRspLen link [property] type := by
  unfold readByUuidReqRspLen readByUuidItem
  simp only [map_cons, map_nil, sum_cons, sum_nil]
  cases getPropertyValue link property type with
  | error | ok => split <;> simp [addItem, length_encode16]

theorem readByUuidAnswer_eq
    (fits : (properties.map (appendLen link type)).sum ≤ uint16Max) :
    server.readByUuidAnswer link type properties =
      let several := decide (properties.length > 1)
      let items := server.uuidItems link type several properties
      some (sendReadByUuidReqRsp link
        (items.flatMap fun item => addItem item.1 item.2)
        (several && items.any fun item => item.2.isOk)
        (items.any fun item => !item.2.isOk)) := by
  have covered : ∀ several,
      (properties.map fun property => (addItem property.handle
        (server.readByUuidItem link type several property)).length).sum ≤
          (properties.map (appendLen link type)).sum := fun several =>
    sum_le_sum fun property _ => length_addItem_le property
  have room : (properties.map fun property => (addItem property.handle
      (server.readByUuidItem link type (decide (properties.length > 1))
        property)).length).sum ≤ readByUuidReqRspLen link properties type := by
    rcases properties with _ | ⟨first, _ | ⟨second, rest⟩⟩
    · simp
    · exact single_room first
    · rw [readByUuidReqRspLen, appendLens_eq 0 _ (by omega)]
      · have bound := covered true
        simpa using bound
      · simp
  unfold readByUuidAnswer
  dsimp only
  rw [readByUuidItems_eq room]
  rfl

def Indicated (code : MsgCode) (type : UInt8) (opIndication : UInt32) :
    Prop :=
  match code with
  | .readReq => opIndication &&& operateIndicationRead ≠ 0
  | _ => writeIndication opIndication type code ≠ 0

def Admissible (table : Table) (operation : BufferedOperation) : Prop :=
  Accesses operation.msgCode → ∃ permissions opIndication,
      table.access (itemOf operation) = some (permissions, opIndication) ∧
      Indicated operation.msgCode operation.dataType opIndication

/-- Every pending operation was let through the first check. -/
def Sound (server : Server) : Prop :=
  ∀ operation ∈ server.pending, Admissible server.table operation

theorem init_sound (table : Table) : (init table).Sound := by
  intro operation member
  cases member

end NearLink.Ssap.Server
