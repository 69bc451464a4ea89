import NearLink.Ssap.Access

/-!
# Servers that differ in one value

Two servers whose tables agree but for an item stay so under every event, and
send the same unless the item may be read.  Each handler has one lemma for the
server it leaves and one for what it sends.
-/

namespace NearLink.Ssap

open Sdf Keyed List

def Alike (item : Item) (first second : Property) : Prop :=
  Table.eraseAt item first = Table.eraseAt item second

namespace Alike

variable {item : Item} {first second : Property}
  (alike : Alike item first second)
include alike

theorem handle : first.handle = second.handle := by
  have same := congrArg Property.handle alike
  simpa using same

theorem access (type : UInt8) : first.getPermissionAndOperation type =
      second.getPermissionAndOperation type := by
  have same := congrArg
    (fun property => property.getPermissionAndOperation type) alike
  simpa using same

theorem content {type : UInt8} (differs : item ≠ ⟨first.handle, type⟩) :
    first.content type = second.content type := by
  have same := congrArg (fun property => property.content type) alike
  have other : item ≠ ⟨second.handle, type⟩ := by
    rw [← alike.handle]
    exact differs
  simpa only [Table.content_eraseAt item first differs,
    Table.content_eraseAt item second other] using same

end Alike

theorem map_eq_map_of {α β γ : Type} {view : α → β} {left right : α → γ}
    {first second : List α} (same : first.map view = second.map view)
    (respects : ∀ before ∈ first, ∀ after, view before = view after →
      left before = right after) :
    first.map left = second.map right := by
  induction first generalizing second with
  | nil =>
    cases second with
    | nil => rfl
    | cons after second => cases same
  | cons before first induction =>
    cases second with
    | nil => cases same
    | cons after second =>
      rw [map_cons, map_cons, List.cons.injEq] at same
      rw [map_cons, map_cons, respects before (by simp) after same.1,
        induction same.2 fun earlier member =>
          respects earlier (.tail _ member)]

theorem getPropertyValue_congr {first second : Property} {type : UInt8}
    (link : Link) (same : first.content type = second.content type) :
    getPropertyValue link first type = getPropertyValue link second type := by
  unfold getPropertyValue
  rw [Property.getVal_eq_content, Property.getVal_eq_content, same]

namespace Server

structure Agree (item : Item) (first second : Server) : Prop where
  table : Table.Agree item first.table second.table
  links : first.links = second.links
  pending : first.pending = second.pending
  requestId : first.penddingRequestId = second.penddingRequestId
  authComplete : first.smIsSLinkAuthComplete = second.smIsSLinkAuthComplete
  encryptComplete :
    first.smIsSLinkEncryptComplete = second.smIsSLinkEncryptComplete

theorem erase_agree (server : Server) (item : Item) :
    Agree item (server.erase item) server :=
  ⟨Table.erase_agree server.table item, rfl, rfl, rfl, rfl, rfl⟩

namespace Agree

variable {item : Item} {first second : Server} (agree : Agree item first second)
  {found : Property} {link : Link} {operation : BufferedOperation}
include agree

theorem symm : Agree item second first :=
  ⟨agree.table.symm, agree.links.symm, agree.pending.symm,
    agree.requestId.symm, agree.authComplete.symm,
    agree.encryptComplete.symm⟩

theorem property (handle : Nat) :
    (first.table.getPropertyByHandle handle = none ∧
      second.table.getPropertyByHandle handle = none) ∨
    ∃ found other, first.table.getPropertyByHandle handle = some found ∧
      second.table.getPropertyByHandle handle = some other ∧
      Alike item found other := by
  have same := agree.table.getPropertyByHandle handle
  cases before : first.table.getPropertyByHandle handle with
  | none =>
    rw [before] at same
    cases after : second.table.getPropertyByHandle handle with
    | none => exact .inl ⟨rfl, rfl⟩
    | some other =>
      rw [after] at same
      cases same
  | some found =>
    rw [before] at same
    cases after : second.table.getPropertyByHandle handle with
    | none =>
      rw [after] at same
      cases same
    | some other =>
      rw [after] at same
      exact .inr ⟨found, other, rfl, rfl, Option.some.inj same⟩

theorem readControlCheck :
    first.readControlCheck = second.readControlCheck := by
  funext opIndication permissions link
  unfold Server.readControlCheck
  rw [agree.authComplete, agree.encryptComplete]

theorem writeControlCheck :
    first.writeControlCheck = second.writeControlCheck := by
  funext link opIndication permissions type opCode
  unfold Server.writeControlCheck
  rw [agree.authComplete, agree.encryptComplete]

theorem methodCallCheck : first.methodCallCheck = second.methodCallCheck := by
  funext permissions link
  unfold Server.methodCallCheck
  rw [agree.authComplete, agree.encryptComplete]

theorem findSsapLinkByAddr (addr : Addr) :
    first.findSsapLinkByAddr addr = second.findSsapLinkByAddr addr := by
  unfold Server.findSsapLinkByAddr
  rw [agree.links]

theorem findSsapLinkByLcid (lcid : Nat) :
    first.findSsapLinkByLcid lcid = second.findSsapLinkByLcid lcid := by
  unfold Server.findSsapLinkByLcid
  rw [agree.links]

theorem popOperationPenddingVector (requestId : UInt16) :
    first.popOperationPenddingVector requestId =
      second.popOperationPenddingVector requestId := by
  unfold Server.popOperationPenddingVector
  rw [agree.pending]

theorem recipient (event : Event) :
    first.recipient event = second.recipient event := by
  cases event with
  | recv lcid pdu => exact agree.findSsapLinkByLcid lcid
  | connected | disconnected | security => rfl
  | _ =>
    simp only [Server.recipient, Server.answered,
      agree.popOperationPenddingVector, agree.findSsapLinkByAddr]

theorem pushOperationPenddingVector (operation : BufferedOperation) :
    Agree item (first.pushOperationPenddingVector operation)
      (second.pushOperationPenddingVector operation) := { agree with
  pending := by
    simp [Server.pushOperationPenddingVector, agree.pending, agree.requestId]
  requestId := by
    simp [Server.pushOperationPenddingVector, agree.requestId] }

theorem removePending (requestId : UInt16) :
    Agree item (first.removePending requestId)
      (second.removePending requestId) := { agree with
  pending := by simp [Server.removePending, agree.pending] }

theorem updatePropertyValue {other : Property} (alike : Alike item found other)
    (type : UInt8) (value : Bytes) (addr : Addr) :
    Agree item (first.updatePropertyValue found type value addr).1
        (second.updatePropertyValue other type value addr).1 ∧
      (first.updatePropertyValue found type value addr).2 =
        (second.updatePropertyValue other type value addr).2 := by
  rw [updatePropertyValue_eq, updatePropertyValue_eq, alike.access,
    alike.handle]
  split
  · exact ⟨{ agree with
      table := agree.table.updatePropertyValue other.handle type value addr },
      rfl⟩
  · exact ⟨agree, rfl⟩

theorem handleReadReqError (handle : Nat) :
    first.handleReadReqError handle = second.handleReadReqError handle := by
  unfold Server.handleReadReqError
  rw [agree.table.isHandleExist]

theorem readSingleHandleReq (link : Link) (other : Item) :
    Agree item (first.readSingleHandleReq link other).1
        (second.readSingleHandleReq link other).1 ∧
      (first.Hidden link item → (first.readSingleHandleReq link other).2 =
          (second.readSingleHandleReq link other).2) := by
  unfold Server.readSingleHandleReq
  rw [agree.handleReadReqError, ← agree.readControlCheck]
  obtain ⟨before, after⟩ | ⟨found, alike, before, after, same⟩ :=
    agree.property other.handle
  all_goals rw [before, after]
  · exact ⟨agree, fun _ => rfl⟩
  · dsimp only
    rw [same.access]
    cases access : alike.getPermissionAndOperation other.type with
    | none => exact ⟨agree, fun _ => rfl⟩
    | some pair =>
      obtain ⟨permissions, opIndication⟩ := pair
      dsimp only
      cases checked : first.readControlCheck opIndication permissions link
      case success =>
        dsimp only
        split
        · exact ⟨agree.pushOperationPenddingVector _, fun _ => rfl⟩
        next free =>
          refine ⟨agree, fun hidden => ?_⟩
          have differs : item ≠ ⟨found.handle, other.type⟩ := by
            rintro rfl
            apply free
            apply hidden permissions opIndication _ checked
            rw [Table.access_of_located before, same.access, access]
          rw [getPropertyValue_congr link (same.content differs)]
      all_goals exact ⟨agree, fun _ => rfl⟩

theorem checkMultiReadAuthNeed (items : List Item) :
    first.checkMultiReadAuthNeed items =
      second.checkMultiReadAuthNeed items := by
  unfold Server.checkMultiReadAuthNeed
  congr 1
  funext other
  obtain ⟨before, after⟩ | ⟨found, alike, before, after, same⟩ :=
    agree.property other.handle
  all_goals rw [before, after]
  · dsimp only
    rw [same.access]

theorem readMultiHandleItem (hidden : first.Hidden link item) {other : Item}
    (free : ∀ permissions opIndication,
      first.table.access other = some (permissions, opIndication) →
      permissions &&& permissionAuthorizationNeed = 0) :
    first.readMultiHandleItem link other =
      second.readMultiHandleItem link other := by
  unfold Server.readMultiHandleItem
  rw [← agree.readControlCheck]
  obtain ⟨before, after⟩ | ⟨found, alike, before, after, same⟩ :=
    agree.property other.handle
  · rw [before, after]
  · have named : found.handle = other.handle := lookup_key before
    rw [before, after]
    dsimp only
    rw [same.access]
    cases access : alike.getPermissionAndOperation other.type with
    | none => rfl
    | some pair =>
      obtain ⟨permissions, opIndication⟩ := pair
      dsimp only
      cases checked : first.readControlCheck opIndication permissions link
      case success =>
        have known : first.table.access ⟨found.handle, other.type⟩ =
            some (permissions, opIndication) := by
          rw [Table.access_of_located before, same.access, access]
        have differs : item ≠ ⟨found.handle, other.type⟩ := by
          rintro rfl
          apply hidden permissions opIndication known checked
          apply free permissions opIndication
          rw [← known, named]
        rw [getPropertyValue_congr link (same.content differs)]
      all_goals rfl

theorem readReqHandle (link : Link) (pdu : Bytes) :
    Agree item (first.readReqHandle link pdu).1
        (second.readReqHandle link pdu).1 ∧
      (first.Hidden link item → (first.readReqHandle link pdu).2 =
          (second.readReqHandle link pdu).2) := by
  unfold Server.readReqHandle
  split
  · exact ⟨agree, fun _ => rfl⟩
  split
  · exact ⟨agree, fun _ => rfl⟩
  split
  · exact ⟨agree, fun _ => rfl⟩
  split
  · exact ⟨agree, fun _ => rfl⟩
  split
  · exact agree.readSingleHandleReq link _
  · rw [← agree.checkMultiReadAuthNeed]
    split
    · exact ⟨agree, fun _ => rfl⟩
    next admitted =>
      refine ⟨agree, fun hidden => ?_⟩
      have same :
          (readReqItems (pdu.drop 2)).map (first.readMultiHandleItem link) =
            (readReqItems (pdu.drop 2)).map
              (second.readMultiHandleItem link) := by
        apply map_congr_left
        intro other member
        exact agree.readMultiHandleItem hidden
          (free_of_checkMultiReadAuthNeed admitted member)
      rw [same]

theorem findPropertys (request : ReadByUuidReq) :
    (first.findPropertys request).map (Table.eraseAt item) =
      (second.findPropertys request).map (Table.eraseAt item) :=
  agree.table.getPropertyByUuid _ _ _

theorem readByUuidCheckError {other : Property} (alike : Alike item found other)
    (link : Link) (type : UInt8) : first.readByUuidCheckError link found type =
      second.readByUuidCheckError link other type := by
  rw [readByUuidCheckError_eq, readByUuidCheckError_eq, alike.access,
    agree.readControlCheck]

theorem readByUuidItem (hidden : first.Hidden link item) {other : Property}
    (member : found ∈ first.table.properties) (alike : Alike item found other)
    {type : UInt8} (several : Bool)
    (free : first.readByUuidCheckError link found type = .success →
      ∀ permissions opIndication, found.getPermissionAndOperation type =
          some (permissions, opIndication) →
        permissions &&& permissionAuthorizationNeed = 0) :
    first.readByUuidItem link type several found =
      second.readByUuidItem link type several other := by
  unfold Server.readByUuidItem
  rw [← agree.readByUuidCheckError alike]
  cases checked : first.readByUuidCheckError link found type
  case success =>
    have differs : item ≠ ⟨found.handle, type⟩ := by
      rintro rfl
      cases access : found.getPermissionAndOperation type with
      | none => simp [readByUuidCheckError_eq, access] at checked
      | some pair =>
        obtain ⟨permissions, opIndication⟩ := pair
        have known : first.table.access ⟨found.handle, type⟩ =
            some (permissions, opIndication) := by
          rw [Table.access_of_mem member, access]
        apply hidden permissions opIndication known
        · rw [readByUuidCheckError_eq, access] at checked
          exact checked
        · exact free checked permissions opIndication access
    rw [getPropertyValue_congr link (alike.content differs), alike.handle]
  all_goals rfl

theorem readByUuidReqHandle_sent (hidden : first.Hidden link item) (pdu : Bytes)
    (regular : ∀ request, readByUuidReqPreHandle pdu = .ok request →
      first.UuidRegular link request)
    (fits : ∀ request, readByUuidReqPreHandle pdu = .ok request →
      ((second.findPropertys request).map
        (appendLen link request.dataType)).sum ≤ uint16Max) :
    (first.readByUuidReqHandle link pdu).2 =
      (second.readByUuidReqHandle link pdu).2 := by
  unfold Server.readByUuidReqHandle
  cases parsed : readByUuidReqPreHandle pdu with
  | error response => rfl
  | ok request =>
    have images := agree.findPropertys request
    have sizes : (first.findPropertys request).length =
        (second.findPropertys request).length := by
      simpa using congrArg List.length images
    have items : ∀ several,
        first.uuidItems link request.dataType several
            (first.findPropertys request) =
          second.uuidItems link request.dataType several
            (second.findPropertys request) := by
      intro several
      apply map_eq_map_of images
      intro found member other same
      have alike : Alike item found other := same
      rw [alike.handle]
      congr 1
      exact agree.readByUuidItem hidden (mem_filter.mp member).1 alike
        several ((regular request parsed).1 found member)
    have answers : first.readByUuidAnswer link request.dataType
          (first.findPropertys request) =
        second.readByUuidAnswer link request.dataType
          (second.findPropertys request) := by
      rw [readByUuidAnswer_eq (regular request parsed).2,
        readByUuidAnswer_eq (fits request parsed)]
      dsimp only
      rw [sizes, items]
    dsimp only
    cases before : first.findPropertys request with
    | nil =>
      rw [before] at sizes
      rw [length_eq_zero_iff.mp sizes.symm]
    | cons found properties =>
      cases after : second.findPropertys request with
      | nil =>
        rw [before, after] at sizes
        cases sizes
      | cons other others =>
        rw [before, after] at answers
        exact answers

theorem writeSingleItem (link : Link) (operation : BufferedOperation) :
    Agree item (first.writeSingleItem link operation).1
        (second.writeSingleItem link operation).1 ∧
      (first.writeSingleItem link operation).2 =
        (second.writeSingleItem link operation).2 := by
  unfold Server.writeSingleItem
  rw [← agree.writeControlCheck]
  obtain ⟨before, after⟩ | ⟨found, other, before, after, alike⟩ :=
    agree.property operation.propertyHandle
  all_goals rw [before, after]
  · exact ⟨agree, rfl⟩
  · dsimp only
    rw [alike.access]
    cases other.getPermissionAndOperation operation.dataType with
    | none => exact ⟨agree, rfl⟩
    | some pair =>
      obtain ⟨permissions, opIndication⟩ := pair
      dsimp only
      cases first.writeControlCheck link opIndication permissions
        operation.dataType .writeReq
      case success =>
        dsimp only
        split
        · exact ⟨agree.pushOperationPenddingVector operation, rfl⟩
        · have updated := agree.updatePropertyValue alike
            operation.dataType operation.value link.addr
          exact ⟨updated.1, by dsimp only; rw [updated.2]⟩
      all_goals exact ⟨agree, rfl⟩

theorem writeSingleHandleReq (link : Link) (pdu : Bytes) :
    Agree item (first.writeSingleHandleReq link pdu).1
        (second.writeSingleHandleReq link pdu).1 ∧
      (first.writeSingleHandleReq link pdu).2 =
        (second.writeSingleHandleReq link pdu).2 := by
  unfold Server.writeSingleHandleReq
  dsimp only
  split
  · exact ⟨agree, rfl⟩
  split
  · exact ⟨agree, rfl⟩
  · exact agree.writeSingleItem link _

theorem writeSingleCmdHandle (link : Link) (pdu : Bytes) :
    Agree item (first.writeSingleCmdHandle link pdu)
      (second.writeSingleCmdHandle link pdu) := by
  unfold Server.writeSingleCmdHandle
  dsimp only
  split
  · exact agree
  rw [← agree.writeControlCheck]
  generalize composeOperation .writeCmd link pdu = operation
  obtain ⟨before, after⟩ | ⟨found, other, before, after, alike⟩ :=
    agree.property operation.propertyHandle
  all_goals rw [before, after]
  · exact agree
  · dsimp only
    rw [alike.access]
    cases other.getPermissionAndOperation operation.dataType with
    | none => exact agree
    | some pair =>
      obtain ⟨permissions, opIndication⟩ := pair
      dsimp only
      cases first.writeControlCheck link opIndication permissions
        operation.dataType .writeCmd
      case success =>
        dsimp only
        split
        · exact agree.pushOperationPenddingVector operation
        · exact (agree.updatePropertyValue alike operation.dataType
            operation.value link.addr).1
      all_goals exact agree

section

variable {other : Property} (alike : Alike item found other) (link : Link)
include alike

theorem validateSubItem (opCode : MsgCode) (subItem : MultiSubItem) :
    first.validateSubItem link opCode subItem found =
      second.validateSubItem link opCode subItem other := by
  unfold Server.validateSubItem
  rw [alike.access, agree.writeControlCheck]

theorem writeMultiHandleItem (result : WriteResultItem)
    (subItems : List MultiSubItem) :
    Agree item (first.writeMultiHandleItem link found result subItems).1
        (second.writeMultiHandleItem link other result subItems).1 ∧
      (first.writeMultiHandleItem link found result subItems).2 =
        (second.writeMultiHandleItem link other result subItems).2 := by
  induction subItems generalizing first second result with
  | nil => exact ⟨agree, rfl⟩
  | cons subItem subItems induction =>
    unfold Server.writeMultiHandleItem
    rw [agree.validateSubItem alike]
    cases second.validateSubItem link .writeReq subItem other with
    | «continue» => exact induction agree _
    | normalExecution =>
      have updated := agree.updatePropertyValue alike subItem.type
        subItem.value link.addr
      dsimp only
      rw [updated.2]
      split
      · exact ⟨updated.1, rfl⟩
      split
      · exact ⟨updated.1, rfl⟩
      · exact induction updated.1 _
    | _ => exact ⟨agree, rfl⟩

end

variable (link : Link)

theorem writeMultiItem (multiItem : MultiItem) :
    Agree item (first.writeMultiItem link multiItem).1
        (second.writeMultiItem link multiItem).1 ∧
      (first.writeMultiItem link multiItem).2 =
        (second.writeMultiItem link multiItem).2 := by
  unfold Server.writeMultiItem
  split
  · exact ⟨agree, rfl⟩
  · obtain ⟨before, after⟩ | ⟨found, other, before, after, alike⟩ :=
      agree.property multiItem.handle
    all_goals rw [before, after]
    · exact ⟨agree, rfl⟩
    · exact agree.writeMultiHandleItem alike link _ _

theorem writeMultiHandleItems (items : List MultiItem) :
    Agree item (first.writeMultiHandleItems link items).1
        (second.writeMultiHandleItems link items).1 ∧
      (first.writeMultiHandleItems link items).2 =
        (second.writeMultiHandleItems link items).2 := by
  induction items generalizing first second with
  | nil => exact ⟨agree, rfl⟩
  | cons multiItem items induction =>
    have written := agree.writeMultiItem link multiItem
    unfold Server.writeMultiHandleItems
    dsimp only
    rw [written.2]
    cases (second.writeMultiItem link multiItem).2 with
    | none => exact ⟨written.1, rfl⟩
    | some result =>
      have later := induction written.1
      exact ⟨later.1, by dsimp only; rw [later.2]⟩

theorem writeMultiHandleReq (pdu : Bytes) :
    Agree item (first.writeMultiHandleReq link pdu).1
        (second.writeMultiHandleReq link pdu).1 ∧
      (first.writeMultiHandleReq link pdu).2 =
        (second.writeMultiHandleReq link pdu).2 := by
  unfold Server.writeMultiHandleReq
  cases writeItems pdu with
  | none => exact ⟨agree, rfl⟩
  | some items =>
    have written := agree.writeMultiHandleItems link items
    dsimp only
    rw [written.2]
    cases (second.writeMultiHandleItems link items).2 with
    | none | some => exact ⟨written.1, rfl⟩

theorem writeMultiHandleCmdItem {other : Property}
    (alike : Alike item found other) (link : Link)
    (subItems : List MultiSubItem) :
    Agree item (first.writeMultiHandleCmdItem link found subItems).1
        (second.writeMultiHandleCmdItem link other subItems).1 ∧
      (first.writeMultiHandleCmdItem link found subItems).2 =
        (second.writeMultiHandleCmdItem link other subItems).2 := by
  induction subItems generalizing first second with
  | nil => exact ⟨agree, rfl⟩
  | cons subItem subItems induction =>
    unfold Server.writeMultiHandleCmdItem
    rw [agree.validateSubItem alike]
    cases second.validateSubItem link .writeCmd subItem other with
    | «continue» => exact induction agree
    | normalExecution =>
      have updated := agree.updatePropertyValue alike subItem.type
        subItem.value link.addr
      dsimp only
      rw [updated.2]
      split
      · exact ⟨updated.1, rfl⟩
      · exact induction updated.1
    | _ => exact ⟨agree, rfl⟩

section

variable (link : Link)

theorem writeMultiHandleCmdItems (items : List MultiItem) :
    Agree item (first.writeMultiHandleCmdItems link items)
      (second.writeMultiHandleCmdItems link items) := by
  induction items generalizing first second with
  | nil => exact agree
  | cons multiItem items induction =>
    unfold Server.writeMultiHandleCmdItems
    obtain ⟨before, after⟩ | ⟨found, other, before, after, alike⟩ :=
      agree.property multiItem.handle
    · rw [before, after]
      exact induction agree
    · have written :=
        agree.writeMultiHandleCmdItem alike link multiItem.subItems
      rw [before, after]
      dsimp only
      rw [written.2]
      split
      · exact induction written.1
      · exact written.1

variable (msgCode : MsgCode) (pdu : Bytes)

theorem writeReqHandle :
    Agree item (first.writeReqHandle link pdu).1
        (second.writeReqHandle link pdu).1 ∧
      (first.writeReqHandle link pdu).2 =
        (second.writeReqHandle link pdu).2 := by
  unfold Server.writeReqHandle
  split
  · exact ⟨agree, rfl⟩
  split
  · exact ⟨agree, rfl⟩
  split
  · exact ⟨agree, rfl⟩
  split
  · exact ⟨agree, rfl⟩
  split
  · exact agree.writeSingleHandleReq link pdu
  · exact agree.writeMultiHandleReq link pdu

theorem writeCmdHandle :
    Agree item (first.writeCmdHandle link pdu)
      (second.writeCmdHandle link pdu) := by
  unfold Server.writeCmdHandle
  split
  · exact agree
  split
  · exact agree
  split
  · exact agree
  split
  · exact agree.writeSingleCmdHandle link pdu
  · unfold Server.writeMultiHandleCmd
    cases writeItems pdu with
    | none => exact agree
    | some items => exact agree.writeMultiHandleCmdItems link items

theorem exchangeInfoReqHandle :
    Agree item (first.exchangeInfoReqHandle link pdu).1
        (second.exchangeInfoReqHandle link pdu).1 ∧
      (first.exchangeInfoReqHandle link pdu).2 =
        (second.exchangeInfoReqHandle link pdu).2 := by
  unfold Server.exchangeInfoReqHandle
  split
  · exact ⟨agree, rfl⟩
  · refine ⟨{ agree with links := ?_ }, rfl⟩
    rw [agree.links]

theorem methodHandle :
    Agree item (first.methodHandle link msgCode pdu).1
        (second.methodHandle link msgCode pdu).1 ∧
      (first.methodHandle link msgCode pdu).2 =
        (second.methodHandle link msgCode pdu).2 := by
  unfold Server.methodHandle
  dsimp only
  rw [← agree.table.getMethodByHandle, ← agree.table.isHandleExist,
    ← agree.methodCallCheck]
  split
  · exact ⟨agree, rfl⟩
  split
  · exact ⟨agree, rfl⟩
  split
  · exact ⟨agree, rfl⟩
  cases first.table.getMethodByHandle (decode16 pdu 2) with
  | none =>
    dsimp only
    split <;> exact ⟨agree, rfl⟩
  | some method =>
    dsimp only
    cases first.methodCallCheck method.permission link
    case success => exact ⟨agree.pushOperationPenddingVector _, rfl⟩
    all_goals exact ⟨agree, rfl⟩

end

theorem sendUserResponseCaseWrite (operation : BufferedOperation) :
    Agree item (first.sendUserResponseCaseWrite operation).1
        (second.sendUserResponseCaseWrite operation).1 ∧
      (first.sendUserResponseCaseWrite operation).2 =
        (second.sendUserResponseCaseWrite operation).2 := by
  unfold Server.sendUserResponseCaseWrite
  obtain ⟨before, after⟩ | ⟨found, other, before, after, alike⟩ :=
    agree.property operation.propertyHandle
  · rw [before, after]
    exact ⟨agree, rfl⟩
  · have updated := agree.updatePropertyValue alike operation.dataType
      operation.value operation.addr
    rw [before, after]
    exact ⟨updated.1, by dsimp only; rw [updated.2]⟩

section

variable (link : Link)

theorem sendUserResponseCaseRead (operation : BufferedOperation)
    (param : SendResponseValue) :
    Agree item (first.sendUserResponseCaseRead link operation param).1
      (second.sendUserResponseCaseRead link operation param).1 := by
  unfold Server.sendUserResponseCaseRead
  obtain ⟨before, after⟩ | ⟨found, other, before, after, alike⟩ :=
    agree.property operation.propertyHandle
  all_goals rw [before, after]
  · exact agree
  · dsimp only
    split
    · exact (agree.updatePropertyValue alike operation.dataType param.data
        operation.addr).1
    · exact agree

theorem sendUserResponseCaseRead_sent (param : SendResponseValue)
    (differs : item ≠ itemOf operation) :
    (first.sendUserResponseCaseRead link operation param).2 =
      (second.sendUserResponseCaseRead link operation param).2 := by
  unfold Server.sendUserResponseCaseRead
  obtain ⟨before, after⟩ | ⟨found, other, before, after, alike⟩ :=
    agree.property operation.propertyHandle
  · rw [before, after]
  · have named : found.handle = operation.propertyHandle := lookup_key before
    have same : found.content operation.dataType =
        other.content operation.dataType := by
      apply alike.content
      rw [named]
      exact differs
    rw [before, after]
    dsimp only
    split
    · have stored :
          (found.updated operation.dataType param.data
            operation.addr).content operation.dataType =
          (other.updated operation.dataType param.data
            operation.addr).content operation.dataType :=
        Property.content_updated_congr same
      exact congrArg (fun value => some (sendReadReqRsp value))
        (getPropertyValue_congr link stored)
    · rw [getPropertyValue_congr link same]

theorem resume (operation : BufferedOperation) (param : SendResponseValue) :
    Agree item (first.resume link operation param).1
      (second.resume link operation param).1 := by
  unfold Server.resume
  split
  · split
    · exact agree.sendUserResponseCaseRead link operation param
    · exact agree
  · split
    · exact (agree.sendUserResponseCaseWrite operation).1
    · exact agree
  · split
    · exact (agree.sendUserResponseCaseWrite operation).1
    · exact agree
  · exact agree

theorem resume_sent {param : SendResponseValue}
    (withheld : operation.msgCode = .readReq → param.status = authAllow →
      item ≠ itemOf operation) : (first.resume link operation param).2 =
      (second.resume link operation param).2 := by
  unfold Server.resume
  split
  next code =>
    split
    · exact agree.sendUserResponseCaseRead_sent link param (withheld code ‹_›)
    · rfl
  any_goals
    split
    · exact (agree.sendUserResponseCaseWrite operation).2
    · rfl
  rfl

theorem dispatch (pdu : Bytes) :
    Agree item (first.dispatch link pdu).1 (second.dispatch link pdu).1 := by
  unfold Server.dispatch
  split
  · exact agree
  split
  any_goals exact (agree.methodHandle link _ pdu).1
  · exact agree
  · exact (agree.exchangeInfoReqHandle link pdu).1
  · exact (agree.readReqHandle link pdu).1
  · rw [readByUuidReqHandle_fst, readByUuidReqHandle_fst]
    exact agree
  · exact agree.writeCmdHandle link pdu
  · exact (agree.writeReqHandle link pdu).1
  · exact agree

end

theorem next (event : Event) :
    Agree item (first.next event) (second.next event) := by
  cases event with
  | connected addr lcid mtu =>
    refine { agree with links := ?_ }
    simp [Server.next, Server.step, agree.links]
  | disconnected addr =>
    refine { agree with
      table := agree.table.cleanServiceCpcd addr
      links := ?_ }
    simp [Server.next, Server.step, agree.links]
  | security authComplete encryptComplete =>
    exact { agree with authComplete := rfl, encryptComplete := rfl }
  | recv lcid pdu =>
    unfold Server.next Server.step
    dsimp only
    rw [← agree.findSsapLinkByLcid]
    cases first.findSsapLinkByLcid lcid with
    | none => exact agree
    | some link => exact agree.dispatch link pdu
  | userResponse param =>
    unfold Server.next Server.step Server.sendUserResponse
    dsimp only
    rw [← agree.popOperationPenddingVector]
    cases first.popOperationPenddingVector param.requestId with
    | none => exact agree
    | some operation =>
      dsimp only
      rw [← agree.findSsapLinkByAddr]
      cases first.findSsapLinkByAddr operation.addr with
      | none => exact agree.removePending _
      | some link => exact (agree.resume link operation param).removePending _
  | methodCallRes requestId data =>
    unfold Server.next Server.step Server.sendMethodCallRes
    dsimp only
    rw [← agree.popOperationPenddingVector]
    cases first.popOperationPenddingVector requestId with
    | none => exact agree
    | some operation =>
      dsimp only
      rw [← agree.findSsapLinkByAddr]
      cases first.findSsapLinkByAddr operation.addr with
      | none | some => exact agree.removePending _

end Agree

end Server

end NearLink.Ssap
