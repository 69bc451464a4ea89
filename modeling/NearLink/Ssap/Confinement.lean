import NearLink.Ssap.Agreement

/-!
# What a step changes

One lemma for each handler says which items it may change and which operations
it may leave pending.  Together with the agreement of servers that differ in one
value they give the access control of whole runs.
-/

namespace NearLink.Ssap.Server

open Sdf Keyed Transition List

/-- Only allowed items are changed, permissions and indications stay, and new
pending operations have passed the first check. -/
structure Confined (allowed : Item → Prop) (before after : Server) :
    Prop where
  access : ∀ item, after.table.access item = before.table.access item
  content : ∀ item, ¬ allowed item →
    after.table.content item = before.table.content item
  pending : ∀ operation ∈ after.pending,
    operation ∈ before.pending ∨ Admissible before.table operation

namespace Confined

variable {allowed : Item → Prop} {first second third : Server}

theorem refl (server : Server) : Confined allowed server server :=
  ⟨fun _ => rfl, fun _ _ => rfl, fun _ member => .inl member⟩

theorem trans (earlier : Confined allowed first second)
    (later : Confined allowed second third) :
    Confined allowed first third where
  access item := (later.access item).trans (earlier.access item)
  content item denied :=
    (later.content item denied).trans (earlier.content item denied)
  pending operation member := by
    rcases later.pending operation member with old | admitted
    · exact earlier.pending operation old
    · right
      intro accesses
      obtain ⟨permissions, opIndication, found, indicated⟩ :=
        admitted accesses
      exact ⟨permissions, opIndication,
        (earlier.access (itemOf operation)).symm.trans found, indicated⟩

theorem mono {other : Item → Prop} (confined : Confined allowed first second)
    (weaker : ∀ item, allowed item → other item) :
    Confined other first second :=
  ⟨confined.access, fun item denied => confined.content item fun holds =>
    denied (weaker item holds), confined.pending⟩

theorem sound (confined : Confined allowed first second) (sound : first.Sound) : second.Sound := by
  intro operation member accesses
  have admitted : Admissible first.table operation := by
    rcases confined.pending operation member with old | fresh
    · exact sound operation old
    · exact fresh
  obtain ⟨permissions, opIndication, found, indicated⟩ := admitted accesses
  exact ⟨permissions, opIndication,
    (confined.access (itemOf operation)).trans found, indicated⟩

theorem push {operation : BufferedOperation}
    (admitted : Admissible first.table operation) :
    Confined allowed first (first.pushOperationPenddingVector operation) where
  access _ := rfl
  content _ _ := rfl
  pending := forall_mem_append.mpr ⟨fun _ old => .inl old,
    forall_mem_singleton.mpr (.inr admitted)⟩

theorem removePending (requestId : UInt16) :
    Confined allowed first (first.removePending requestId) :=
  ⟨fun _ => rfl, fun _ _ => rfl, fun _ member =>
    .inl (remove_sublist.subset member)⟩

theorem update {property : Property} {type : UInt8} {value : Bytes}
    {addr : Addr} (holds : allowed ⟨property.handle, type⟩) :
    Confined allowed first
      (first.updatePropertyValue property type value addr).1 := by
  rw [updatePropertyValue_eq]
  split
  · refine ⟨fun item => ?_, fun item denied => ?_, fun _ member =>
      .inl member⟩
    · exact Table.access_updatePropertyValue _ _ _ _ _ item
    · apply Table.content_updatePropertyValue
      rintro rfl
      exact denied holds
  · exact refl first

end Confined

def WriteAllowed (server : Server) (link : Link) (code : MsgCode)
    (item : Item) : Prop :=
  ∃ permissions opIndication,
    server.table.access item = some (permissions, opIndication) ∧
    server.writeControlCheck link opIndication permissions item.type code =
      .success ∧
    permissions &&& permissionAuthorizationNeed = 0

section

variable {server : Server} {link : Link} {property : Property}
  {allowed : Item → Prop} {operation : BufferedOperation} {value : Bytes}
  {type : UInt8} {addr : Addr}

theorem admissible_write (link : Link) {permissions : UInt8}
    {opIndication : UInt32}
    (code : operation.msgCode = .writeCmd ∨ operation.msgCode = .writeReq)
    (access : server.table.access (itemOf operation) =
      some (permissions, opIndication))
    (checked : server.writeControlCheck link opIndication permissions
      operation.dataType operation.msgCode = .success) :
    Admissible server.table operation := by
  intro _
  have indicated := (writeControlCheck_success.mp checked).1
  refine ⟨permissions, opIndication, access, ?_⟩
  rcases code with code | code
  all_goals
    rw [code] at indicated ⊢
    exact indicated

theorem written_confined {property : Property} {permissions : UInt8}
    {opIndication : UInt32} {code : MsgCode} (coded : operation.msgCode = code)
    (single : code = .writeCmd ∨ code = .writeReq)
    (located : server.table.getPropertyByHandle operation.propertyHandle =
      some property)
    (access : property.getPermissionAndOperation operation.dataType =
      some (permissions, opIndication))
    (checked : server.writeControlCheck link opIndication permissions
      operation.dataType code = .success) :
    Confined (server.WriteAllowed link code) server
      (if permissions &&& permissionAuthorizationNeed ≠ 0 then
        server.pushOperationPenddingVector operation
      else (server.updatePropertyValue property operation.dataType
        operation.value link.addr).1) := by
  have named : property.handle = operation.propertyHandle := lookup_key located
  have known := Table.access_of_located located operation.dataType
  rw [access] at known
  subst coded
  split
  · apply Confined.push
    apply admissible_write link single _ checked
    rw [named] at known
    exact known
  next free =>
    apply Confined.update
    exact ⟨permissions, opIndication, known, checked,
      Decidable.not_not.mp free⟩

theorem writeSingleItem_confined (code : operation.msgCode = .writeReq) :
    Confined (server.WriteAllowed link .writeReq) server
      (server.writeSingleItem link operation).1 := by
  unfold writeSingleItem
  cases located : server.table.getPropertyByHandle operation.propertyHandle with
  | none => exact .refl server
  | some property =>
    dsimp only
    cases access : property.getPermissionAndOperation operation.dataType with
    | none => exact .refl server
    | some pair =>
      obtain ⟨permissions, opIndication⟩ := pair
      dsimp only
      cases checked : server.writeControlCheck link opIndication
        permissions operation.dataType .writeReq
      case success =>
        dsimp only
        rw [apply_ite Prod.fst]
        exact written_confined code (.inr rfl) located access checked
      all_goals exact .refl server

variable (items : List MultiItem) (pdu : Bytes)

theorem writeSingleCmdHandle_confined :
    Confined (server.WriteAllowed link .writeCmd) server
      (server.writeSingleCmdHandle link pdu) := by
  unfold writeSingleCmdHandle
  dsimp only
  split
  · exact .refl server
  split
  · exact .refl server
  next located =>
    split
    · exact .refl server
    next access =>
      split
      next checked => exact written_confined rfl (.inl rfl) located access checked
      next => exact .refl server

theorem validateSubItem_normalExecution {code : MsgCode}
    {subItem : MultiSubItem}
    (known : ∀ type, server.table.access ⟨property.handle, type⟩ =
      property.getPermissionAndOperation type)
    (valid : server.validateSubItem link code subItem property =
      .normalExecution) :
    server.WriteAllowed link code ⟨property.handle, subItem.type⟩ := by
  unfold validateSubItem at valid
  split at valid
  · cases valid
  cases access : property.getPermissionAndOperation subItem.type with
  | none =>
    rw [access] at valid
    cases valid
  | some pair =>
    obtain ⟨permissions, opIndication⟩ := pair
    rw [access] at valid
    dsimp only at valid
    cases checked : server.writeControlCheck link opIndication permissions
      subItem.type code
    case success =>
      rw [checked] at valid
      dsimp only at valid
      split at valid
      · cases valid
      next free =>
        refine ⟨permissions, opIndication, ?_, checked,
          Decidable.not_not.mp free⟩
        rw [known, access]
    all_goals
      rw [checked] at valid
      cases valid

theorem update_checks :
    (server.updatePropertyValue property type value addr).1.WriteAllowed =
      server.WriteAllowed := by
  rw [updatePropertyValue_eq]
  split
  · funext link code item
    unfold WriteAllowed
    rw [Table.access_updatePropertyValue]
    rfl
  · rfl

structure Writes (allowed : Item → Prop) (before after : Server) : Prop where
  confined : Confined allowed before after
  checks : after.WriteAllowed = before.WriteAllowed

theorem Writes.refl (server : Server) : Writes allowed server server :=
  ⟨.refl server, rfl⟩

theorem Writes.trans {first second third : Server}
    (earlier : Writes allowed first second)
    (later : Writes allowed second third) : Writes allowed first third :=
  ⟨earlier.confined.trans later.confined, later.checks.trans earlier.checks⟩

theorem Writes.update (holds : allowed ⟨property.handle, type⟩) :
    Writes allowed server
      (server.updatePropertyValue property type value addr).1 :=
  ⟨.update holds, update_checks⟩

variable {server : Server}

theorem writeMultiHandleItem_writes (result : WriteResultItem)
    (subItems : List MultiSubItem)
    (known : ∀ type, server.table.access ⟨property.handle, type⟩ =
      property.getPermissionAndOperation type)
    (holds : ∀ item, server.WriteAllowed link .writeReq item → allowed item) :
    Writes allowed server
      (server.writeMultiHandleItem link property result subItems).1 := by
  induction subItems generalizing server result with
  | nil => exact .refl server
  | cons subItem subItems induction =>
    unfold writeMultiHandleItem
    cases valid : server.validateSubItem link .writeReq subItem property with
    | «continue» => exact induction _ known holds
    | normalExecution =>
      have write : Writes allowed server
          (server.updatePropertyValue property subItem.type
            subItem.value link.addr).1 :=
        .update (holds _ (validateSubItem_normalExecution known valid))
      dsimp only
      split
      · exact write
      split
      · exact write
      · apply write.trans
        apply induction
        · intro type
          rw [write.confined.access, known]
        · rw [write.checks]
          exact holds
    | _ => exact .refl server

theorem writeMultiItem_writes (item : MultiItem)
    (holds : ∀ item, server.WriteAllowed link .writeReq item → allowed item) :
    Writes allowed server (server.writeMultiItem link item).1 := by
  unfold writeMultiItem
  split
  · exact .refl server
  · cases located : server.table.getPropertyByHandle item.handle with
    | none => exact .refl server
    | some property =>
      exact writeMultiHandleItem_writes _ _
        (Table.access_of_located located) holds

theorem writeMultiHandleItems_writes
    (holds : ∀ item, server.WriteAllowed link .writeReq item → allowed item) :
    Writes allowed server (server.writeMultiHandleItems link items).1 := by
  induction items generalizing server with
  | nil => exact .refl server
  | cons item items induction =>
    have written := writeMultiItem_writes item holds
    unfold writeMultiHandleItems
    dsimp only
    cases (server.writeMultiItem link item).2 with
    | none => exact written
    | some result =>
      apply written.trans
      apply induction
      rw [written.checks]
      exact holds

theorem writeMultiHandleCmdItem_writes (subItems : List MultiSubItem)
    (known : ∀ type, server.table.access ⟨property.handle, type⟩ =
      property.getPermissionAndOperation type)
    (holds : ∀ item, server.WriteAllowed link .writeCmd item → allowed item) :
    Writes allowed server
      (server.writeMultiHandleCmdItem link property subItems).1 := by
  induction subItems generalizing server with
  | nil => exact .refl server
  | cons subItem subItems induction =>
    unfold writeMultiHandleCmdItem
    cases valid : server.validateSubItem link .writeCmd subItem property with
    | «continue» => exact induction known holds
    | normalExecution =>
      have write : Writes allowed server
          (server.updatePropertyValue property subItem.type
            subItem.value link.addr).1 :=
        .update (holds _ (validateSubItem_normalExecution known valid))
      dsimp only
      split
      · exact write
      · apply write.trans
        apply induction
        · intro type
          rw [write.confined.access, known]
        · rw [write.checks]
          exact holds
    | _ => exact .refl server

theorem writeMultiHandleCmdItems_writes
    (holds : ∀ item, server.WriteAllowed link .writeCmd item → allowed item) :
    Writes allowed server (server.writeMultiHandleCmdItems link items) := by
  induction items generalizing server with
  | nil => exact .refl server
  | cons item items induction =>
    unfold writeMultiHandleCmdItems
    cases located : server.table.getPropertyByHandle item.handle with
    | none => exact induction holds
    | some property =>
      have written := writeMultiHandleCmdItem_writes item.subItems
        (Table.access_of_located located) holds
      dsimp only
      split
      · apply written.trans
        apply induction
        rw [written.checks]
        exact holds
      · exact written

theorem writeReqHandle_confined :
    Confined (server.WriteAllowed link .writeReq) server
      (server.writeReqHandle link pdu).1 := by
  unfold writeReqHandle
  split
  · exact .refl server
  split
  · exact .refl server
  split
  · exact .refl server
  split
  · exact .refl server
  split
  · unfold writeSingleHandleReq
    dsimp only
    split
    · exact .refl server
    split
    · exact .refl server
    · exact writeSingleItem_confined rfl
  · unfold writeMultiHandleReq
    cases writeItems pdu with
    | none => exact .refl server
    | some items =>
      have written : Writes (server.WriteAllowed link .writeReq) server
          (server.writeMultiHandleItems link items).1 :=
        writeMultiHandleItems_writes items fun _ holds => holds
      dsimp only
      split <;> exact written.confined

theorem writeCmdHandle_confined :
    Confined (server.WriteAllowed link .writeCmd) server
      (server.writeCmdHandle link pdu) := by
  unfold writeCmdHandle
  split
  · exact .refl server
  split
  · exact .refl server
  split
  · exact .refl server
  split
  · exact writeSingleCmdHandle_confined pdu
  · unfold writeMultiHandleCmd
    cases writeItems pdu with
    | none => exact .refl server
    | some items =>
      exact (writeMultiHandleCmdItems_writes items fun _ holds =>
        holds).confined

theorem readSingleHandleReq_confined (item : Item) :
    Confined allowed server (server.readSingleHandleReq link item).1 := by
  unfold readSingleHandleReq
  cases located : server.table.getPropertyByHandle item.handle with
  | none => exact .refl server
  | some property =>
    have named : property.handle = item.handle := lookup_key located
    dsimp only
    cases access : property.getPermissionAndOperation item.type with
    | none => exact .refl server
    | some pair =>
      obtain ⟨permissions, opIndication⟩ := pair
      have known := Table.access_of_located located item.type
      rw [access, named] at known
      dsimp only
      cases checked : server.readControlCheck opIndication permissions link
      case success =>
        dsimp only
        split
        · apply Confined.push
          intro _
          exact ⟨permissions, opIndication, known,
            (readControlCheck_success.mp checked).1⟩
        · exact .refl server
      all_goals exact .refl server

theorem readReqHandle_confined :
    Confined allowed server (server.readReqHandle link pdu).1 := by
  unfold readReqHandle
  split
  · exact .refl server
  split
  · exact .refl server
  split
  · exact .refl server
  split
  · exact .refl server
  split
  · exact readSingleHandleReq_confined _
  · split <;> exact .refl server

theorem exchangeInfoReqHandle_confined :
    Confined allowed server (server.exchangeInfoReqHandle link pdu).1 := by
  unfold exchangeInfoReqHandle
  split
  · exact .refl server
  · exact ⟨fun _ => rfl, fun _ _ => rfl, fun _ member => .inl member⟩

theorem methodHandle_confined {msgCode : MsgCode}
    (method : ¬ Accesses msgCode) (pdu : Bytes) :
    Confined allowed server (server.methodHandle link msgCode pdu).1 := by
  unfold methodHandle
  dsimp only
  split
  · exact .refl server
  split
  · exact .refl server
  split
  · exact .refl server
  split
  · split <;> exact .refl server
  · split
    · apply Confined.push
      intro accesses
      exact absurd accesses method
    · exact .refl server

theorem resume_confined (operation : BufferedOperation)
    (param : SendResponseValue) :
    Confined (fun item => item = itemOf operation) server
      (server.resume link operation param).1 := by
  have write : Confined (fun item => item = itemOf operation) server
      (server.sendUserResponseCaseWrite operation).1 := by
    unfold sendUserResponseCaseWrite
    cases located : server.table.getPropertyByHandle
      operation.propertyHandle with
    | none => exact .refl server
    | some property =>
      apply Confined.update
      rw [lookup_key located]
      rfl
  unfold resume
  split
  · split
    · unfold sendUserResponseCaseRead
      cases located : server.table.getPropertyByHandle
        operation.propertyHandle with
      | none => exact .refl server
      | some property =>
        dsimp only
        split
        · apply Confined.update
          rw [lookup_key located]
          rfl
        · exact .refl server
    · exact .refl server
  · split
    · exact write
    · exact .refl server
  · split
    · exact write
    · exact .refl server
  · exact .refl server

theorem resume_refused {param : SendResponseValue}
    (refused : Accesses operation.msgCode → param.status ≠ authAllow) :
    (server.resume link operation param).1 = server := by
  unfold resume
  split
  next code =>
    rw [if_neg (refused (.inl code))]
  next code =>
    rw [if_neg (refused (.inr (.inl code)))]
  next code =>
    rw [if_neg (refused (.inr (.inr code)))]
  · rfl

end

section

variable {server : Server} {operation : BufferedOperation}
  {param : SendResponseValue} {link : Link} {pdu : Bytes} {lcid : Nat}

theorem filter_pending {requestId : UInt16}
    (found : server.popOperationPenddingVector requestId = some operation)
    (single : (server.pending.filter fun pended =>
      pended.requestId = operation.requestId).length ≤ 1) :
    (server.pending.filter fun pended => pended.requestId = requestId) =
      [operation] := by
  have named : operation.requestId = requestId := lookup_key found
  have member : operation ∈ server.pending.filter fun pended =>
      pended.requestId = requestId :=
    mem_filter.mpr ⟨lookup_mem found, by simp [named]⟩
  rw [named] at single
  cases listed : server.pending.filter fun pended =>
      pended.requestId = requestId with
  | nil =>
    rw [listed] at member
    cases member
  | cons first others =>
    rw [listed] at member single
    have short : others = [] :=
      length_eq_zero_iff.mp (by simpa using single)
    subst short
    rw [mem_singleton.mp member]

theorem allowed_of_answer (sound : server.Sound)
    (regular : server.Regular (.userResponse param))
    (allows : param.status = authAllow)
    (found : server.popOperationPenddingVector param.requestId = some operation)
    (located : server.findSsapLinkByAddr operation.addr = some link)
    (accesses : Accesses operation.msgCode) :
    server.Allowed (.userResponse param) (itemOf operation) operation.msgCode
      (Indicated operation.msgCode operation.dataType) := by
  obtain ⟨single, permits⟩ :=
    regular allows operation link found located accesses
  obtain ⟨permissions, opIndication, access, indicated⟩ :=
    sound operation (lookup_mem found) accesses
  refine ⟨link, permissions, opIndication, ?_, access, indicated,
    permits permissions opIndication access, ?_⟩
  · simp [recipient, answered, found, located]
  · intro _
    exact ⟨param, operation, rfl, allows, filter_pending found single,
      (lookup_key located).symm, rfl, rfl⟩

section

variable (located : server.findSsapLinkByLcid lcid = some link)
include located

theorem mayWrite_of_writeAllowed {code : MsgCode} {item : Item}
    (named : pdu.head?.bind MsgCode.ofByte = some code)
    (writes : code = .writeCmd ∨ code = .writeReq)
    (holds : server.WriteAllowed link code item) :
    server.MayWrite (.recv lcid pdu) item := by
  obtain ⟨permissions, opIndication, access, checked, free⟩ := holds
  obtain ⟨indicated, permits⟩ := writeControlCheck_success.mp checked
  exact ⟨code, named, writes, link, permissions, opIndication, located,
    access, indicated, permits, fun needed => absurd free needed⟩

theorem recv_confined :
    Confined (server.MayWrite (.recv lcid pdu)) server
      (server.dispatch link pdu).1 := by
  unfold dispatch
  cases opened : pdu.head? with
  | none => exact .refl server
  | some op =>
    dsimp only
    cases named : MsgCode.ofByte op with
    | none => exact .refl server
    | some code =>
      have request : pdu.head?.bind MsgCode.ofByte = some code := by
        rw [opened]
        exact named
      cases code
      case exchangeInfoReq => exact exchangeInfoReqHandle_confined pdu
      case readReq => exact readReqHandle_confined pdu
      case readByUuidReq =>
        rw [readByUuidReqHandle_fst]
        exact .refl server
      case writeCmd =>
        apply (writeCmdHandle_confined pdu).mono
        intro item holds
        exact mayWrite_of_writeAllowed located request (.inl rfl) holds
      case writeReq =>
        apply (writeReqHandle_confined pdu).mono
        intro item holds
        exact mayWrite_of_writeAllowed located request (.inr rfl) holds
      case callMethodCmd => exact methodHandle_confined (by simp [Accesses]) pdu
      case callMethodReq => exact methodHandle_confined (by simp [Accesses]) pdu
      all_goals exact .refl server

end

section

variable (sound : server.Sound)
include sound

theorem userResponse_confined (regular : server.Regular (.userResponse param)) :
    Confined (fun item => server.Requested (.userResponse param) →
        server.MayWrite (.userResponse param) item) server
      (server.sendUserResponse param).1 := by
  unfold sendUserResponse
  cases found : server.popOperationPenddingVector param.requestId with
  | none => exact .refl server
  | some operation =>
    dsimp only
    cases located : server.findSsapLinkByAddr operation.addr with
    | none => exact .removePending _
    | some link =>
      refine Confined.trans ?_ (.removePending _)
      by_cases effective :
          Accesses operation.msgCode ∧ param.status = authAllow
      · obtain ⟨accesses, allows⟩ := effective
        apply (resume_confined operation param).mono
        rintro item rfl requested
        have allowed := allowed_of_answer sound regular allows found
          located accesses
        have notRead := requested operation found
        have writes : operation.msgCode = .writeCmd ∨
            operation.msgCode = .writeReq :=
          accesses.resolve_left notRead
        refine ⟨operation.msgCode, ?_, writes, ?_⟩
        · simp [requestCode, answered, found]
        · rcases writes with code | code
          all_goals
            rw [code] at allowed ⊢
            exact allowed
      · rw [resume_refused fun accesses allows =>
          effective ⟨accesses, allows⟩]
        exact .refl server

theorem next_confined {event : Event} (regular : server.Regular event) :
    Confined (fun item => server.Requested event →
        server.MayWrite event item) server (server.next event) := by
  cases event with
  | disconnected addr =>
    refine ⟨fun item => ?_, fun item denied => ?_, fun _ member =>
      .inl member⟩
    · exact Table.access_cleanServiceCpcd _ _ item
    · exact absurd (fun requested => requested.elim) denied
  | recv lcid pdu =>
    unfold next step
    dsimp only
    cases located : server.findSsapLinkByLcid lcid with
    | none => exact .refl server
    | some link =>
      apply (recv_confined located).mono
      intro item may _
      exact may
  | userResponse param => exact userResponse_confined sound regular
  | methodCallRes requestId data =>
    unfold next step sendMethodCallRes
    dsimp only
    split
    · exact .refl server
    · split <;> exact .removePending _
  | _ => exact ⟨fun _ => rfl, fun _ _ => rfl, fun _ member => .inl member⟩

theorem next_sound (event : Event) (regular : server.Regular event)
    : (server.next event).Sound :=
  (next_confined sound regular).sound sound

end

end

end NearLink.Ssap.Server
