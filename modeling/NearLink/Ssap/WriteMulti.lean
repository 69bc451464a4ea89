import NearLink.Ssap.Access

/-!
# Writing several values

`SSAPS_WriteMultiHandleReq` writes the sub-items of a request one after the
other and answers at the end.  The calls it makes on the way are compared with
what its answer says about them: an error should mean that nothing was written,
and a response should list exactly the items of which nothing was written.
-/

namespace NearLink.Ssap.Server

open Sdf Keyed List MsgCode

/-- The calls made for an item: the sub-items `SSAPS_UpdatePropertyValue` took
and those `SsapServerAppWriteValueCallback` was told of. -/
structure ItemCalls where
  applied : List MultiSubItem
  callbacks : List MultiSubItem

/-- The calls of the loop of `SSAPS_WriteMultiHandleItem`, from a number of
sub-items written before. -/
def subItemCalls (server : Server) (link : Link) (property : Property) :
    Nat → List MultiSubItem → ItemCalls
  | _, [] => ⟨[], []⟩
  | originDataCount, subItem :: subItems =>
    match server.validateSubItem link .writeReq subItem property with
    | .retTrue _ => ⟨[], []⟩
    | .retFalse => ⟨[], []⟩
    | .continue => server.subItemCalls link property originDataCount subItems
    | .normalExecution =>
      let updated := server.updatePropertyValue property subItem.type
        subItem.value link.addr
      if updated.2 ≠ .success then ⟨[], []⟩
      else if originDataCount ≥ descTypeMax then ⟨[subItem], []⟩
      else
        let later := updated.1.subItemCalls link property
          (originDataCount + 1) subItems
        ⟨subItem :: later.applied, subItem :: later.callbacks⟩

/-- The calls of a round of the loop of `SSAPS_WriteMultiHandleReq`. -/
def itemCalls (server : Server) (link : Link) (item : MultiItem) :
    ItemCalls :=
  if item.subItems = [] then ⟨[], []⟩
  else
    match server.table.getPropertyByHandle item.handle with
    | none => ⟨[], []⟩
    | some property => server.subItemCalls link property 0 item.subItems

/-- The calls of the loop of `SSAPS_WriteMultiHandleReq`, up to the item at
which it is given up. -/
def requestCalls (server : Server) (link : Link) :
    List MultiItem → List ItemCalls
  | [] => []
  | item :: items =>
    let written := server.writeMultiItem link item
    server.itemCalls link item ::
      match written.2 with
      | none => []
      | some _ => written.1.requestCalls link items

def nonEmpty (subItems : List MultiSubItem) : List MultiSubItem :=
  subItems.filter fun subItem => subItem.value.length ≠ 0

/-- The answer to a request tells what was done: nothing when it is an error,
and otherwise, for each item, nothing when the item is in the list of errors
and all its values when it is not. -/
def HonestWrite (server : Server) (link : Link) (pdu : Bytes)
    (items : List MultiItem) : Prop :=
  ∃ response, (server.writeMultiHandleReq link pdu).2 = some response ∧
    (response.head? = some errorRsp.value →
      (server.writeMultiHandleReq link pdu).1.table = server.table ∧
        ∀ calls ∈ server.requestCalls link items, calls.callbacks = []) ∧
    (response.head? = some writeRsp.value →
      ∃ results, (server.writeMultiHandleItems link items).2 = some results ∧
        response = sendMultiWriteReqRsp results (byteAt pdu 1) ∧
        ∀ (index : Nat) (item : MultiItem), items[index]? = some item →
          ∃ (result : WriteResultItem) (calls : ItemCalls),
            results[index]? = some result ∧
            (server.requestCalls link items)[index]? = some calls ∧
            calls.callbacks = calls.applied ∧
            calls.applied =
              if result.errorCode = .success then nonEmpty item.subItems
              else [])

def itemCheck (server : Server) (link : Link) (handle : Nat) :
    Option (MultiSubItem → LoopControl) :=
  (server.table.getPropertyByHandle handle).map fun property subItem =>
    server.validateSubItem link .writeReq subItem property

def accepted (check : MultiSubItem → LoopControl) :
    List MultiSubItem → List MultiSubItem
  | [] => []
  | subItem :: subItems =>
    match check subItem with
    | .continue => accepted check subItems
    | .normalExecution => subItem :: accepted check subItems
    | _ => []

def refusal (check : MultiSubItem → LoopControl) :
    List MultiSubItem → Option LoopControl
  | [] => none
  | subItem :: subItems =>
    match check subItem with
    | .continue => refusal check subItems
    | .normalExecution => refusal check subItems
    | control => some control

def planned (server : Server) (link : Link) (item : MultiItem) :
    List MultiSubItem :=
  match server.itemCheck link item.handle with
  | none => []
  | some check => accepted check item.subItems

def refused (server : Server) (link : Link) (item : MultiItem) :
    Option LoopControl :=
  match server.itemCheck link item.handle with
  | none => some (.retTrue .invalidHandle)
  | some check =>
    if item.subItems = [] then some (.retTrue .invalidHandle)
    else refusal check item.subItems

/-- The whole request is given up at the item: it has more values than there
are types, or a sub-item that needs authorization. -/
def Abandoned (server : Server) (link : Link) (item : MultiItem) : Prop :=
  descTypeMax < (server.planned link item).length ∨
    server.refused link item = some .retFalse

instance decidableAbandoned (server : Server) (link : Link)
    (item : MultiItem) : Decidable (server.Abandoned link item) :=
  inferInstanceAs (Decidable (_ ∨ _))

def Rejected (server : Server) (link : Link) (item : MultiItem) : Prop :=
  server.refused link item ≠ none

instance decidableRejected (server : Server) (link : Link)
    (item : MultiItem) : Decidable (server.Rejected link item) :=
  inferInstanceAs (Decidable (_ ≠ _))

def tried (server : Server) (link : Link) :
    List MultiItem → List MultiItem
  | [] => []
  | item :: items =>
    item ::
      if server.Abandoned link item then [] else server.tried link items

/-- A request that is given up, or that has too many refused items, asks for
no value before that; in any other request a refused item has no value before
the sub-item that is refused. -/
def Orderly (server : Server) (link : Link) (items : List MultiItem) :
    Prop :=
  if (∀ item ∈ items, ¬ server.Abandoned link item) ∧
      (items.filter fun item => server.Rejected link item).length <
        maxWriteErrorCount then
    ∀ item ∈ items, server.Rejected link item → server.planned link item = []
  else ∀ item ∈ server.tried link items, server.planned link item = []

variable {server : Server} {link : Link} {property : Property}
  {subItem : MultiSubItem}

def applySubItems (server : Server) (link : Link) (handle : Nat)
    (subItems : List MultiSubItem) : Server :=
  { server with
    table := subItems.foldl (fun table subItem =>
      table.updatePropertyValue handle subItem.type subItem.value link.addr)
      server.table }

theorem updatePropertyValue_of_normalExecution
    (valid : server.validateSubItem link .writeReq subItem property =
      .normalExecution) :
    server.updatePropertyValue property subItem.type subItem.value link.addr =
      (server.applySubItems link property.handle [subItem], .success) := by
  have typed : (property.getPermissionAndOperation subItem.type).isSome := by
    unfold validateSubItem at valid
    split at valid
    · cases valid
    · cases access : property.getPermissionAndOperation subItem.type with
      | none =>
        rw [access] at valid
        cases valid
      | some pair => rfl
  rw [updatePropertyValue_eq, if_pos typed]
  rfl

theorem validateSubItem_passes :
    (server.validateSubItem link .writeReq subItem property = .continue →
      subItem.value.length = 0) ∧
    (server.validateSubItem link .writeReq subItem property =
      .normalExecution → subItem.value.length ≠ 0) ∧
    server.validateSubItem link .writeReq subItem property ≠
      .retTrue .success := by
  unfold validateSubItem
  split
  · simp
  · cases property.getPermissionAndOperation subItem.type with
    | none => simp
    | some pair =>
      dsimp only
      split
      · split_ifs
        · simp
        · simp_all
        · simp_all
      next differs =>
        refine ⟨by simp, by simp, ?_⟩
        intro equality
        injection equality with success
        exact differs success

section

variable {subItem : MultiSubItem} {subItems : List MultiSubItem}
  (valid : server.validateSubItem link .writeReq subItem property =
    .normalExecution)

include valid

theorem writeMultiHandleItem_normalExecution (result : WriteResultItem) :
    server.writeMultiHandleItem link property result (subItem :: subItems) =
      if result.originData.length ≥ descTypeMax then
        (server.applySubItems link property.handle [subItem], none)
      else
        (server.applySubItems link property.handle
          [subItem]).writeMultiHandleItem link property
            { result with
              errorCode := .success
              originData := result.originData ++ [subItem] } subItems := by
  rw [writeMultiHandleItem, valid]
  rw [updatePropertyValue_of_normalExecution valid]
  simp

theorem subItemCalls_normalExecution (originDataCount : Nat) :
    server.subItemCalls link property originDataCount (subItem :: subItems) =
      if originDataCount ≥ descTypeMax then ⟨[subItem], []⟩
      else
        let later := (server.applySubItems link property.handle
          [subItem]).subItemCalls link property (originDataCount + 1) subItems
        ⟨subItem :: later.applied, subItem :: later.callbacks⟩ := by
  rw [subItemCalls, valid]
  rw [updatePropertyValue_of_normalExecution valid]
  simp

end

variable (result : WriteResultItem)

theorem writeMultiHandleItem_server (subItems : List MultiSubItem) :
    (server.writeMultiHandleItem link property result subItems).1 =
      server.applySubItems link property.handle
        (server.subItemCalls link property result.originData.length
          subItems).applied := by
  induction subItems generalizing server result with
  | nil => rfl
  | cons subItem subItems induction =>
    cases valid : server.validateSubItem link .writeReq subItem property with
    | «continue» =>
      rw [writeMultiHandleItem, subItemCalls, valid]
      exact induction _
    | normalExecution =>
      rw [writeMultiHandleItem_normalExecution valid,
        subItemCalls_normalExecution valid]
      split
      · rfl
      · rw [induction, length_append]
        rfl
    | _ =>
      rw [writeMultiHandleItem, subItemCalls, valid]
      rfl

theorem validateSubItem_applySubItems (handle : Nat)
    (written : List MultiSubItem) :
    (server.applySubItems link handle written).validateSubItem =
      server.validateSubItem := rfl

theorem writeMultiHandleItem_fits (fresh : result.errorCode = .success)
    (subItems : List MultiSubItem)
    (fits : result.originData.length +
      (accepted (fun subItem => server.validateSubItem link .writeReq subItem
      property) subItems).length ≤ descTypeMax) :
    let check := fun subItem =>
      server.validateSubItem link .writeReq subItem property
    server.subItemCalls link property result.originData.length subItems =
        ⟨accepted check subItems, accepted check subItems⟩ ∧
      (server.writeMultiHandleItem link property result subItems).2 =
        match refusal check subItems with
        | none => some { result with
            originData := result.originData ++ accepted check subItems }
        | some (.retTrue errorCode) => some { result with
            errorCode
            originData := result.originData ++ accepted check subItems }
        | some _ => none := by
  induction subItems generalizing server result with
  | nil => simp [subItemCalls, accepted, refusal, writeMultiHandleItem]
  | cons subItem subItems induction =>
    cases valid : server.validateSubItem link .writeReq subItem property with
    | «continue» =>
      have later := @induction server { result with errorCode := .success }
        rfl (by simpa [accepted, valid] using fits)
      have same : { result with errorCode := .success } = result := by
        rw [← fresh]
      rw [same] at later
      simpa [subItemCalls, accepted, refusal, writeMultiHandleItem, valid,
        same] using later
    | normalExecution =>
      simp only [accepted, refusal, valid, length_cons] at fits ⊢
      have room : ¬ result.originData.length ≥ descTypeMax := by omega
      have later := @induction
        (server.applySubItems link property.handle [subItem])
        { result with
          errorCode := .success
          originData := result.originData ++ [subItem] } rfl (by
          rw [validateSubItem_applySubItems, length_append, length_singleton]
          omega)
      simp only [length_append, length_singleton] at later
      rw [validateSubItem_applySubItems] at later
      rw [subItemCalls_normalExecution valid, if_neg room,
        writeMultiHandleItem_normalExecution valid, if_neg room, later.2]
      refine ⟨by rw [later.1], ?_⟩
      rw [← fresh]
      simp
    | _ => simp [subItemCalls, accepted, refusal, writeMultiHandleItem, valid]

theorem writeMultiHandleItem_overflows
    (room : result.originData.length ≤ descTypeMax)
    (subItems : List MultiSubItem)
    (overflows : descTypeMax <
      result.originData.length +
      (accepted (fun subItem => server.validateSubItem link .writeReq subItem
      property) subItems).length) :
    (server.subItemCalls link property result.originData.length
        subItems).callbacks.length =
        descTypeMax - result.originData.length ∧
      (server.writeMultiHandleItem link property result subItems).2 =
        none := by
  induction subItems generalizing server result with
  | nil =>
    simp only [accepted, length_nil] at overflows
    omega
  | cons subItem subItems induction =>
    cases valid : server.validateSubItem link .writeReq subItem property with
    | «continue» =>
      have later := @induction server { result with errorCode := .success }
        room (by simpa [accepted, valid] using overflows)
      simpa [subItemCalls, writeMultiHandleItem, valid] using later
    | normalExecution =>
      simp only [accepted, valid, length_cons] at overflows
      rw [subItemCalls_normalExecution valid,
        writeMultiHandleItem_normalExecution valid]
      by_cases full : result.originData.length ≥ descTypeMax
      · rw [if_pos full, if_pos full]
        refine ⟨?_, rfl⟩
        simp only [length_nil]
        omega
      · have later := @induction
          (server.applySubItems link property.handle [subItem])
          { result with
            errorCode := .success
            originData := result.originData ++ [subItem] } (by
            simp only [length_append, length_singleton]
            omega) (by
            rw [validateSubItem_applySubItems, length_append, length_singleton]
            omega)
        simp only [length_append, length_singleton] at later
        rw [if_neg full, if_neg full]
        refine ⟨?_, later.2⟩
        simp only [length_cons, later.1]
        omega
    | _ =>
      simp only [accepted, valid, length_nil] at overflows
      omega

theorem validateSubItem_congr {first second : Property}
    (same : first.getPermissionAndOperation =
      second.getPermissionAndOperation) (subItem : MultiSubItem) :
    server.validateSubItem link .writeReq subItem first =
      server.validateSubItem link .writeReq subItem second := by
  unfold validateSubItem
  rw [same]

theorem itemCheck_applySubItems (handle : Nat) (written : List MultiSubItem) :
    (server.applySubItems link handle written).itemCheck link =
      server.itemCheck link := by
  induction written generalizing server with
  | nil => rfl
  | cons subItem written induction =>
    have split : server.applySubItems link handle (subItem :: written) =
        (server.applySubItems link handle [subItem]).applySubItems link
          handle written := rfl
    rw [split, induction]
    funext wanted
    unfold itemCheck applySubItems
    dsimp only [foldl_cons, foldl_nil]
    unfold Table.updatePropertyValue
    rw [Table.getPropertyByHandle_mapProperties, Option.map_map]
    congr 1
    funext property checked
    refine validateSubItem_congr ?_ checked
    funext type
    rw [Table.writeAt_eq]
    split
    · exact property.getPermissionAndOperation_updated
    · rfl

section

variable {check : MultiSubItem → LoopControl}

theorem refusal_cases (named : ∀ subItem, check subItem ≠ .retTrue .success)
    (subItems : List MultiSubItem) :
    refusal check subItems = none ∨ refusal check subItems = some .retFalse ∨
      ∃ errorCode, errorCode ≠ .success ∧
        refusal check subItems = some (.retTrue errorCode) := by
  induction subItems with
  | nil => exact .inl rfl
  | cons subItem subItems induction =>
    cases valid : check subItem with
    | retTrue errorCode =>
      refine .inr (.inr ⟨errorCode, ?_, by simp [refusal, valid]⟩)
      rintro rfl
      exact named subItem valid
    | retFalse => exact .inr (.inl (by simp [refusal, valid]))
    | _ => simpa [refusal, valid] using induction

theorem accepted_of_passed (empty : ∀ subItem, check subItem = .continue →
      subItem.value.length = 0)
    (valued : ∀ subItem, check subItem = .normalExecution →
      subItem.value.length ≠ 0)
    {subItems : List MultiSubItem} (passed : refusal check subItems = none) :
    accepted check subItems = nonEmpty subItems := by
  induction subItems with
  | nil => rfl
  | cons subItem subItems induction =>
    cases valid : check subItem with
    | «continue» =>
      have later := induction (by simpa [refusal, valid] using passed)
      have none := empty subItem valid
      simp only [accepted, valid, later, nonEmpty]
      rw [filter_cons_of_neg (by simpa using none)]
    | normalExecution =>
      have later := induction (by simpa [refusal, valid] using passed)
      have value := valued subItem valid
      simp only [accepted, valid, later, nonEmpty]
      rw [filter_cons_of_pos (by simpa using value)]
    | _ => simp [refusal, valid] at passed

end

def resultCode (server : Server) (link : Link) (item : MultiItem) : ErrCode :=
  match server.refused link item with
  | some (.retTrue errorCode) => errorCode
  | _ => .success

variable {item : MultiItem}

theorem writeMultiItem_server :
    (server.writeMultiItem link item).1 = server.applySubItems link item.handle
        (server.itemCalls link item).applied := by
  unfold writeMultiItem itemCalls
  split
  · rfl
  · cases located : server.table.getPropertyByHandle item.handle with
    | none => rfl
    | some property =>
      have named : property.handle = item.handle := lookup_key located
      rw [← named]
      exact writeMultiHandleItem_server _ _

theorem writeMultiItem_unknown (unknown : item.subItems = [] ∨
      server.table.getPropertyByHandle item.handle = none) :
    server.planned link item = [] ∧
      server.refused link item = some (.retTrue .invalidHandle) ∧
      server.itemCalls link item = ⟨[], []⟩ ∧
      (server.writeMultiItem link item).2 =
        some ⟨item.handle, .invalidHandle, []⟩ := by
  unfold planned refused itemCalls writeMultiItem itemCheck
  rcases unknown with empty | missing
  · rw [if_pos empty, if_pos empty, empty]
    cases server.table.getPropertyByHandle item.handle with
    | none | some => exact ⟨rfl, rfl, rfl, rfl⟩
  · rw [missing]
    refine ⟨rfl, rfl, ?_, ?_⟩
    · split <;> rfl
    · split <;> rfl

theorem writeMultiItem_located (some : item.subItems ≠ [])
    (located : server.table.getPropertyByHandle item.handle = .some property) :
    let check := fun subItem =>
      server.validateSubItem link .writeReq subItem property
    server.planned link item = accepted check item.subItems ∧
      server.refused link item = refusal check item.subItems ∧
      server.itemCalls link item =
        server.subItemCalls link property 0 item.subItems ∧
      server.writeMultiItem link item =
        server.writeMultiHandleItem link property
          ⟨item.handle, .success, []⟩ item.subItems := by
  unfold planned refused itemCalls writeMultiItem itemCheck
  rw [located, if_neg some, if_neg some]
  exact ⟨rfl, if_neg some, rfl, rfl⟩

theorem writeMultiItem_kept (kept : ¬ server.Abandoned link item) :
    server.itemCalls link item =
        ⟨server.planned link item, server.planned link item⟩ ∧
      (server.writeMultiItem link item).2 =
        some ⟨item.handle, server.resultCode link item,
          server.planned link item⟩ := by
  obtain ⟨room, allowed⟩ := not_or.mp kept
  by_cases unknown : item.subItems = [] ∨
      server.table.getPropertyByHandle item.handle = none
  · obtain ⟨plan, refusal, calls, result⟩ := writeMultiItem_unknown unknown
    rw [plan, calls, result]
    refine ⟨rfl, ?_⟩
    unfold resultCode
    rw [refusal]
  · obtain ⟨nonempty, known⟩ := not_or.mp unknown
    obtain ⟨property, located⟩ := Option.ne_none_iff_exists'.mp known
    obtain ⟨plan, refusal, calls, result⟩ :=
      writeMultiItem_located nonempty located
    have fits := writeMultiHandleItem_fits ⟨item.handle, .success, []⟩ rfl
      item.subItems (by
        rw [← plan]
        simpa using room)
    rw [result, calls, plan]
    refine ⟨fits.1, fits.2.trans ?_⟩
    unfold resultCode
    rw [refusal]
    rw [refusal] at allowed
    have named : ∀ subItem, server.validateSubItem link .writeReq subItem
        property ≠ .retTrue .success :=
      fun _ => validateSubItem_passes.2.2
    rcases refusal_cases named item.subItems with
      passed | authorization | ⟨errorCode, _, failed⟩
    · simp only [passed, nil_append]
    · exact absurd authorization allowed
    · simp only [failed, nil_append]

/-- An item at which the request is given up: it asks for no value exactly
when the application hears of none. -/
theorem writeMultiItem_abandoned (abandoned : server.Abandoned link item) :
    (server.writeMultiItem link item).2 = none ∧
      ((server.itemCalls link item).callbacks = [] →
        server.planned link item = []) ∧
      (server.planned link item = [] →
        server.itemCalls link item = ⟨[], []⟩) := by
  by_cases unknown : item.subItems = [] ∨
      server.table.getPropertyByHandle item.handle = none
  · obtain ⟨plan, refusal, _, _⟩ := writeMultiItem_unknown unknown
    unfold Abandoned at abandoned
    rw [plan, refusal] at abandoned
    rcases abandoned with overflow | authorization
    · cases overflow
    · cases authorization
  · obtain ⟨nonempty, known⟩ := not_or.mp unknown
    obtain ⟨property, located⟩ := Option.ne_none_iff_exists'.mp known
    obtain ⟨plan, refusal, calls, result⟩ :=
      writeMultiItem_located nonempty located
    unfold Abandoned at abandoned
    rw [result, calls]
    by_cases overflow : descTypeMax < (server.planned link item).length
    · have overflows := writeMultiHandleItem_overflows
        ⟨item.handle, .success, []⟩ (Nat.zero_le _) item.subItems (by
          rw [← plan]
          simpa using overflow)
      refine ⟨overflows.2, ?_, ?_⟩
      · intro none
        have counted := overflows.1
        rw [length_nil, none] at counted
        cases counted
      · intro empty
        rw [empty] at overflow
        cases overflow
    · have fits := writeMultiHandleItem_fits ⟨item.handle, .success, []⟩ rfl
        item.subItems (by
          rw [← plan]
          simpa using overflow)
      rw [refusal] at abandoned
      have authorization := abandoned.resolve_left overflow
      have written := fits.1
      rw [length_nil, ← plan] at written
      rw [written]
      refine ⟨fits.2.trans (by rw [authorization]), id, ?_⟩
      intro empty
      rw [empty]

theorem resultCode_cases (kept : ¬ server.Abandoned link item) :
    (server.Rejected link item ∧ server.resultCode link item ≠ .success) ∨
      (¬ server.Rejected link item ∧ server.resultCode link item = .success ∧
        server.planned link item = nonEmpty item.subItems) := by
  unfold Rejected resultCode
  by_cases unknown : item.subItems = [] ∨
      server.table.getPropertyByHandle item.handle = none
  · obtain ⟨_, refusal, _, _⟩ := writeMultiItem_unknown unknown
    rw [refusal]
    exact .inl ⟨by simp, by simp⟩
  · obtain ⟨nonempty, known⟩ := not_or.mp unknown
    obtain ⟨property, located⟩ := Option.ne_none_iff_exists'.mp known
    obtain ⟨plan, refusal, _, _⟩ := writeMultiItem_located nonempty located
    have allowed := (not_or.mp kept).2
    rw [refusal] at allowed ⊢
    rw [plan]
    have named : ∀ subItem, server.validateSubItem link .writeReq subItem
        property ≠ .retTrue .success :=
      fun _ => validateSubItem_passes.2.2
    rcases refusal_cases named item.subItems with
      passed | authorization | ⟨errorCode, differs, failed⟩
    · refine .inr ⟨by simp [passed], by simp [passed], ?_⟩
      exact accepted_of_passed (fun _ => validateSubItem_passes.1)
        (fun _ => validateSubItem_passes.2.1) passed
    · exact absurd authorization allowed
    · exact .inl ⟨by simp [failed], by simpa [failed] using differs⟩

section

variable {first second : Server}
  (same : first.itemCheck link = second.itemCheck link)

include same

theorem planned_congr : first.planned link = second.planned link := by
  funext item
  unfold planned
  rw [same]

theorem refused_congr : first.refused link = second.refused link := by
  funext item
  unfold refused
  rw [same]

theorem abandoned_congr : first.Abandoned link = second.Abandoned link := by
  funext item
  unfold Abandoned
  rw [planned_congr same, refused_congr same]

theorem resultCode_congr :
    first.resultCode link = second.resultCode link := by
  funext item
  unfold resultCode
  rw [refused_congr same]

theorem tried_congr : first.tried link = second.tried link := by
  funext items
  induction items with
  | nil => rfl
  | cons item items induction =>
    unfold tried
    rw [induction]
    simp only [abandoned_congr same]

end

variable {items : List MultiItem}

theorem tried_of_kept (kept : ∀ item ∈ items, ¬ server.Abandoned link item) :
    server.tried link items = items := by
  induction items with
  | nil => rfl
  | cons item items induction =>
    rw [tried, if_neg (kept item (by simp)),
      induction fun later member =>
        kept later (.tail _ member)]

theorem itemCheck_writeMultiItem :
    (server.writeMultiItem link item).1.itemCheck link =
      server.itemCheck link := by
  rw [writeMultiItem_server]
  exact itemCheck_applySubItems item.handle _

theorem writeMultiHandleItems_kept
    (kept : ∀ item ∈ items, ¬ server.Abandoned link item) :
    server.requestCalls link items = items.map (fun item =>
        ⟨server.planned link item, server.planned link item⟩) ∧
      (server.writeMultiHandleItems link items).2 =
        some (items.map fun item => ⟨item.handle,
          server.resultCode link item, server.planned link item⟩) := by
  induction items generalizing server with
  | nil => exact ⟨rfl, rfl⟩
  | cons item items induction =>
    obtain ⟨calls, result⟩ := writeMultiItem_kept (kept item (by simp))
    have same : (server.writeMultiItem link item).1.itemCheck link =
        server.itemCheck link := itemCheck_writeMultiItem
    have later := @induction (server.writeMultiItem link item).1 (by
      intro other member
      rw [abandoned_congr same]
      exact kept other (.tail _ member))
    rw [planned_congr same, resultCode_congr same] at later
    unfold requestCalls writeMultiHandleItems
    dsimp only
    rw [result]
    rw [calls, later.1, later.2]
    exact ⟨rfl, rfl⟩

theorem writeMultiHandleItems_abandoned
    (abandoned : ∃ item ∈ items, server.Abandoned link item) :
    (server.writeMultiHandleItems link items).2 = none ∧
      ((∀ calls ∈ server.requestCalls link items, calls.callbacks = []) →
        ∀ item ∈ server.tried link items, server.planned link item = []) := by
  induction items generalizing server with
  | nil =>
    obtain ⟨item, member, _⟩ := abandoned
    cases member
  | cons item items induction =>
    unfold requestCalls writeMultiHandleItems tried
    dsimp only
    by_cases given : server.Abandoned link item
    · obtain ⟨result, silent, _⟩ := writeMultiItem_abandoned given
      rw [result, if_pos given]
      refine ⟨rfl, ?_⟩
      intro quiet other member
      obtain rfl := mem_singleton.mp member
      exact silent (quiet _ (by simp))
    · obtain ⟨calls, result⟩ := writeMultiItem_kept given
      have same : (server.writeMultiItem link item).1.itemCheck link =
          server.itemCheck link := itemCheck_writeMultiItem
      obtain ⟨other, member, holds⟩ := abandoned
      have later := @induction (server.writeMultiItem link item).1 (by
        rcases mem_cons.mp member with rfl | behind
        · exact absurd holds given
        · exact ⟨other, behind, by rwa [abandoned_congr same]⟩)
      rw [planned_congr same, tried_congr same] at later
      rw [result, if_neg given]
      rw [later.1]
      refine ⟨rfl, ?_⟩
      intro quiet another among
      rcases mem_cons.mp among with rfl | behind
      · have silent := quiet _ (.head _)
        rwa [calls] at silent
      · exact later.2 (fun made inside =>
          quiet made (.tail _ inside)) another behind

theorem writeMultiHandleItems_untouched
    (untouched : ∀ item ∈ server.tried link items,
      server.planned link item = []) :
    (server.writeMultiHandleItems link items).1 = server ∧
      ∀ calls ∈ server.requestCalls link items, calls.callbacks = [] := by
  induction items with
  | nil => exact ⟨rfl, by simp [requestCalls]⟩
  | cons item items induction =>
    have plan := untouched item (by simp [tried])
    unfold requestCalls writeMultiHandleItems
    unfold tried at untouched
    dsimp only
    by_cases given : server.Abandoned link item
    · obtain ⟨result, _, none⟩ := writeMultiItem_abandoned given
      have calls := none plan
      have server' : (server.writeMultiItem link item).1 = server := by
        rw [writeMultiItem_server, calls]
        rfl
      rw [result, server', calls]
      exact ⟨rfl, by simp⟩
    · obtain ⟨calls, result⟩ := writeMultiItem_kept given
      have server' : (server.writeMultiItem link item).1 = server := by
        rw [writeMultiItem_server, calls, plan]
        rfl
      rw [if_neg given] at untouched
      have later := induction fun other member =>
        untouched other (.tail _ member)
      rw [result, server', calls, plan]
      refine ⟨later.1, ?_⟩
      exact forall_mem_cons.mpr ⟨rfl, later.2⟩

variable {pdu : Bytes} {items : List MultiItem}

section

variable (kept : ∀ item ∈ items, ¬ server.Abandoned link item)
include kept

/-- A request that is answered with a list of errors is honest exactly when
no item of the list has a value before the sub-item that is refused. -/
theorem honestWrite_of_response {response : Bytes}
    (answer : (server.writeMultiHandleReq link pdu).2 = some response)
    (answered : response = sendMultiWriteReqRsp
      (items.map fun item => ⟨item.handle, server.resultCode link item,
      server.planned link item⟩) (byteAt pdu 1))
    (written : response.head? = some writeRsp.value) :
    server.HonestWrite link pdu items ↔
      ∀ item ∈ items, server.Rejected link item →
        server.planned link item = [] := by
  obtain ⟨calls, results⟩ := writeMultiHandleItems_kept kept
  constructor
  · rintro ⟨other, same, _, honest⟩ item member rejected
    obtain rfl := Option.some.inj (answer.symm.trans same)
    obtain ⟨listed, resultsListed, _, agree⟩ := honest written
    obtain ⟨index, located⟩ := mem_iff_getElem?.mp member
    obtain ⟨result, made, resultAt, madeAt, _, applied⟩ :=
      agree index item located
    obtain rfl := Option.some.inj (results.symm.trans resultsListed)
    rw [getElem?_map, located] at resultAt
    rw [calls, getElem?_map, located] at madeAt
    obtain rfl := Option.some.inj resultAt
    obtain rfl := Option.some.inj madeAt
    rcases resultCode_cases (kept item member) with
      ⟨_, code⟩ | ⟨passed, _, _⟩
    · rwa [if_neg code] at applied
    · exact absurd rejected passed
  · intro spared
    refine ⟨response, answer, ?_, ?_⟩
    · intro error
      rw [written] at error
      exact absurd error (by decide)
    · intro _
      refine ⟨_, results, answered, ?_⟩
      intro index item located
      have member := mem_of_getElem? located
      refine ⟨_, ⟨server.planned link item, server.planned link item⟩,
        by rw [getElem?_map, located]; rfl,
        by rw [calls, getElem?_map, located]; rfl, rfl, ?_⟩
      rcases resultCode_cases (kept item member) with
        ⟨rejected, code⟩ | ⟨_, code, whole⟩
      · rw [if_neg code]
        exact spared item member rejected
      · rw [if_pos code]
        exact whole

theorem length_failed :
    ((items.map fun item => (⟨item.handle, server.resultCode link item,
      server.planned link item⟩ : WriteResultItem)).filter fun result =>
        result.errorCode ≠ .success).length =
      (items.filter fun item => server.Rejected link item).length := by
  rw [filter_map, length_map]
  congr 1
  refine filter_congr fun item member => ?_
  rcases resultCode_cases (kept item member) with
    ⟨rejected, code⟩ | ⟨passed, code, _⟩
  · simp [rejected, code]
  · simp [passed, code]

end

section

variable (formed : writeItems pdu = some items)

include formed

theorem writeMultiHandleReq_server :
    (server.writeMultiHandleReq link pdu).1 =
      (server.writeMultiHandleItems link items).1 := by
  unfold writeMultiHandleReq
  rw [formed]
  dsimp only
  cases (server.writeMultiHandleItems link items).2 <;> rfl

theorem honestWrite_of_error {response : Bytes}
    (answer : (server.writeMultiHandleReq link pdu).2 = some response)
    (error : response.head? = some errorRsp.value)
    (silent : (∀ calls ∈ server.requestCalls link items, calls.callbacks = []) →
        ∀ item ∈ server.tried link items, server.planned link item = []) :
    server.HonestWrite link pdu items ↔
      ∀ item ∈ server.tried link items, server.planned link item = [] := by
  constructor
  · rintro ⟨other, answered, honest, _⟩
    obtain rfl := Option.some.inj (answer.symm.trans answered)
    exact silent (honest error).2
  · intro untouched
    obtain ⟨kept, quiet⟩ := writeMultiHandleItems_untouched untouched
    refine ⟨response, answer, ?_, ?_⟩
    · intro _
      refine ⟨?_, quiet⟩
      rw [writeMultiHandleReq_server formed, kept]
    · intro written
      rw [error] at written
      exact absurd written (by decide)

end

/-- The answer to a request of several writes is honest exactly for orderly
requests. -/
theorem honestWrite_iff (server : Server) (link : Link) (pdu : Bytes)
    (items : List MultiItem) (formed : writeItems pdu = some items) :
    server.HonestWrite link pdu items ↔ server.Orderly link items := by
  unfold Orderly
  by_cases kept : ∀ item ∈ items, ¬ server.Abandoned link item
  · obtain ⟨calls, results⟩ := writeMultiHandleItems_kept kept
    have answer : (server.writeMultiHandleReq link pdu).2 =
        some (sendMultiWriteReqRsp (items.map fun item => ⟨item.handle,
          server.resultCode link item, server.planned link item⟩)
          (byteAt pdu 1)) := by
      unfold writeMultiHandleReq
      rw [formed]
      dsimp only
      rw [results]
    have counted := length_failed kept
    by_cases few : (items.filter fun item =>
        server.Rejected link item).length < maxWriteErrorCount
    · rw [if_pos ⟨kept, few⟩]
      refine honestWrite_of_response kept answer rfl ?_
      unfold sendMultiWriteReqRsp
      dsimp only
      rw [counted, if_neg (by omega)]
      split <;> rfl
    · rw [if_neg fun both => few both.2]
      refine honestWrite_of_error formed answer ?_ ?_
      · unfold sendMultiWriteReqRsp
        dsimp only
        rw [counted, if_pos (by omega)]
        rfl
      · intro quiet item member
        rw [tried_of_kept kept] at member
        rw [calls] at quiet
        exact quiet _ (mem_map_of_mem member)
  · rw [if_neg fun both => kept both.1]
    have abandoned : ∃ item ∈ items, server.Abandoned link item := by
      simpa using kept
    obtain ⟨none, silent⟩ := writeMultiHandleItems_abandoned abandoned
    have answer : (server.writeMultiHandleReq link pdu).2 =
        some (pduErrorRsp .writeReq 0 .unsupportPdu) := by
      unfold writeMultiHandleReq
      rw [formed]
      dsimp only
      rw [none]
    exact honestWrite_of_error formed answer rfl silent

def writableTable : Table where
  services :=
    [{ handle := 1
       endHandle := 2
       uuid := []
       serviceType := 0
       properties := [⟨2, [], operateIndicationWrite, 0, [], [7]⟩]
       methods := [] }]
  unique := by decide

def writingLink : Link :=
  ⟨⟨0, 1⟩, 0, 251, Nat.le_refl stackMtuDefault, stackMtuDefault_le_max⟩

/-- One item that is written and one whose handle is unknown. -/
theorem honestWrite_unknown :
    (init writableTable).HonestWrite writingLink
      [0x0D, 0x07, 2, 0, 1, 0, 1, 0, 5, 9, 0, 1, 0, 1, 0, 6]
      [⟨2, [⟨0, [5]⟩]⟩, ⟨9, [⟨0, [6]⟩]⟩] := by
  apply (honestWrite_iff _ _ _ _ rfl).mpr
  unfold Orderly
  decide

/-- The second sub-item is refused after the first one was written. -/
theorem honestWrite_fails :
    ¬ ∀ (server : Server) (link : Link) (pdu : Bytes)
      (items : List MultiItem), writeItems pdu = some items →
        server.HonestWrite link pdu items := by
  intro honest
  obtain ⟨response, answer, _, written⟩ :=
    honest (init writableTable) writingLink
      [0x0D, 0x07, 2, 0, 2, 0, 1, 0, 5, 1, 1, 0, 6]
      [⟨2, [⟨0, [5]⟩, ⟨1, [6]⟩]⟩] rfl
  obtain rfl := Option.some.inj answer
  obtain ⟨results, listed, _, agree⟩ := written (by decide)
  obtain rfl := Option.some.inj listed
  obtain ⟨result, calls, resultAt, callsAt, _, applied⟩ := agree 0 _ rfl
  obtain rfl := Option.some.inj resultAt
  obtain rfl := Option.some.inj callsAt
  exact absurd applied (by decide)

end NearLink.Ssap.Server
