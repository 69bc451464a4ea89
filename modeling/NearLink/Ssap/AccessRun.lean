import NearLink.Ssap.Confinement

/-!
# Access control of runs

In a run of regular steps nothing is sent or changed that access control does
not allow, and tables that differ in a value look the same to a client that may
not read it.
-/

namespace NearLink.Ssap.Server

open Sdf Keyed Transition Option

theorem getVal_erase {property : Property} {type : UInt8} {addr : Addr}
    {value : Bytes}
    (stored : (property.erase type).getVal addr type = some value) :
    value = [] := by
  unfold Property.getVal at stored
  by_cases data : type = typeData
  · rw [if_pos data, Property.erase, if_pos data] at stored
    exact (some.inj stored).symm
  · rw [if_neg data, property.descriptor_erase_self data, map_map] at stored
    obtain ⟨found, _, rfl⟩ := map_eq_some_iff.mp stored
    have located : found.erase.findClientConfig addr =
        (found.findClientConfig addr).map fun config =>
          { config with val := [] } :=
      lookup_map fun _ => rfl
    dsimp only [Function.comp_def]
    rw [located]
    split
    · cases found.findClientConfig addr <;> rfl
    · rfl

theorem appendLen_eraseAt_le (link : Link) (type : UInt8) (item : Item)
    (property : Property) :
    appendLen link type (Table.eraseAt item property) ≤
      appendLen link type property := by
  by_cases same : item = ⟨property.handle, type⟩
  · have least : 4 ≤ appendLen link type property := by
      unfold appendLen
      split <;> omega
    have erased : appendLen link type (Table.eraseAt item property) = 4 := by
      subst same
      unfold appendLen getPropertyValue Table.eraseAt
      rw [if_pos rfl]
      cases stored : (property.erase type).getVal link.addr type with
      | none => rfl
      | some value =>
        rw [getVal_erase stored]
        dsimp only
        split_ifs <;> rfl
    omega
  · have kept := getPropertyValue_congr link
      (Table.content_eraseAt item property same)
    unfold appendLen
    rw [kept]

def Within (server : Server) : Event → Prop
  | .recv lcid pdu =>
    ∀ link request, server.findSsapLinkByLcid lcid = some link →
      pdu.head? = some MsgCode.readByUuidReq.value →
      readByUuidReqPreHandle pdu = .ok request →
      ((server.findPropertys request).map
        (appendLen link request.dataType)).sum ≤ uint16Max
  | _ => True

variable {server : Server} {event : Event}

theorem Regular.within (regular : server.Regular event) :
    server.Within event := by
  cases event with
  | recv lcid pdu =>
    intro link request located opened parsed
    exact (regular link request located opened parsed).2
  | _ => trivial

theorem Within.erase (within : server.Within event) (item : Item) :
    (server.erase item).Within event := by
  cases event with
  | recv lcid pdu =>
    intro link request located opened parsed
    have found : (server.erase item).findPropertys request =
        (server.findPropertys request).map (Table.eraseAt item) :=
      Table.getPropertyByUuid_erase server.table item _ _ _
    rw [found, List.map_map]
    refine le_trans (List.sum_le_sum fun property _ => ?_)
      (within link request located opened parsed)
    exact appendLen_eraseAt_le link request.dataType item property
  | _ => trivial

variable {item : Item} {first second : Server} {pdu : Bytes} {lcid : Nat}
  {link : Link}

theorem hidden_of_not_mayRead
    (located : first.findSsapLinkByLcid lcid = some link)
    (withheld : ¬ first.MayRead (.recv lcid pdu) item) :
    first.Hidden link item := by
  intro permissions opIndication access checked free
  obtain ⟨indicated, permits⟩ := readControlCheck_success.mp checked
  exact withheld ⟨link, permissions, opIndication, located, access,
    indicated, permits, fun needed => absurd free needed⟩

theorem Agree.dispatch_sent (agree : Agree item first second)
    (located : first.findSsapLinkByLcid lcid = some link)
    (regular : first.Regular (.recv lcid pdu))
    (within : second.Within (.recv lcid pdu))
    (withheld : ¬ first.MayRead (.recv lcid pdu) item) :
    (first.dispatch link pdu).2 = (second.dispatch link pdu).2 := by
  have hidden := hidden_of_not_mayRead located withheld
  have relocated := (agree.findSsapLinkByLcid lcid).symm.trans located
  unfold Server.dispatch
  cases opened : pdu.head? with
  | none => rfl
  | some op =>
    dsimp only
    cases named : MsgCode.ofByte op with
    | none => rfl
    | some code =>
      cases code
      case exchangeInfoReq => exact (agree.exchangeInfoReqHandle link pdu).2
      case readReq => exact (agree.readReqHandle link pdu).2 hidden
      case readByUuidReq =>
        have byUuid : pdu.head? = some MsgCode.readByUuidReq.value := by
          rw [opened]
          have value := List.find?_some named
          rw [beq_iff_eq.mp value]
        apply agree.readByUuidReqHandle_sent hidden
        · intro request parsed
          exact regular link request located byUuid parsed
        · intro request parsed
          exact within link request relocated byUuid parsed
      case writeReq => exact (agree.writeReqHandle link pdu).2
      case callMethodCmd => exact (agree.methodHandle link _ pdu).2
      case callMethodReq => exact (agree.methodHandle link _ pdu).2
      all_goals rfl

/-- Servers that agree but for an item send the same at a step that does not
give access to it. -/
theorem Agree.sent (agree : Agree item first second) (sound : first.Sound)
    (regular : first.Regular event) (within : second.Within event)
    (withheld : ¬ first.MayRead event item) :
    first.sent event = second.sent event := by
  cases event with
  | recv lcid pdu =>
    unfold Server.sent step
    dsimp only
    rw [← agree.findSsapLinkByLcid]
    cases located : first.findSsapLinkByLcid lcid with
    | none => rfl
    | some link => exact agree.dispatch_sent located regular within withheld
  | userResponse param =>
    unfold Server.sent step sendUserResponse
    dsimp only
    rw [← agree.popOperationPenddingVector]
    cases found : first.popOperationPenddingVector param.requestId with
    | none => rfl
    | some operation =>
      dsimp only
      rw [← agree.findSsapLinkByAddr]
      cases located : first.findSsapLinkByAddr operation.addr with
      | none => rfl
      | some link =>
        apply agree.resume_sent link
        rintro code allows rfl
        have allowed := allowed_of_answer sound regular allows found
          located (.inl code)
        rw [code] at allowed
        exact withheld allowed
  | methodCallRes requestId data =>
    unfold Server.sent step sendMethodCallRes
    dsimp only
    rw [← agree.popOperationPenddingVector]
    cases first.popOperationPenddingVector requestId with
    | none => rfl
    | some operation =>
      dsimp only
      rw [← agree.findSsapLinkByAddr]
      cases first.findSsapLinkByAddr operation.addr <;> rfl
  | _ => rfl

theorem secure_of_regular (sound : server.Sound)
    (regular : server.Regular event) : server.Secure event where
  reads item := by
    intro differs
    by_contra withheld
    have agree := (server.erase_agree item).symm
    exact differs (agree.sent sound regular (regular.within.erase item)
      withheld).symm
  writes item := by
    intro changed requested
    by_contra denied
    exact changed ((next_confined sound regular).content item fun may =>
      denied (may requested))

/-- Two regular runs from servers that agree but for an item send the same to
a client that may not read it. -/
theorem responsesTo_eq {client : BitVec 48}
    (agree : Agree item first second) (sound : first.Sound)
    (events : List Event) (regular : Meets Server.next Regular first events)
    (other : Meets Server.next Regular second events)
    (withheld : Meets Server.next (Withheld client item) first events) :
    responsesTo client first events = responsesTo client second events := by
  induction events generalizing first second with
  | nil => rfl
  | cons event events induction =>
    have later := induction (agree.next event)
      (next_sound sound event regular.1) regular.2 other.2 withheld.2
    unfold responsesTo
    rw [later, ← agree.recipient]
    split
    next addressed =>
      rw [agree.sent sound regular.1 other.1.within (withheld.1 addressed)]
    · rfl

/-- Every step of a regular run sends and changes only what it may, and what a
client receives does not depend on a value it may not read. -/
theorem accessControl_of_regular (table : Table) (events : List Event)
    (regular : Meets Server.next Regular (init table) events) :
    Meets Server.next Secure (init table) events ∧
      ∀ other : Table, Meets Server.next Regular (init other) events →
        Confidential table other events := by
  constructor
  · refine .imp ?_ ?_ (init_sound table) regular
    · intro server event sound stepRegular
      exact next_sound sound event stepRegular
    · intro server event sound stepRegular
      exact secure_of_regular sound stepRegular
  · intro other regularOther item client agree withheld
    refine responsesTo_eq ?_ (init_sound table) events regular regularOther
      withheld
    exact ⟨agree, rfl, rfl, rfl, rfl, rfl⟩

def guardedProperty (val : Bytes) : Property where
  handle := 17
  uuid := getUuidFromPktBuf [0x34, 0x12]
  operation := operateIndicationRead
  permission := permissionAuthorizationNeed
  descriptors := []
  val

def guardedTable (val : Bytes) : Table where
  services :=
    [{ handle := 16
       endHandle := 17
       uuid := getUuidFromPktBuf [0x00, 0x06]
       serviceType := 0
       properties := [guardedProperty val]
       methods := [] }]
  unique := by simp [allProperties]

def someClient : Addr := ⟨0, 1⟩

def clientConnected : Event :=
  .connected someClient 1 ⟨251, by decide, by decide⟩

def uuidEvents : List Event :=
  [clientConnected,
    .recv 1 [0x0A, 0x00, 0x01, 0x00, 0xFF, 0xFF, 0x00, 0x34, 0x12]]

def handleEvents : List Event :=
  [clientConnected, .recv 1 [0x08, 0x03, 0x11, 0x00, 0x00],
    .userResponse ⟨authAllow, 0, []⟩]

theorem not_mayRead_recv {item : Item} {opIndication : UInt32}
    (access : server.table.access item =
      some (permissionAuthorizationNeed, opIndication)) :
    ¬ server.MayRead (.recv lcid pdu) item := by
  rintro ⟨link, permissions, indication, _, found, _, _, authorised⟩
  rw [access] at found
  cases found
  obtain ⟨param, operation, answer, _⟩ := authorised (by decide)
  cases answer

/-- The answer to the request by uuid carries the value, although the
application was not asked. -/
theorem accessControl_fails :
    ¬ Meets Server.next Secure (init (guardedTable [42])) uuidEvents ∧
      ¬ Confidential (guardedTable [42]) (guardedTable [43]) uuidEvents := by
  have guarded : ((init (guardedTable [42])).next
      clientConnected).table.access ⟨17, 0⟩ =
        some (permissionAuthorizationNeed, operateIndicationRead) := by
    decide
  constructor
  · rintro ⟨_, secure, _⟩
    apply not_mayRead_recv guarded
    apply secure.reads
    decide
  · intro confidential
    have withheld : Meets Server.next (Withheld 1 ⟨17, 0⟩)
        (init (guardedTable [42])) uuidEvents := by
      refine ⟨?_, ?_, trivial⟩
      · exact nofun
      · intro _
        exact not_mayRead_recv guarded
    have same := confidential ⟨17, 0⟩ 1 (Table.ext rfl) withheld
    revert same
    decide

/-- The request by handle waits for the application, and its answer carries the
value. -/
theorem accessControl_handleEvents :
    responsesTo 1 (init (guardedTable [42])) handleEvents = [[0x09, 0x03, 42]] ∧
      Meets Server.next Secure (init (guardedTable [42])) handleEvents ∧
      ∀ other : Table, Meets Server.next Regular (init other) handleEvents →
        Confidential (guardedTable [42]) other handleEvents := by
  refine ⟨by decide, accessControl_of_regular (guardedTable [42])
    handleEvents ⟨trivial, ?_, ?_, trivial⟩⟩
  · intro link request _ opened
    cases opened
  · intro _ operation link found located _
    have operated : operation = ⟨.readReq, 0, someClient, 0, 17, 0, []⟩ :=
      (some.inj found).symm
    subst operated
    refine ⟨by decide, ?_⟩
    intro permissions opIndication access
    have known : permissions = permissionAuthorizationNeed :=
      (congrArg Prod.fst (some.inj access)).symm
    subst known
    constructor
    all_goals
      intro needed
      exact absurd (by decide) needed

end NearLink.Ssap.Server
