import NearLink.Ssap.Erase
import NearLink.Ssap.Server
import NearLink.Transition

/-!
# Client configurations

A descriptor of type `DESC_TYPE_CLIENT_CONFIG` keeps one value for each client
that wrote it and a default for the others.  `SSAPS_UpdateItemValueByHandle`
looks it up to decide whether, and how, a client hears of a new value.  The
writes of one client do not reach another one as long as they leave the default
as it is.
-/

namespace NearLink.Ssap

open Sdf Keyed Transition List Function Table

def cpcdMaskNotification : Nat := 1

def cpcdMaskIndication : Nat := 2

def cpcdMaskLen : Nat := 2

def operateIndicationNotify : UInt32 := 0x08

def operateIndicationIndicate : UInt32 := 0x10

def handleLen : Nat := 2

def valueItemLen : Nat := 2

/-- The mask a configuration holds; one of another length is reported and
taken as 0. -/
def cpcdMask (value : Bytes) : Nat :=
  if value.length = cpcdMaskLen then decode16 value 0 else 0

/-- `SSAPS_ValueNtf` and `SSAPS_ValueInd`, which differ in the code of the
message. -/
def valueMessage (code : MsgCode) (link : Link) (property : Property) :
    Option Bytes :=
  if property.val.length >
      link.mtu - pduBaseLen - handleLen - valueItemLen then none
  else some ([code.value, ctrlNoFrag] ++ encode16 property.handle ++
    encode16 property.val.length ++ property.val)

namespace Property

def getClientConfigValue (property : Property) : Nat :=
  match property.descriptor descTypeClientConfig with
  | some found => cpcdMask found.val
  | none => 0

def getClientConfigByAddr (property : Property) (addr : Addr) :
    Option ClientConfig :=
  (property.descriptor descTypeClientConfig).bind fun found =>
    found.findClientConfig addr

/-- `SSAPS_UpdatePropertyValue` for the server itself. -/
def updateLocally (property : Property) (type : UInt8) (value : Bytes) :
    Property :=
  if type = typeData then { property with val := value }
  else
    { property with
      descriptors := modify Descriptor.type type
        (fun found => { found with val := value }) property.descriptors }

/-- What `SSAPS_SendMsgToAllRemote` and `SSAPS_SendMsgToRemoteByAddr` send on
a link. -/
def message (property : Property) (cpcdValue : Nat) (link : Link) :
    Option Bytes :=
  if cpcdValue = cpcdMaskIndication ∧
      property.operation &&& operateIndicationIndicate ≠ 0 then
    valueMessage .valueInd link property
  else if cpcdValue = cpcdMaskNotification ∧
      property.operation &&& operateIndicationNotify ≠ 0 then
    valueMessage .valueNtf link property
  else none

/-- The configuration of a client: its own copy, or else the default. -/
def cpcdValue (property : Property) (addr : Addr) : Nat :=
  match property.getClientConfigByAddr addr with
  | some config => cpcdMask config.val
  | none => property.getClientConfigValue

end Property

def Table.updateAt (handle : Nat) (type : UInt8) (value : Bytes)
    (property : Property) : Property :=
  if property.handle = handle then property.updateLocally type value
  else property

/-- `SSAPS_UpdatePropertyValue` of the server on the property with a handle. -/
def Table.updateLocally (table : Table) (handle : Nat) (type : UInt8)
    (value : Bytes) : Table :=
  table.mapProperties (updateAt handle type value) (by
    intro property
    unfold updateAt Property.updateLocally
    split
    · split <;> rfl
    · rfl)

inductive ConfigEvent where
  /-- A client writes a value: `SSAPS_UpdatePropertyValue` from a write
  request, a write command or the consent of the application. -/
  | write (addr : Addr) (item : Item) (value : Bytes)
  /-- `SSAPS_UpdateItemValueByHandle` -/
  | update (addr : Addr) (item : Item) (value : Bytes)
  | connected (link : Link)
  | disconnected (addr : Addr)

namespace Server

def sendMsgToAllRemote (server : Server) (property : Property)
    (cpcdValue : Nat) : List (Link × Bytes) :=
  server.links.filterMap fun link =>
    (property.message cpcdValue link).map fun pdu => (link, pdu)

def sendMsgToRemoteByAddr (server : Server) (property : Property)
    (addr : Addr) (cpcdValue : Nat) : List (Link × Bytes) :=
  match server.findSsapLinkByAddr addr with
  | none => []
  | some link =>
    match property.message cpcdValue link with
    | none => []
    | some pdu => [(link, pdu)]

/-- `SSAPS_UpdateItemValue`, of the property after the update. -/
def updateItemValue (server : Server) (property : Property) (addr : Addr) :
    List (Link × Bytes) :=
  if addr.addr = 0 then
    server.sendMsgToAllRemote property property.getClientConfigValue
  else
    server.sendMsgToRemoteByAddr property addr (property.cpcdValue addr)

def configured (server : Server) : ConfigEvent → Server
  | .write addr item value =>
    { server with
      table := server.table.updatePropertyValue item.handle item.type value
        addr }
  | .update _ item value =>
    { server with
      table := server.table.updateLocally item.handle item.type value }
  | .connected link => { server with links := server.links ++ [link] }
  | .disconnected addr =>
    { server with
      links := remove Link.client addr.addr server.links
      table := server.table.cleanServiceCpcd addr }

/-- What `SSAPS_UpdateItemValueByHandle` sends after its update. -/
def updateItemValueByHandle (server : Server) (handle : Nat) (addr : Addr) :
    List (Link × Bytes) :=
  match server.table.getPropertyByHandle handle with
  | none => []
  | some property => server.updateItemValue property addr

def messages (server : Server) (event : ConfigEvent) :
    List (Link × Bytes) :=
  match event with
  | .update addr item _ =>
    (server.configured event).updateItemValueByHandle item.handle addr
  | _ => []

def messagesTo (client : BitVec 48) (server : Server) :
    List ConfigEvent → List Bytes
  | [] => []
  | event :: events =>
    ((server.messages event).filter fun message =>
      message.1.client = client).map Prod.snd ++
    messagesTo client (server.configured event) events

def readsConfig (server : Server) (link : Link) (handle : Nat) :
    Option (Except ErrCode Bytes) :=
  (server.table.getPropertyByHandle handle).map fun property =>
    getPropertyValue link property descTypeClientConfig

end Server

namespace ConfigEvent

def Configures (client : BitVec 48) (handle : Nat) : ConfigEvent → Prop
  | .write addr item _ =>
    addr.addr = client ∧ item = ⟨handle, descTypeClientConfig⟩
  | _ => False

instance decidableConfigures (client : BitVec 48) (handle : Nat) :
    ∀ event : ConfigEvent, Decidable (event.Configures client handle)
  | .write addr item _ => inferInstanceAs (Decidable
      (addr.addr = client ∧ item = ⟨handle, descTypeClientConfig⟩))
  | .update _ _ _ => inferInstanceAs (Decidable False)
  | .connected _ => inferInstanceAs (Decidable False)
  | .disconnected _ => inferInstanceAs (Decidable False)

def without (client : BitVec 48) (handle : Nat) (events : List ConfigEvent) :
    List ConfigEvent :=
  events.filter fun event => ¬ event.Configures client handle

end ConfigEvent

namespace Descriptor

def forget (client : BitVec 48) (descriptor : Descriptor) : Descriptor :=
  if descriptor.type = descTypeClientConfig then
    { descriptor with
      clientConfigs := descriptor.clientConfigs.filter fun config =>
        decide (config.client ≠ client) }
  else descriptor

variable {client : BitVec 48} {descriptor : Descriptor} {addr : Addr}
  {value : Bytes}

@[simp] theorem type_forget :
    (descriptor.forget client).type = descriptor.type := by
  unfold forget
  split <;> rfl

@[simp] theorem val_forget :
    (descriptor.forget client).val = descriptor.val := by
  unfold forget
  split <;> rfl

theorem forget_setVal :
    { descriptor.forget client with val := value } =
      ({ descriptor with val := value } : Descriptor).forget client := by
  unfold forget
  split <;> rfl

theorem findClientConfig_forget (differs : addr.addr ≠ client) :
    (descriptor.forget client).findClientConfig addr =
      descriptor.findClientConfig addr := by
  unfold forget
  split
  · exact lookup_filter (fun other => decide (other ≠ client))
      (decide_eq_true differs)
  · rfl

theorem updateValue_forget (differs : descriptor.type = descTypeClientConfig →
      addr.addr ≠ client) :
    (descriptor.forget client).updateValue value addr =
      (descriptor.updateValue value addr).forget client := by
  by_cases config : descriptor.type = descTypeClientConfig
  · have found : lookup ClientConfig.client addr.addr
        (descriptor.clientConfigs.filter fun config =>
          decide (config.client ≠ client)) =
        lookup ClientConfig.client addr.addr descriptor.clientConfigs :=
      lookup_filter (fun other => decide (other ≠ client))
        (decide_eq_true (differs config))
    unfold updateValue updatePropertyValueCpcd findClientConfig forget
    simp only [config, if_true]
    rw [found]
    cases lookup ClientConfig.client addr.addr descriptor.clientConfigs with
    | none =>
      have stays : (⟨addr, value⟩ : ClientConfig).client ≠ client :=
        differs config
      simp [stays]
    | some found =>
      simp only [if_true]
      congr 1
      exact modify_filter (fun other => decide (other ≠ client)) fun _ => rfl
  · simp [updateValue, forget, config]

theorem forget_updateValue (own : addr.addr = client)
    (config : descriptor.type = descTypeClientConfig)
    (default : descriptor.val = value) :
    (descriptor.updateValue value addr).forget client =
      descriptor.forget client := by
  subst own default
  unfold updateValue updatePropertyValueCpcd findClientConfig forget
  simp only [config, if_true]
  cases lookup ClientConfig.client addr.addr descriptor.clientConfigs with
  | none => simp [ClientConfig.client]
  | some found =>
    simp only [if_true]
    congr 1
    exact filter_modify_dropped (fun other => decide (other ≠ addr.addr))
      (by simp) fun _ => rfl

theorem cleanCpcd_forget :
    (descriptor.forget client).cleanCpcd addr =
      (descriptor.cleanCpcd addr).forget client := by
  by_cases config : descriptor.type = descTypeClientConfig
  · unfold cleanCpcd forget
    simp only [config, if_true]
    congr 1
    exact remove_filter fun other : Addr => decide (other.addr ≠ client)
  · simp [cleanCpcd, forget, config]

end Descriptor

namespace Property

def forget (client : BitVec 48) (property : Property) : Property :=
  { property with
    descriptors := property.descriptors.map (Descriptor.forget client) }

variable {client : BitVec 48} {property : Property} {addr : Addr}
  {type : UInt8} {value : Bytes}

@[simp] theorem handle_forget :
    (property.forget client).handle = property.handle := rfl

theorem descriptor_forget :
    (property.forget client).descriptor type =
      (property.descriptor type).map (Descriptor.forget client) :=
  lookup_map fun _ => Descriptor.type_forget

theorem getClientConfigValue_forget :
    (property.forget client).getClientConfigValue =
      property.getClientConfigValue := by
  unfold getClientConfigValue
  rw [descriptor_forget]
  cases property.descriptor descTypeClientConfig with
  | none => rfl
  | some found => simp

theorem cpcdValue_forget (differs : addr.addr ≠ client) :
    (property.forget client).cpcdValue addr = property.cpcdValue addr := by
  unfold cpcdValue getClientConfigByAddr
  rw [getClientConfigValue_forget, descriptor_forget]
  cases property.descriptor descTypeClientConfig with
  | none => rfl
  | some found => simp [Descriptor.findClientConfig_forget differs]

theorem getVal_forget (differs : addr.addr ≠ client) :
    (property.forget client).getVal addr type = property.getVal addr type := by
  unfold getVal
  rw [descriptor_forget]
  cases property.descriptor type with
  | none => rfl
  | some found =>
    simp only [Option.map_some, Descriptor.findClientConfig_forget differs,
      Descriptor.val_forget]
    rfl

/-- Writes of another client, and writes of other values, do not touch what is
forgotten. -/
theorem updated_forget
    (differs : type = descTypeClientConfig → addr.addr ≠ client) :
    (property.forget client).updated type value addr =
      (property.updated type value addr).forget client := by
  rw [updated_eq, updated_eq]
  split
  · rfl
  · congr 1
    refine modify_map (fun _ => Descriptor.type_forget) ?_
    intro found named
    exact Descriptor.updateValue_forget fun config =>
      differs (named.symm.trans config)

theorem forget_updated (own : addr.addr = client) (default : ∀ found,
      property.descriptor descTypeClientConfig = some found →
        found.val = value) :
    (property.updated descTypeClientConfig value addr).forget client =
      property.forget client := by
  rw [updated_eq, if_neg (by decide)]
  unfold forget
  congr 1
  exact map_modify_of_lookup fun found located =>
    Descriptor.forget_updateValue own (lookup_key located)
      (default found located)

theorem updateLocally_forget :
    (property.forget client).updateLocally type value =
      (property.updateLocally type value).forget client := by
  unfold updateLocally
  split
  · rfl
  · congr 1
    exact modify_map (fun _ => Descriptor.type_forget)
      fun found _ => Descriptor.forget_setVal

theorem cleanCpcd_forget :
    (property.forget client).cleanCpcd addr =
      (property.cleanCpcd addr).forget client := by
  unfold cleanCpcd forget
  simp [comp_def, Descriptor.cleanCpcd_forget]

end Property

namespace Table

def forgetAt (client : BitVec 48) (handle : Nat) (property : Property) :
    Property :=
  if property.handle = handle then property.forget client else property

theorem handle_forgetAt (client : BitVec 48) (handle : Nat)
    (property : Property) :
    (forgetAt client handle property).handle = property.handle := by
  unfold forgetAt
  split <;> rfl

def forget (client : BitVec 48) (handle : Nat) (table : Table) : Table :=
  table.mapProperties (forgetAt client handle) (handle_forgetAt client handle)

variable {client : BitVec 48} {handle : Nat} {table : Table} {value : Bytes}
  {addr : Addr} {item : Item}

theorem mapProperties_forget {change : Property → Property}
    {keeps : ∀ property, (change property).handle = property.handle}
    (commutes : ∀ property, change (forgetAt client handle property) =
      forgetAt client handle (change property)) :
    (table.forget client handle).mapProperties change keeps =
      (table.mapProperties change keeps).forget client handle := by
  apply ext
  simp [forget, mapProperties, Service.mapProperties, comp_def, commutes]

theorem forgetAt_comm {changed : Nat} (change : Property → Property)
    (keeps : ∀ property, (change property).handle = property.handle)
    (commutes : changed = handle → ∀ property,
      change (property.forget client) = (change property).forget client)
    (property : Property) :
    (if (forgetAt client handle property).handle = changed then
        change (forgetAt client handle property)
      else forgetAt client handle property) =
      forgetAt client handle (if property.handle = changed then change property
          else property) := by
  by_cases named : property.handle = changed
  · by_cases forgotten : property.handle = handle
    · have both := commutes (named.symm.trans forgotten) property
      simp [forgetAt, forgotten, named.symm.trans forgotten, keeps, both]
    · simp [forgetAt, named, keeps, named ▸ forgotten]
  · by_cases forgotten : property.handle = handle
    · simp [forgetAt, forgotten, forgotten ▸ named]
    · simp [forgetAt, forgotten, named]

theorem updatePropertyValue_forget
    (differs : item = ⟨handle, descTypeClientConfig⟩ → addr.addr ≠ client) :
    (table.forget client handle).updatePropertyValue item.handle item.type
        value addr =
      (table.updatePropertyValue item.handle item.type value addr).forget
        client handle := by
  refine mapProperties_forget fun property => ?_
  refine forgetAt_comm (fun other => other.updated item.type value addr)
    (fun other => other.handle_updated) ?_ property
  intro named other
  exact Property.updated_forget fun config => differs (by
    rw [← named, ← config])

theorem updateLocally_forget :
    (table.forget client handle).updateLocally item.handle item.type value =
      (table.updateLocally item.handle item.type value).forget client
        handle := by
  refine mapProperties_forget fun property => ?_
  refine forgetAt_comm (fun other => other.updateLocally item.type value) ?_
    (fun _ _ => Property.updateLocally_forget) property
  intro other
  unfold Property.updateLocally
  split <;> rfl

theorem cleanServiceCpcd_forget :
    (table.forget client handle).cleanServiceCpcd addr =
      (table.cleanServiceCpcd addr).forget client handle := by
  refine mapProperties_forget fun property => ?_
  have kept : (property.cleanCpcd addr).handle = property.handle := rfl
  by_cases forgotten : property.handle = handle
  · simp [forgetAt, kept, forgotten, Property.cleanCpcd_forget]
  · simp [forgetAt, kept, forgotten]

theorem forget_updatePropertyValue (own : addr.addr = client)
    (default : ∀ property found,
      table.getPropertyByHandle handle = some property →
        property.descriptor descTypeClientConfig = some found →
          found.val = value) :
    (table.updatePropertyValue handle descTypeClientConfig value addr).forget
        client handle =
      table.forget client handle := by
  have same : ∀ property ∈ table.properties, forgetAt client handle
          (writeAt handle descTypeClientConfig value addr property) =
        forgetAt client handle property := by
    intro property member
    rw [writeAt_eq]
    by_cases named : property.handle = handle
    · have located := getPropertyByHandle_of_mem member
      rw [named] at located
      simp [forgetAt, named, Property.forget_updated own
        fun found => default property found located]
    · simp [named]
  apply ext
  simp only [forget, updatePropertyValue, mapProperties, map_map]
  refine map_congr_left fun service member => ?_
  simp only [comp_def, Service.mapProperties, map_map]
  congr 1
  refine map_congr_left fun property within => ?_
  exact same property (mem_flatMap.mpr ⟨service, member, within⟩)

end Table

namespace Server

def KeepsDefault (client : BitVec 48) (handle : Nat) (server : Server) :
    ConfigEvent → Prop
  | .write addr item value =>
    addr.addr = client → item = ⟨handle, descTypeClientConfig⟩ →
      ∀ property found,
        server.table.getPropertyByHandle handle = some property →
          property.descriptor descTypeClientConfig = some found →
            found.val = value
  | _ => True

/-- Two runs look alike to a client: it reads the same configuration of the
property and is sent the same messages. -/
def LookAlike (client : BitVec 48) (handle : Nat) (server : Server)
    (first second : List ConfigEvent) : Prop :=
  server.messagesTo client first = server.messagesTo client second ∧
    ∀ link : Link, link.client = client →
      (run configured server first).readsConfig link handle =
        (run configured server second).readsConfig link handle

def forget (client : BitVec 48) (handle : Nat) (server : Server) : Server :=
  { server with table := server.table.forget client handle }

variable {client other : BitVec 48} {handle : Nat} {server : Server}
  {event : ConfigEvent} {events : List ConfigEvent}

theorem configured_forget (foreign : ¬ event.Configures client handle) :
    (server.forget client handle).configured event =
      (server.configured event).forget client handle := by
  cases event with
  | write addr item value =>
    unfold configured forget
    dsimp only
    congr 1
    exact updatePropertyValue_forget fun named own =>
      foreign ⟨own, named⟩
  | update addr item value =>
    unfold configured forget
    dsimp only
    congr 1
    exact updateLocally_forget
  | connected link => rfl
  | disconnected addr =>
    unfold configured forget
    dsimp only
    congr 1
    exact cleanServiceCpcd_forget

theorem forget_configured (own : event.Configures client handle)
    (kept : server.KeepsDefault client handle event) :
    (server.configured event).forget client handle =
      server.forget client handle := by
  cases event with
  | write addr item value =>
    obtain ⟨writer, rfl⟩ := own
    unfold configured forget
    congr 1
    exact forget_updatePropertyValue writer (kept writer rfl)
  | _ => exact own.elim

theorem updateItemValue_forget (differs : other ≠ client)
    (property : Property) (addr : Addr) :
    ((server.forget client handle).updateItemValue
        (forgetAt client handle property) addr).filter
          (fun message => message.1.client = other) =
      (server.updateItemValue property addr).filter fun message =>
        message.1.client = other := by
  have message : ∀ (cpcdValue : Nat) (link : Link),
      (forgetAt client handle property).message cpcdValue link =
        property.message cpcdValue link := by
    intro cpcdValue link
    unfold forgetAt
    split <;> rfl
  have shared :
      (forgetAt client handle property).getClientConfigValue =
        property.getClientConfigValue := by
    unfold forgetAt
    split
    · exact Property.getClientConfigValue_forget
    · rfl
  have links : (server.forget client handle).findSsapLinkByAddr addr =
      server.findSsapLinkByAddr addr := rfl
  unfold updateItemValue
  split
  · unfold sendMsgToAllRemote
    simp only [shared, message]
    rfl
  · unfold sendMsgToRemoteByAddr
    rw [links]
    cases located : server.findSsapLinkByAddr addr with
    | none => rfl
    | some link =>
      have named : link.client = addr.addr := lookup_key located
      simp only [message]
      by_cases own : addr.addr = client
      · -- Whatever is sent goes to the client itself.
        have away : link.client ≠ other := by
          rw [named, own]
          exact differs.symm
        split <;> split <;> simp [away]
      · have chosen : (forgetAt client handle property).cpcdValue
            addr = property.cpcdValue addr := by
          unfold forgetAt
          split
          · exact Property.cpcdValue_forget own
          · rfl
        rw [chosen]

theorem getPropertyByHandle_forget (wanted : Nat) :
    (server.forget client handle).table.getPropertyByHandle wanted =
      (server.table.getPropertyByHandle wanted).map
        (forgetAt client handle) := by
  have keeps := handle_forgetAt client handle
  exact (getPropertyByHandle_mapProperties wanted :
    (server.table.mapProperties _ keeps).getPropertyByHandle wanted = _)

theorem messages_forget (differs : other ≠ client)
    (foreign : ¬ event.Configures client handle) :
    ((server.forget client handle).messages event).filter
        (fun message => message.1.client = other) =
      (server.messages event).filter fun message =>
        message.1.client = other := by
  unfold messages
  rw [configured_forget foreign]
  cases event with
  | update addr item value =>
    dsimp only
    unfold updateItemValueByHandle
    rw [getPropertyByHandle_forget]
    cases (server.configured (.update addr item value)).table
        |>.getPropertyByHandle item.handle with
    | none => rfl
    | some property => exact updateItemValue_forget differs property addr
  | _ => rfl

theorem messages_of_configures (own : event.Configures client handle) :
    server.messages event = [] := by
  cases event with
  | write addr item value => rfl
  | _ => exact own.elim

/-- The run without the writes of the client reaches the same state but for its
copy. -/
theorem run_without
    (kept : Meets configured (KeepsDefault client handle) server events) :
    run configured (server.forget client handle)
        (ConfigEvent.without client handle events) =
      (run configured server events).forget client handle := by
  induction events generalizing server with
  | nil => rfl
  | cons event events induction =>
    have later := induction kept.2
    by_cases own : event.Configures client handle
    · rw [forget_configured own kept.1] at later
      simpa [ConfigEvent.without, own] using later
    · rw [← configured_forget own] at later
      simpa [ConfigEvent.without, own] using later

theorem messagesTo_without (differs : other ≠ client)
    (kept : Meets configured (KeepsDefault client handle) server events) :
    (server.forget client handle).messagesTo other
        (ConfigEvent.without client handle events) =
      server.messagesTo other events := by
  induction events generalizing server with
  | nil => rfl
  | cons event events induction =>
    have later := induction kept.2
    by_cases own : event.Configures client handle
    · rw [forget_configured own kept.1] at later
      simpa [ConfigEvent.without, own, messagesTo,
        messages_of_configures own] using later
    · rw [← configured_forget own] at later
      have now : ConfigEvent.without client handle (event :: events) =
          event :: ConfigEvent.without client handle events := by
        simp [ConfigEvent.without, own]
      rw [now, messagesTo, messagesTo, later, messages_forget differs own]

theorem readsConfig_forget (link : Link) (differs : link.client ≠ client) :
    (server.forget client handle).readsConfig link handle =
      server.readsConfig link handle := by
  unfold readsConfig
  rw [getPropertyByHandle_forget, Option.map_map]
  congr 1
  funext property
  unfold forgetAt
  dsimp only [comp_apply]
  split
  · unfold getPropertyValue
    rw [Property.getVal_forget differs]
  · rfl

/-- Writes of a client that leave the default as it is can be put into a run
or left out of it, and no other client can tell. -/
theorem lookAlike_of_keepsDefault (server : Server)
    (client other : BitVec 48) (differs : other ≠ client) (handle : Nat)
    (first second : List ConfigEvent)
    (same : ConfigEvent.without client handle first =
      ConfigEvent.without client handle second)
    (firstKept :
      Meets configured (KeepsDefault client handle) server first)
    (secondKept :
      Meets configured (KeepsDefault client handle) server second) :
    server.LookAlike other handle first second := by
  constructor
  · rw [← messagesTo_without differs firstKept, same,
      messagesTo_without differs secondKept]
  · intro link named
    have foreign : link.client ≠ client := named ▸ differs
    rw [← readsConfig_forget link foreign, ← run_without firstKept, same,
      run_without secondKept, readsConfig_forget link foreign]

def notifyingTable : Table where
  services :=
    [{ handle := 1
       endHandle := 2
       uuid := []
       serviceType := 0
       properties :=
         [⟨2, [], operateIndicationNotify, 0,
           [⟨descTypeClientConfig, operateIndicationClientConfigurationWrite,
             0, [], [0, 0]⟩], [7]⟩]
       methods := [] }]
  unique := by decide

def notifyingServer : Server :=
  { init notifyingTable with
    links :=
      [⟨⟨0, 1⟩, 1, 251, Nat.le_refl stackMtuDefault, stackMtuDefault_le_max⟩,
       ⟨⟨0, 2⟩, 2, 251, Nat.le_refl stackMtuDefault,
         stackMtuDefault_le_max⟩] }

/-- The first client switches notifications off for itself. -/
theorem lookAlike_off :
    notifyingServer.LookAlike 2 2
      [.write ⟨0, 1⟩ ⟨2, descTypeClientConfig⟩ [0, 0],
        .update ⟨0, 0⟩ ⟨2, typeData⟩ [9]]
      [.update ⟨0, 0⟩ ⟨2, typeData⟩ [9]] := by
  refine lookAlike_of_keepsDefault notifyingServer 1 2 (by decide) 2 _ _
    rfl ⟨?_, trivial, trivial⟩ ⟨trivial, trivial⟩
  intro _ _ property found located described
  obtain rfl := Option.some.inj located
  obtain rfl := Option.some.inj described
  rfl

/-- The first client switches notifications on, and the second one is notified
and reads the value the first one wrote. -/
theorem lookAlike_fails :
    ¬ ∀ (server : Server) (client other : BitVec 48), other ≠ client →
      ∀ (handle : Nat) (first second : List ConfigEvent),
        ConfigEvent.without client handle first =
          ConfigEvent.without client handle second →
        server.LookAlike other handle first second := by
  intro alike
  have sent := (alike notifyingServer 1 2 (by decide) 2
    [.write ⟨0, 1⟩ ⟨2, descTypeClientConfig⟩ [1, 0],
      .update ⟨0, 2⟩ ⟨2, typeData⟩ [9]]
    [.update ⟨0, 2⟩ ⟨2, typeData⟩ [9]] rfl).1
  exact absurd sent (by decide)

end Server

end NearLink.Ssap
