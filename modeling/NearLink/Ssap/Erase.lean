import NearLink.Ssap.Table

/-!
# Tables that differ in one value

Erasing the value of an item leaves a table in which everything but that value
can be seen.  Two tables agree but for an item when erasing it makes them
equal.  The look-ups of agreeing tables agree, and so do the tables after the
same update.
-/

namespace NearLink.Ssap

open Sdf Keyed Option Function

namespace Descriptor

variable (descriptor : Descriptor)
include descriptor

@[simp] theorem type_erase : descriptor.erase.type = descriptor.type := rfl

@[simp] theorem erase_erase : descriptor.erase.erase = descriptor.erase := by
  simp [erase, comp_def]

variable (value : Bytes) (addr : Addr)

@[simp] theorem type_updateValue :
    (descriptor.updateValue value addr).type = descriptor.type := by
  unfold updateValue updatePropertyValueCpcd
  dsimp only
  split
  · split <;> rfl
  · rfl

@[simp] theorem rights_updateValue :
    (descriptor.updateValue value addr).permission = descriptor.permission ∧
      (descriptor.updateValue value addr).operation =
        descriptor.operation := by
  unfold updateValue updatePropertyValueCpcd
  dsimp only
  split
  · split <;> exact ⟨rfl, rfl⟩
  · exact ⟨rfl, rfl⟩

@[simp] theorem type_cleanCpcd :
    (descriptor.cleanCpcd addr).type = descriptor.type := by
  unfold cleanCpcd
  split <;> rfl

theorem erase_updateValue_erase :
    (descriptor.erase.updateValue value addr).erase =
      (descriptor.updateValue value addr).erase := by
  have found : lookup ClientConfig.client addr.addr
      (descriptor.clientConfigs.map fun config => { config with val := [] }) =
      (lookup ClientConfig.client addr.addr descriptor.clientConfigs).map
        fun config => { config with val := [] } :=
    lookup_map fun _ => rfl
  unfold updateValue updatePropertyValueCpcd findClientConfig
  dsimp only [erase]
  rw [found]
  by_cases config : descriptor.type = descTypeClientConfig
  · simp only [config, if_true]
    cases lookup ClientConfig.client addr.addr descriptor.clientConfigs with
    | none => simp [comp_def]
    | some found =>
      simp only [map_some]
      congr 1
      rw [map_modify (by intro _; rfl), map_modify (by intro _; rfl)]
      simp [comp_def]
  · simp [config, comp_def]

theorem cleanCpcd_erase :
    descriptor.erase.cleanCpcd addr = (descriptor.cleanCpcd addr).erase := by
  unfold cleanCpcd
  rw [type_erase]
  by_cases config : descriptor.type = descTypeClientConfig
  · rw [if_pos config, if_pos config]
    dsimp only [erase]
    rw [remove_map (by intro _; rfl)]
  · rw [if_neg config, if_neg config]

end Descriptor

namespace Property

variable (property : Property) {type other : UInt8}

@[simp] theorem handle_erase : (property.erase type).handle =
    property.handle := by
  unfold erase
  split <;> rfl

@[simp] theorem uuid_erase : (property.erase type).uuid =
    property.uuid := by
  unfold erase
  split <;> rfl

theorem descriptor_erase_self (ordinary : type ≠ typeData) :
    (property.erase type).descriptor type =
      (property.descriptor type).map Descriptor.erase := by
  rw [erase, if_neg ordinary]
  exact lookup_modify_self Descriptor.type_erase

theorem descriptor_erase_ne (differs : other ≠ type) :
    (property.erase type).descriptor other = property.descriptor other := by
  unfold erase
  split
  · rfl
  · exact lookup_modify_ne Descriptor.type_erase differs

@[simp] theorem getPermissionAndOperation_erase :
    (property.erase type).getPermissionAndOperation other =
      property.getPermissionAndOperation other := by
  unfold getPermissionAndOperation
  split
  · unfold erase
    split <;> rfl
  · by_cases same : other = type
    · subst same
      rw [descriptor_erase_self property ‹_›, map_map]
      rfl
    · rw [descriptor_erase_ne property same]

theorem content_erase_ne (differs : other ≠ type) :
    (property.erase type).content other = property.content other := by
  unfold content
  split
  next data =>
    rw [erase, if_neg fun equality => differs (data.trans equality.symm)]
  · rw [descriptor_erase_ne property differs]

@[simp] theorem erase_erase :
    (property.erase type).erase type = property.erase type := by
  unfold erase
  split
  · rfl
  · rw [modify_modify Descriptor.type_erase]
    have same : Descriptor.erase ∘ Descriptor.erase = Descriptor.erase :=
      funext Descriptor.erase_erase
    rw [same]

theorem getVal_eq_content (addr : Addr) :
    property.getVal addr type =
      (property.content type).map fun (val, clientConfigs) =>
        if type = descTypeClientConfig then
          match lookup ClientConfig.client addr.addr clientConfigs with
          | some config => config.val
          | none => val
        else val := by
  unfold getVal content Descriptor.findClientConfig
  by_cases data : type = typeData
  · subst data
    rfl
  · rw [if_neg data, if_neg data]
    cases property.descriptor type <;> rfl

variable {value : Bytes} {addr : Addr}

theorem isSome_updatePropertyValue :
    (property.updatePropertyValue type value addr).isSome =
      (property.getPermissionAndOperation type).isSome := by
  unfold updatePropertyValue getPermissionAndOperation
  split
  · rfl
  · cases property.descriptor type <;> rfl

def updated (property : Property) (type : UInt8) (value : Bytes) (addr : Addr) : Property :=
  (property.updatePropertyValue type value addr).getD property

theorem updated_eq :
    property.updated type value addr =
      if type = typeData then { property with val := value }
      else
        { property with
          descriptors := modify Descriptor.type type
            (fun found => found.updateValue value addr)
            property.descriptors } := by
  unfold updated updatePropertyValue
  split
  · rfl
  · cases located : property.descriptor type with
    | none =>
      rw [modify_absent located]
      rfl
    | some found => rfl

@[simp] theorem handle_updated :
    (property.updated type value addr).handle = property.handle := by
  rw [updated_eq]
  split <;> rfl

theorem descriptor_updated_self (ordinary : type ≠ typeData) :
    (property.updated type value addr).descriptor type =
      (property.descriptor type).map fun found =>
        found.updateValue value addr := by
  rw [updated_eq, if_neg ordinary]
  exact lookup_modify_self fun found => found.type_updateValue value addr

theorem descriptor_updated_ne (differs : other ≠ type) :
    (property.updated type value addr).descriptor other =
      property.descriptor other := by
  rw [updated_eq]
  split
  · rfl
  · exact lookup_modify_ne (fun found => found.type_updateValue value addr)
      differs

@[simp] theorem getPermissionAndOperation_updated :
    (property.updated type value addr).getPermissionAndOperation other =
      property.getPermissionAndOperation other := by
  unfold getPermissionAndOperation
  split
  · rw [updated_eq]
    split <;> rfl
  · by_cases same : other = type
    · subst same
      rw [descriptor_updated_self property ‹_›, map_map]
      simp [comp_def]
    · rw [descriptor_updated_ne property same]

theorem content_updated_ne (differs : other ≠ type) :
    (property.updated type value addr).content other =
      property.content other := by
  unfold content
  split
  next data =>
    rw [updated_eq, if_neg fun equality =>
      differs (data.trans equality.symm)]
  · rw [descriptor_updated_ne property differs]

theorem content_updated_congr {first second : Property}
    (same : first.content type = second.content type) :
    (first.updated type value addr).content type =
      (second.updated type value addr).content type := by
  by_cases data : type = typeData
  · simp [updated_eq, content, data]
  · simp only [content, data, if_false,
      descriptor_updated_self _ data] at same ⊢
    cases before : first.descriptor type with
    | none =>
      rw [before] at same
      cases after : second.descriptor type with
      | none => rfl
      | some found =>
        rw [after] at same
        cases same
    | some earlier =>
      rw [before] at same
      cases after : second.descriptor type with
      | none =>
        rw [after] at same
        cases same
      | some found =>
        rw [after] at same
        have named := lookup_key before
        have alike := lookup_key after
        simp only [map_some, some.injEq, Prod.mk.injEq] at same
        simp only [map_some, Descriptor.updateValue,
          Descriptor.updatePropertyValueCpcd,
          Descriptor.findClientConfig, named, alike, same.2]
        split
        · split <;> rfl
        · rfl

theorem erase_updated_erase (erased written : UInt8) :
    ((property.erase erased).updated written value addr).erase erased =
      (property.updated written value addr).erase erased := by
  have keeps : ∀ found : Descriptor,
      (found.updateValue value addr).type = found.type :=
    fun found => found.type_updateValue value addr
  have absorbs : (Descriptor.erase ∘ fun found : Descriptor =>
        found.updateValue value addr) ∘ Descriptor.erase =
      Descriptor.erase ∘ fun found : Descriptor =>
        found.updateValue value addr :=
    funext fun found => found.erase_updateValue_erase value addr
  have twice : Descriptor.erase ∘ Descriptor.erase = Descriptor.erase :=
    funext Descriptor.erase_erase
  simp only [updated_eq, erase]
  by_cases erasesData : erased = typeData
  · by_cases writesData : written = typeData <;> simp [erasesData, writesData]
  · by_cases writesData : written = typeData
    · simp only [erasesData, writesData, if_true, if_false]
      rw [modify_modify Descriptor.type_erase, twice]
    · simp only [erasesData, writesData, if_false]
      by_cases same : written = erased
      · subst same
        rw [modify_modify keeps, modify_modify Descriptor.type_erase,
          modify_modify keeps, absorbs]
      · rw [modify_comm Descriptor.type_erase keeps same,
          modify_modify Descriptor.type_erase, twice]

@[simp] theorem getPermissionAndOperation_cleanCpcd :
    (property.cleanCpcd addr).getPermissionAndOperation type =
      property.getPermissionAndOperation type := by
  unfold getPermissionAndOperation
  split
  · rfl
  · have located : (property.cleanCpcd addr).descriptor type =
        (property.descriptor type).map (Descriptor.cleanCpcd addr) :=
      lookup_map fun found => found.type_cleanCpcd addr
    rw [located, map_map]
    congr 1
    funext found
    simp only [comp_def, Descriptor.cleanCpcd]
    split <;> rfl

theorem erase_cleanCpcd_erase :
    ((property.erase type).cleanCpcd addr).erase type =
      (property.cleanCpcd addr).erase type := by
  unfold erase cleanCpcd
  split
  · rfl
  · rw [modify_map (fun found => found.type_cleanCpcd addr)
        fun found _ => (found.cleanCpcd_erase addr).symm,
      modify_map (fun found => found.type_cleanCpcd addr)
        fun found _ => (found.cleanCpcd_erase addr).symm,
      modify_modify Descriptor.type_erase]
    have twice : Descriptor.erase ∘ Descriptor.erase = Descriptor.erase :=
      funext Descriptor.erase_erase
    rw [twice]

end Property

namespace Table

section

variable (item : Item) (property : Property)

@[simp] theorem handle_eraseAt :
    (eraseAt item property).handle = property.handle := by
  unfold eraseAt
  split <;> simp

@[simp] theorem uuid_eraseAt :
    (eraseAt item property).uuid = property.uuid := by
  unfold eraseAt
  split <;> simp

@[simp] theorem getPermissionAndOperation_eraseAt (type : UInt8) :
    (eraseAt item property).getPermissionAndOperation type =
      property.getPermissionAndOperation type := by
  unfold eraseAt
  split <;> simp

theorem content_eraseAt {type : UInt8}
    (differs : item ≠ ⟨property.handle, type⟩) :
    (eraseAt item property).content type = property.content type := by
  unfold eraseAt
  split
  next named =>
    apply Property.content_erase_ne
    rintro rfl
    exact differs (by rw [named])
  · rfl

@[simp] theorem eraseAt_eraseAt :
    eraseAt item (eraseAt item property) = eraseAt item property := by
  by_cases named : property.handle = item.handle <;> simp [eraseAt, named]

variable (handle : Nat) (type : UInt8) (value : Bytes) (addr : Addr)

theorem writeAt_eq :
    writeAt handle type value addr property =
      if property.handle = handle then property.updated type value addr
      else property :=
  rfl

theorem eraseAt_writeAt_eraseAt :
    eraseAt item (writeAt handle type value addr (eraseAt item property)) =
      eraseAt item (writeAt handle type value addr property) := by
  simp only [writeAt_eq, handle_eraseAt]
  by_cases written : property.handle = handle
  · by_cases named : property.handle = item.handle
    · rw [written] at named
      simp only [eraseAt, written, named, if_true, Property.handle_updated,
        Property.handle_erase]
      exact property.erase_updated_erase item.type type
    · simp [eraseAt, named]
  · simp [written]

theorem eraseAt_cleanCpcd_eraseAt :
    eraseAt item (Property.cleanCpcd addr (eraseAt item property)) =
      eraseAt item (Property.cleanCpcd addr property) := by
  by_cases named : property.handle = item.handle
  · have kept : ∀ other : Property,
        (other.cleanCpcd addr).handle = other.handle := fun _ => rfl
    simp only [eraseAt, named, if_true, kept, Property.handle_erase]
    exact property.erase_cleanCpcd_erase
  · simp [eraseAt, named]

end

variable {first second : Table} {item : Item}

def Agree (item : Item) (first second : Table) : Prop :=
  first.erase item = second.erase item

theorem Agree.symm (agree : Agree item first second) :
    Agree item second first :=
  Eq.symm agree

theorem erase_agree (table : Table) (item : Item) :
    Agree item (table.erase item) table := by
  apply Table.ext
  simp [erase, mapProperties, comp_def, Service.mapProperties]

theorem Agree.getPropertyByHandle (agree : Agree item first second)
    (handle : Nat) :
    (first.getPropertyByHandle handle).map (eraseAt item) =
      (second.getPropertyByHandle handle).map (eraseAt item) := by
  have same := congrArg (fun table => table.getPropertyByHandle handle) agree
  simpa [erase] using same

theorem getPropertyByUuid_erase (table : Table) (item : Item)
    (handleStart handleEnd : Nat) (uuid : Bytes) :
    (table.erase item).getPropertyByUuid handleStart handleEnd uuid =
      (table.getPropertyByUuid handleStart handleEnd uuid).map
        (eraseAt item) := by
  unfold erase
  rw [getPropertyByUuid_mapProperties (uuid_eraseAt item)]

section

variable (agree : Agree item first second)
include agree

theorem Agree.getPropertyByUuid (handleStart handleEnd : Nat) (uuid : Bytes) :
    (first.getPropertyByUuid handleStart handleEnd uuid).map (eraseAt item) =
      (second.getPropertyByUuid handleStart handleEnd uuid).map
        (eraseAt item) := by
  have same := congrArg
    (fun table => table.getPropertyByUuid handleStart handleEnd uuid) agree
  simpa only [getPropertyByUuid_erase] using same

variable (handle : Nat)

theorem Agree.isHandleExist :
    first.isHandleExist handle = second.isHandleExist handle := by
  have same := congrArg (fun table => table.isHandleExist handle) agree
  simpa [erase] using same

theorem Agree.getMethodByHandle :
    first.getMethodByHandle handle = second.getMethodByHandle handle := by
  have same := congrArg (fun table => table.getMethodByHandle handle) agree
  simpa [erase] using same

/-- The same change of all properties keeps tables in agreement, when it does
not carry the value of the item elsewhere. -/
theorem Agree.mapProperties {change : Property → Property}
    {keeps : ∀ property, (change property).handle = property.handle}
    (absorbs : ∀ property, eraseAt item (change (eraseAt item property)) =
      eraseAt item (change property)) :
    Agree item (first.mapProperties change keeps)
      (second.mapProperties change keeps) := by
  have within : ∀ table : Table, (table.mapProperties change keeps).erase item =
        ((table.erase item).mapProperties change keeps).erase item := by
    intro table
    apply Table.ext
    simp [erase, Table.mapProperties, Service.mapProperties, comp_def, absorbs]
  unfold Agree at agree ⊢
  rw [within first, within second, agree]

theorem Agree.updatePropertyValue (type : UInt8) (value : Bytes) (addr : Addr) :
    Agree item (first.updatePropertyValue handle type value addr)
      (second.updatePropertyValue handle type value addr) :=
  agree.mapProperties fun property =>
    eraseAt_writeAt_eraseAt item property handle type value addr

theorem Agree.cleanServiceCpcd (addr : Addr) :
    Agree item (first.cleanServiceCpcd addr) (second.cleanServiceCpcd addr) :=
  agree.mapProperties fun property =>
    eraseAt_cleanCpcd_eraseAt item property addr

end

@[simp] theorem access_updatePropertyValue (table : Table) (handle : Nat)
    (type : UInt8) (value : Bytes) (addr : Addr) (item : Item) :
    (table.updatePropertyValue handle type value addr).access item =
      table.access item := by
  apply access_mapProperties
  intro property other
  rw [writeAt_eq]
  split <;> simp

@[simp] theorem access_cleanServiceCpcd (table : Table) (addr : Addr)
    (item : Item) :
    (table.cleanServiceCpcd addr).access item = table.access item :=
  access_mapProperties
    (fun property _ => property.getPermissionAndOperation_cleanCpcd) item

theorem content_updatePropertyValue {table : Table} {handle : Nat}
    {type : UInt8} {value : Bytes} {addr : Addr}
    (differs : item ≠ ⟨handle, type⟩) :
    (table.updatePropertyValue handle type value addr).content item =
      table.content item := by
  unfold content Table.updatePropertyValue
  rw [getPropertyByHandle_mapProperties]
  cases located : table.getPropertyByHandle item.handle with
  | none => rfl
  | some property =>
    have named : property.handle = item.handle := lookup_key located
    simp only [map_some, bind_some, writeAt_eq, named]
    split
    next written =>
      apply Property.content_updated_ne
      rintro rfl
      exact differs (by rw [← written])
    · rfl

end Table

end NearLink.Ssap
