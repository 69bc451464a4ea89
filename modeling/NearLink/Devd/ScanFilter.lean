import Mathlib.Data.List.Perm.Basic

/-!
# Filters of a scanner

`devd_scan_filter.c`: an advertising result against the filters of a scanner.
Neither is null, and the buffers that are compared have memory.
-/

namespace NearLink.Devd

abbrev ServiceUuid := Vector UInt8 16

/-- `SLE_Addr_S` -/
structure AdvAddr where
  type : UInt8
  addr : Vector UInt8 6
  deriving DecidableEq

open List

structure AdvServiceData where
  uuid : ServiceUuid
  data : List UInt8

structure AdvManufacturerData where
  manufacturerId : UInt16
  data : List UInt8

/-- The fields of `NLSTK_DevdAdvResult_S` that a filter reads. -/
structure AdvResult where
  addr : AdvAddr
  rssi : Int8 := 0
  frameType : UInt8
  localName : List UInt8 := []
  meshInfo : List UInt8 := []
  serviceDataList : List AdvServiceData := []
  serviceUuids : List ServiceUuid := []
  manufacturerDataList : List AdvManufacturerData := []

/-- `NLSTK_DevdScanFilter_S`.  An optional field stands for the field and its
flag. -/
structure ScanFilter where
  addr : Option AdvAddr := none
  name : List UInt8 := []
  serviceUuid : Option ServiceUuid := none
  serviceUuidMask : Option ServiceUuid := none
  serviceData : List UInt8 := []
  serviceDataMask : List UInt8 := []
  manufacturerId : UInt16 := 0
  manufacturerData : List UInt8 := []
  manufacturerDataMask : List UInt8 := []
  rssiThreshold : Option Int8 := none
  advIndReport : Bool := false
  meshInfoReport : Bool := false
  isNoFilter : Bool := false

/-- `g_baseUuid` before its last two bytes -/
def baseUuid : List UInt8 :=
  [0x37, 0xBE, 0xA8, 0x80, 0xFC, 0x70, 0x11, 0xEA, 0xB7, 0x20, 0, 0, 0, 0]

def matchAddr (result : AdvResult) (filter : ScanFilter) : Bool :=
  filter.addr.all fun addr => result.addr = addr

def matchName (result : AdvResult) (filter : ScanFilter) : Bool :=
  filter.name.isEmpty ||
    !result.localName.isEmpty && result.localName = filter.name

def masked (data mask : List UInt8) : List UInt8 :=
  List.zipWith (fun byte bits => byte &&& bits) data mask

def matchServiceUuid (result : AdvResult) (filter : ScanFilter) : Bool :=
  match filter.serviceUuid with
  | none => true
  | some serviceUuid =>
    result.serviceUuids.any fun uuid =>
      match filter.serviceUuidMask with
      | some mask =>
        masked uuid.toList mask.toList = masked serviceUuid.toList mask.toList
      | none => uuid = serviceUuid

/-- A mask of another length than the filter is not used. -/
def matchDataWithMask (data filterData mask : List UInt8) : Bool :=
  if data.length < filterData.length then false
  else if mask.length ≠ filterData.length then
    data.take filterData.length = filterData
  else masked data mask = masked filterData mask

/-- `GetUuidLen` and `ParseServiceData` -/
def AdvServiceData.bytes (serviceData : AdvServiceData) : List UInt8 :=
  if serviceData.uuid.toList.take 14 = baseUuid then
    serviceData.uuid[15] :: serviceData.uuid[14] :: serviceData.data
  else serviceData.uuid.toList ++ serviceData.data

def matchServiceData (result : AdvResult) (filter : ScanFilter) : Bool :=
  filter.serviceData.isEmpty || result.serviceDataList.any fun serviceData =>
      matchDataWithMask serviceData.bytes filter.serviceData
        filter.serviceDataMask

/-- Only the first entry of the manufacturer is compared. -/
def matchManufacturerData (result : AdvResult) (filter : ScanFilter) : Bool :=
  filter.manufacturerId = 0 ||
    match result.manufacturerDataList.find? fun entry =>
        entry.manufacturerId = filter.manufacturerId with
    | none => false
    | some entry =>
      entry.data.isEmpty || matchDataWithMask entry.data filter.manufacturerData
          filter.manufacturerDataMask

def matchRssi (result : AdvResult) (filter : ScanFilter) : Bool :=
  filter.rssiThreshold.all fun threshold => threshold ≤ result.rssi

def matchMeshInfo (result : AdvResult) (filter : ScanFilter) : Bool :=
  !filter.meshInfoReport || !result.meshInfo.isEmpty

def isMatchFilter (result : AdvResult) (filter : ScanFilter) : Bool :=
  [matchAddr, matchName, matchServiceUuid, matchServiceData,
    matchManufacturerData, matchRssi, matchMeshInfo].all fun rule =>
      rule result filter

/-- `DevdIsMatchFilters`.  A filter of the other frame type ends the loop. -/
def isMatchFilters (result : AdvResult) : List ScanFilter → Bool
  | [] => false
  | filter :: filters =>
    if filter.isNoFilter then true
    else if filter.advIndReport && result.frameType != 1 then false
    else if !filter.advIndReport && result.frameType != 0 then false
    else if isMatchFilter result filter then true
    else isMatchFilters result filters

/-- The filter takes results of this frame type. -/
def ScanFilter.OfFrame (filter : ScanFilter) (result : AdvResult) : Prop :=
  result.frameType = if filter.advIndReport then 1 else 0

/-- The bits of a byte that count: a mask of another length counts for
nothing. -/
def bitsOf (wanted mask : List UInt8) (index : Nat) : UInt8 :=
  if mask.length = wanted.length then mask.getD index 0 else 0xFF

/-- The data begin with what is wanted, as far as the mask tells. -/
def Covers (data wanted mask : List UInt8) : Prop :=
  wanted.length ≤ data.length ∧ ∀ index < wanted.length,
    data.getD index 0 &&& bitsOf wanted mask index =
      wanted.getD index 0 &&& bitsOf wanted mask index

namespace ScanFilter

/-- What a filter asks for apart from manufacturer data. -/
structure Meets (filter : ScanFilter) (result : AdvResult) : Prop where
  addr : ∀ addr, filter.addr = some addr → result.addr = addr
  name : filter.name ≠ [] → result.localName = filter.name
  serviceUuid : ∀ wanted, filter.serviceUuid = some wanted →
    ∃ uuid ∈ result.serviceUuids, Covers uuid.toList wanted.toList
      (filter.serviceUuidMask.elim [] Vector.toList)
  serviceData : filter.serviceData ≠ [] →
    ∃ serviceData ∈ result.serviceDataList,
      Covers serviceData.bytes filter.serviceData filter.serviceDataMask
  rssi : ∀ threshold, filter.rssiThreshold = some threshold →
    threshold ≤ result.rssi
  meshInfo : filter.meshInfoReport → result.meshInfo ≠ []

def CoveredBy (filter : ScanFilter) (entry : AdvManufacturerData) : Prop :=
  Covers entry.data filter.manufacturerData filter.manufacturerDataMask

def Advertised (filter : ScanFilter) (result : AdvResult) : Prop :=
  filter.manufacturerId ≠ 0 → ∃ entry ∈ result.manufacturerDataList,
    entry.manufacturerId = filter.manufacturerId ∧ filter.CoveredBy entry

/-- The first entry of the manufacturer is empty or has the data. -/
def AdvertisedFirst (filter : ScanFilter) (result : AdvResult) : Prop :=
  filter.manufacturerId ≠ 0 → ∃ entry, result.manufacturerDataList.find?
      (fun entry => entry.manufacturerId = filter.manufacturerId) =
        some entry ∧ (entry.data = [] ∨ filter.CoveredBy entry)

/-- The filter lets everything through, or all its criteria hold. -/
def Accepts (filter : ScanFilter) (result : AdvResult) : Prop :=
  filter.isNoFilter ∨
    filter.OfFrame result ∧ filter.Meets result ∧ filter.Advertised result

/-- As `Accepts`, with the first entry of the manufacturer for all. -/
def Passes (filter : ScanFilter) (result : AdvResult) : Prop :=
  filter.isNoFilter ∨
    filter.OfFrame result ∧ filter.Meets result ∧ filter.AdvertisedFirst result

/-- No entry of the manufacturer has the data, and the first one is empty. -/
def Blank (filter : ScanFilter) (result : AdvResult) : Prop :=
  filter.isNoFilter = false ∧ ¬ filter.Advertised result ∧
    ∃ entry, result.manufacturerDataList.find?
      (fun entry => entry.manufacturerId = filter.manufacturerId) =
        some entry ∧ entry.data = []

end ScanFilter

/-- The filter is for the other frame type. -/
def ScanFilter.Stops (filter : ScanFilter) (result : AdvResult) : Prop :=
  filter.isNoFilter = false ∧ ¬ filter.OfFrame result

/-- The result passes the filter and none before it is for the other frame
type. -/
def ReachedAt (result : AdvResult) (filters : List ScanFilter)
    (filter : ScanFilter) : Prop :=
  ∃ before after, filters = before ++ filter :: after ∧
    filter.Passes result ∧ ∀ other ∈ before, ¬ other.Stops result

def Reached (result : AdvResult) (filters : List ScanFilter) : Prop :=
  ∃ filter, ReachedAt result filters filter

/-- Every order of the filters gives one answer. -/
def OrderFree (result : AdvResult) (filters : List ScanFilter) : Prop :=
  ∀ other, other.Perm filters →
    isMatchFilters result other = isMatchFilters result filters

/-- One more filter, wherever it stands, takes no match away. -/
def KeepsMatch (result : AdvResult) (filters : List ScanFilter)
    (added : ScanFilter) : Prop :=
  ∀ before after, filters = before ++ after → isMatchFilters result filters →
    isMatchFilters result (before ++ added :: after)

variable {result : AdvResult} {filter : ScanFilter} {filters : List ScanFilter}

theorem and_bitsOf (byte : UInt8) {wanted mask : List UInt8}
    (other : mask.length ≠ wanted.length) (index : Nat) :
    byte &&& bitsOf wanted mask index = byte := by
  rw [bitsOf, if_neg other]
  exact UInt8.and_neg_one

theorem matchDataWithMask_iff {data wanted mask : List UInt8} :
    matchDataWithMask data wanted mask ↔ Covers data wanted mask := by
  unfold matchDataWithMask Covers
  by_cases short : data.length < wanted.length
  · simp [if_pos short, Nat.not_le.mpr short]
  have long := Nat.not_lt.mp short
  rw [if_neg short]
  by_cases same : mask.length = wanted.length
  · rw [if_neg (not_not.mpr same), decide_eq_true_iff, ext_getElem_iff]
    simp only [masked, length_zipWith, same, Nat.min_eq_right long,
      Nat.min_self, getElem_zipWith, true_and, long]
    refine forall₂_congr fun index inside => ?_
    simp [bitsOf, inside, same, Nat.lt_of_lt_of_le inside long]
  · rw [if_pos same, decide_eq_true_iff, ext_getElem_iff]
    simp only [length_take, Nat.min_eq_left long, getElem_take, true_and, long]
    refine forall₂_congr fun index inside => ?_
    simp [and_bitsOf _ same, inside, Nat.lt_of_lt_of_le inside long]

theorem matchServiceUuid_iff : matchServiceUuid result filter ↔
    ∀ wanted, filter.serviceUuid = some wanted →
      ∃ uuid ∈ result.serviceUuids, Covers uuid.toList wanted.toList
        (filter.serviceUuidMask.elim [] Vector.toList) := by
  have whole : ∀ uuid : ServiceUuid, uuid.toList.take 16 = uuid.toList :=
    fun uuid => take_of_length_le (by simp)
  unfold matchServiceUuid
  cases filter.serviceUuid with
  | none => simp
  | some wanted =>
    cases filter.serviceUuidMask with
    | none | some =>
      simp [← matchDataWithMask_iff, matchDataWithMask, whole,
        Vector.toList_inj]

theorem matchManufacturerData_iff : matchManufacturerData result filter ↔
    filter.AdvertisedFirst result := by
  unfold matchManufacturerData ScanFilter.AdvertisedFirst
  cases result.manufacturerDataList.find? _ with
  | none => simp
  | some entry =>
    simp [ScanFilter.CoveredBy, matchDataWithMask_iff, or_iff_not_imp_left]

theorem isMatchFilter_iff : isMatchFilter result filter ↔
    filter.Meets result ∧ filter.AdvertisedFirst result := by
  have address : matchAddr result filter ↔
      ∀ addr, filter.addr = some addr → result.addr = addr := by
    unfold matchAddr
    cases filter.addr with
    | none | some => simp
  have name : matchName result filter ↔
      (filter.name ≠ [] → result.localName = filter.name) := by
    unfold matchName
    cases filter.name with
    | nil => simp
    | cons byte bytes =>
      refine ⟨by simp, fun same => ?_⟩
      simp [same]
  have serviceData : matchServiceData result filter ↔
      (filter.serviceData ≠ [] → ∃ serviceData ∈ result.serviceDataList,
        Covers serviceData.bytes filter.serviceData
          filter.serviceDataMask) := by
    simp [matchServiceData, matchDataWithMask_iff, or_iff_not_imp_left]
  have rssi : matchRssi result filter ↔ ∀ threshold,
      filter.rssiThreshold = some threshold → threshold ≤ result.rssi := by
    unfold matchRssi
    cases filter.rssiThreshold with
    | none | some => simp
  have mesh : matchMeshInfo result filter ↔
      (filter.meshInfoReport → result.meshInfo ≠ []) := by
    simp [matchMeshInfo, or_iff_not_imp_left]
  simp only [isMatchFilter, all_cons, all_nil, Bool.and_true, Bool.and_eq_true,
    address, name, matchServiceUuid_iff, serviceData,
    matchManufacturerData_iff, rssi, mesh]
  constructor
  · rintro ⟨address, name, uuid, data, first, rssi, mesh⟩
    exact ⟨⟨address, name, uuid, data, rssi, mesh⟩, first⟩
  · rintro ⟨⟨address, name, uuid, data, rssi, mesh⟩, first⟩
    exact ⟨address, name, uuid, data, first, rssi, mesh⟩

theorem isMatchFilters_cons :
    isMatchFilters result (filter :: filters) ↔ filter.Passes result ∨
        ¬ filter.Stops result ∧ isMatchFilters result filters := by
  unfold ScanFilter.Passes
  rw [← isMatchFilter_iff]
  cases none : filter.isNoFilter <;> cases report : filter.advIndReport <;>
    simp [isMatchFilters, ScanFilter.Stops, ScanFilter.OfFrame, none,
      report] <;> grind

theorem ScanFilter.Passes.not_stops (accepts : filter.Passes result) :
    ¬ filter.Stops result := by
  rintro ⟨filtered, other⟩
  rcases accepts with unfiltered | ⟨frame, _⟩
  · rw [filtered] at unfiltered
    contradiction
  · exact other frame

theorem isMatchFilters_stops (stops : filter.Stops result) :
    isMatchFilters result (filter :: filters) = false := by
  rw [Bool.eq_false_iff, Ne, isMatchFilters_cons]
  rintro (accepts | ⟨passes, _⟩)
  · exact accepts.not_stops stops
  · exact passes stops

theorem isMatchFilters_iff :
    isMatchFilters result filters ↔ Reached result filters := by
  induction filters with
  | nil => simp [isMatchFilters, Reached, ReachedAt]
  | cons filter filters induction =>
    rw [isMatchFilters_cons, induction]
    constructor
    · rintro (accepts | ⟨passes, found, before, after, rfl, accepts, free⟩)
      · exact ⟨filter, [], filters, rfl, accepts, nofun⟩
      · exact ⟨found, filter :: before, after, rfl, accepts,
          forall_mem_cons.mpr ⟨passes, free⟩⟩
    · rintro ⟨found, before, after, equal, accepts, free⟩
      cases before with
      | nil =>
        obtain ⟨rfl, _⟩ := List.cons.inj equal
        exact .inl accepts
      | cons head before =>
        obtain ⟨rfl, rest⟩ := List.cons.inj equal
        rw [forall_mem_cons] at free
        exact .inr ⟨free.1, found, before, after, rest, accepts, free.2⟩

theorem Reached.exists (reached : Reached result filters) :
    ∃ filter ∈ filters, filter.Passes result := by
  obtain ⟨filter, before, after, rfl, accepts, _⟩ := reached
  exact ⟨filter, by simp, accepts⟩

/-- Without a filter for the other frame type the loop is a disjunction. -/
theorem reached_iff (free : ∀ filter ∈ filters, ¬ filter.Stops result) :
    Reached result filters ↔ ∃ filter ∈ filters, filter.Passes result := by
  refine ⟨Reached.exists, fun ⟨filter, member, accepts⟩ => ?_⟩
  obtain ⟨before, after, rfl⟩ := append_of_mem member
  exact ⟨filter, before, after, rfl, accepts,
    fun other found => free other (by simp [found])⟩

theorem orderFree_iff :
    OrderFree result filters ↔ (∀ filter ∈ filters, ¬ filter.Passes result) ∨
        ∀ filter ∈ filters, ¬ filter.Stops result := by
  constructor
  · refine fun same => or_iff_not_imp_right.mpr fun some => ?_
    obtain ⟨stopper, found, stops⟩ : ∃ filter ∈ filters,
        filter.Stops result := by
      simpa using some
    intro filter member accepts
    obtain ⟨before, after, rfl⟩ := append_of_mem found
    have masked := (same _ perm_middle.symm).symm.trans
      (isMatchFilters_stops stops)
    obtain ⟨left, right, equal⟩ := append_of_mem member
    have shown := same (filter :: (left ++ right)) (equal ▸ perm_middle.symm)
    rw [masked, isMatchFilters_cons.mpr (.inl accepts)] at shown
    contradiction
  · intro clear other perm
    rw [Bool.eq_iff_iff, isMatchFilters_iff, isMatchFilters_iff]
    rcases clear with nothing | free
    · constructor <;> intro reached <;>
        obtain ⟨filter, member, accepts⟩ := reached.exists
      · exact absurd accepts (nothing filter (perm.mem_iff.mp member))
      · exact absurd accepts (nothing filter member)
    · rw [reached_iff free, reached_iff fun filter member =>
        free filter (perm.mem_iff.mp member)]
      simp only [perm.mem_iff]

theorem isMatchFilters_insert {added : ScanFilter}
    (passes : ¬ added.Stops result) {before after : List ScanFilter}
    (found : isMatchFilters result (before ++ after)) :
    isMatchFilters result (before ++ added :: after) := by
  induction before with
  | nil => exact isMatchFilters_cons.mpr (.inr ⟨passes, found⟩)
  | cons filter before induction =>
    rw [cons_append, isMatchFilters_cons] at found ⊢
    exact found.imp_right fun rest => ⟨rest.1, induction rest.2⟩

theorem keepsMatch_iff {added : ScanFilter} :
    KeepsMatch result filters added ↔
      (added.Stops result → ¬ Reached result filters) := by
  constructor
  · intro kept stops reached
    have found := kept [] filters rfl (isMatchFilters_iff.mpr reached)
    rw [nil_append, isMatchFilters_stops stops] at found
    contradiction
  · rintro free before after rfl found
    exact isMatchFilters_insert
      (fun stops => free stops (isMatchFilters_iff.mp found)) found

theorem ReachedAt.accepts_or_blank (reached : ReachedAt result filters filter) :
    filter ∈ filters ∧ (filter.Accepts result ∨ filter.Blank result) := by
  obtain ⟨before, after, rfl, passes, _⟩ := reached
  refine ⟨by simp, ?_⟩
  rcases passes with free | ⟨frame, meets, first⟩
  · exact .inl (.inl free)
  by_cases found : filter.Advertised result
  · exact .inl (.inr ⟨frame, meets, found⟩)
  have asks : filter.manufacturerId ≠ 0 := fun none =>
    found fun asks => absurd none asks
  obtain ⟨entry, listed, empty | carried⟩ := first asks
  · cases none : filter.isNoFilter with
    | true => exact .inl (.inl none)
    | false => exact .inr ⟨none, found, entry, listed, empty⟩
  · have named := find?_some listed
    exact absurd (fun _ => ⟨entry, mem_of_find?_eq_some listed,
      of_decide_eq_true named, carried⟩) found

theorem isMatchFilters_disjunction (result : AdvResult)
    (filters : List ScanFilter) :
    ((isMatchFilters result filters ↔
          ∃ filter ∈ filters, filter.Accepts result) ↔
        ((∃ filter ∈ filters, filter.Accepts result) →
            Reached result filters) ∧
          ((∃ filter, ReachedAt result filters filter ∧ filter.Blank result) →
            ∃ filter ∈ filters, filter.Accepts result)) ∧
      (OrderFree result filters ↔
        (∀ filter ∈ filters, ¬ filter.Passes result) ∨
          ∀ filter ∈ filters, ¬ filter.Stops result) ∧
      ∀ added, KeepsMatch result filters added ↔
        (added.Stops result → ¬ Reached result filters) := by
  refine ⟨?_, orderFree_iff, fun _ => keepsMatch_iff⟩
  rw [isMatchFilters_iff]
  constructor
  · intro same
    exact ⟨same.mpr, fun ⟨filter, reached, _⟩ => same.mp ⟨filter, reached⟩⟩
  · rintro ⟨reaches, blank⟩
    refine ⟨fun ⟨filter, reached⟩ => ?_, reaches⟩
    obtain ⟨member, accepts | empty⟩ := reached.accepts_or_blank
    · exact ⟨filter, member, accepts⟩
    · exact blank ⟨filter, reached, empty⟩

/-- A filter for frame 4 hides the one behind it that lets everything
through. -/
theorem isMatchFilters_masked :
    ¬ ∀ result filters, isMatchFilters result filters ↔
      ∃ filter ∈ filters, filter.Accepts result := by
  intro all
  have shown := (all
    { addr := ⟨0, .replicate 6 0⟩
      frameType := 0 }
    [{ advIndReport := true }, { isNoFilter := true }]).mpr
      ⟨_, .tail _ (.head _), .inl rfl⟩
  contradiction

end NearLink.Devd
