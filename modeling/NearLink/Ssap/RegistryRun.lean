import Mathlib.Data.List.Pairwise
import NearLink.Transition
import NearLink.Ssap.Registry

/-!
# The table of services after any history

The blocks of the allocator and the ranges of the services divide the handles
among themselves as long as all services come from `SsapServerAddService`.  The
handles that `SSAPS_StartService` takes are still free for the allocator.
-/

namespace NearLink.Ssap

open Intervals Transition List

variable {range : Interval}

theorem firstFit_spec {size : Nat} {blocks rest : List Interval}
    (separate : Separate blocks)
    (bounded : ∀ block ∈ blocks, 0 < block.first ∧ block.last < handleModulus)
    (needed : 0 < size) (found : firstFit size blocks = some (range, rest)) :
    range.last + 1 = range.first + size ∧ Separate rest ∧
      (∀ handle, Covers blocks handle ↔
        range.Holds handle ∨ Covers rest handle) ∧
      ∀ handle, ¬ (range.Holds handle ∧ Covers rest handle) := by
  induction blocks generalizing rest with
  | nil => cases found
  | cons block blocks induction =>
    obtain ⟨proper, gap, later⟩ := separate_cons.mp separate
    obtain ⟨positive, small⟩ := bounded block (by simp)
    have behind : ∀ handle, Covers blocks handle → block.last < handle := by
      rintro handle ⟨other, member, inside⟩
      have apart := gap other member
      have lower : other.first ≤ handle := inside.1
      omega
    have blockSize : (block.last + handleModulus - block.first + 1) %
        handleModulus = block.last - block.first + 1 := by
      unfold handleModulus at small ⊢
      omega
    unfold firstFit at found
    dsimp only at found
    split at found
    next larger =>
      have firstEq : (block.first + size) % handleModulus =
          block.first + size := by
        unfold handleModulus at small ⊢
        omega
      have lastEq : (block.first + size - 1) % handleModulus =
          block.first + size - 1 := by
        unfold handleModulus at small ⊢
        omega
      cases found
      refine ⟨by dsimp only; omega, ?_, ?_, ?_⟩
      · exact separate_cons.mpr ⟨by dsimp only; omega, gap, later⟩
      · intro handle
        simp only [covers_cons, Interval.Holds]
        rw [← or_assoc]
        exact or_congr (by omega) Iff.rfl
      · rintro handle ⟨inside, covered⟩
        simp only [covers_cons, Interval.Holds] at inside covered
        rcases covered with same | other
        · omega
        · have := behind handle other
          omega
    split at found
    next exactSize =>
      have lastEq : (block.first + size - 1) % handleModulus =
          block.last := by
        unfold handleModulus at small ⊢
        omega
      rw [lastEq] at found
      cases found
      refine ⟨by dsimp only; omega, later, fun handle => covers_cons, ?_⟩
      rintro handle ⟨inside, covered⟩
      have upper : handle ≤ block.last := inside.2
      have := behind handle covered
      omega
    · rw [Option.map_eq_some_iff] at found
      obtain ⟨⟨inner, others⟩, located, same⟩ := found
      cases same
      obtain ⟨sized, ordered, divided, apart⟩ := induction later
        (fun other member => bounded other (.tail _ member)) located
      refine ⟨sized, ?_, ?_, ?_⟩
      · refine separate_cons.mpr ⟨proper, ?_, ordered⟩
        intro other member
        apply behind
        exact (divided _).mpr (.inr ⟨other, member, le_rfl,
          ordered.proper other member⟩)
      · intro handle
        rw [covers_cons, covers_cons, divided handle, or_left_comm]
      · rintro handle ⟨inside, covered⟩
        rcases covers_cons.mp covered with first | second
        · have := behind handle ((divided handle).mpr (.inl inside))
          have upper : handle ≤ block.last := first.2
          omega
        · exact apart handle ⟨inside, second⟩

section Release

variable {blocks before after : List Interval} {range : Interval}

theorem mergeLeft_spec (separate : Separate (before ++ range :: after)) :
    Separate ((mergeLeft before range).1 ++
        (mergeLeft before range).2 :: after) ∧
      ∀ handle, Covers (mergeLeft before range).1 handle ∨
        (mergeLeft before range).2.Holds handle ↔
          Covers before handle ∨ range.Holds handle := by
  unfold mergeLeft
  rcases eq_nil_or_concat before with rfl | ⟨others, left, rfl⟩
  · exact ⟨separate, fun _ => Iff.rfl⟩
  · rw [concat_eq_append] at separate ⊢
    rw [getLast?_concat]
    dsimp only
    split
    next touch =>
      rw [append_assoc] at separate
      rw [dropLast_concat]
      refine ⟨separate.join, fun handle => ?_⟩
      have leftProper := separate.proper left (by simp)
      have proper := separate.proper range (by simp)
      rw [holds_join touch leftProper proper, covers_append, covers_cons]
      simp only [covers_nil, or_false, or_assoc]
    · exact ⟨separate, fun _ => Iff.rfl⟩

theorem handleRelease_spec (separate : Separate blocks)
    (proper : range.first ≤ range.last)
    (apart : ∀ handle, ¬ (range.Holds handle ∧ Covers blocks handle)) :
    Separate (handleRelease range blocks) ∧
      ∀ handle, Covers (handleRelease range blocks) handle ↔
        Covers blocks handle ∨ range.Holds handle := by
  have placed := separate.insert proper apart
  have whole := takeWhile_append_dropWhile
    (p := fun block : Interval => decide (block.first < range.first))
    (l := blocks)
  unfold handleRelease
  rw [if_pos proper]
  generalize blocks.takeWhile (fun block => block.first < range.first) =
    before at placed whole ⊢
  generalize blocks.dropWhile (fun block => block.first < range.first) =
    after at placed whole ⊢
  cases after with
  | nil =>
    rw [append_nil] at whole
    rw [← whole]
    exact ⟨placed, fun handle => by simp⟩
  | cons right after =>
    obtain ⟨ordered, merged⟩ := mergeLeft_spec placed
    rw [← whole]
    dsimp only
    split
    next touch =>
      refine ⟨ordered.join, fun handle => ?_⟩
      have leftProper := ordered.proper (mergeLeft before range).2 (by simp)
      have rightProper := ordered.proper right (by simp)
      rw [covers_append, covers_cons, holds_join touch leftProper rightProper,
        covers_append, covers_cons, or_assoc, ← or_assoc, merged handle]
      simp only [or_assoc, or_left_comm, or_comm]
    · refine ⟨ordered, fun handle => ?_⟩
      rw [covers_append, covers_cons, ← or_assoc, merged handle,
        covers_append, or_right_comm]

theorem releaseAll_spec {ranges : List Interval} (separate : Separate blocks)
    (proper : ∀ range ∈ ranges, range.first ≤ range.last)
    (disjoint : ranges.Pairwise fun left right =>
      ∀ handle, ¬ (left.Holds handle ∧ right.Holds handle))
    (apart : ∀ handle, ¬ (Covers ranges handle ∧ Covers blocks handle)) :
    Separate (ranges.foldl (fun rest range => handleRelease range rest)
        blocks) ∧
      ∀ handle, Covers (ranges.foldl
          (fun rest range => handleRelease range rest) blocks) handle ↔
        Covers blocks handle ∨ Covers ranges handle := by
  induction ranges generalizing blocks with
  | nil => exact ⟨separate, fun handle => by simp⟩
  | cons range ranges induction =>
    rw [pairwise_cons] at disjoint
    obtain ⟨first, covers⟩ := handleRelease_spec separate
      (proper range (by simp)) fun handle both =>
        apart handle ⟨covers_cons.mpr (.inl both.1), both.2⟩
    obtain ⟨all, coversAll⟩ := induction first
      (fun other member => proper other (.tail _ member))
      disjoint.2 (by
        rintro handle ⟨other, covered⟩
        rcases (covers handle).mp covered with old | new
        · exact apart handle ⟨covers_cons.mpr (.inr other), old⟩
        · obtain ⟨later, member, inside⟩ := other
          exact disjoint.1 later member handle ⟨new, inside⟩)
    refine ⟨all, fun handle => ?_⟩
    rw [foldl_cons, coversAll handle, covers handle, covers_cons, or_assoc]

end Release

def Service.itemHandles (service : Service) : List Nat :=
  service.properties.map Property.handle ++ service.methods.map Method.handle

theorem generateHandles_spec {Item : Type} {place : Item → Nat → Item}
    {view : Item → Nat} (viewed : ∀ item handle, view (place item handle) =
      handle) {items : List Item} {next : Nat}
    (room : next + items.length ≤ handleModulus) :
    (generateHandles place items next).1.map view =
        List.range' next items.length ∧
      (next + items.length < handleModulus →
        (generateHandles place items next).2 = next + items.length) := by
  induction items generalizing next with
  | nil => exact ⟨rfl, fun _ => rfl⟩
  | cons item items induction =>
    rw [length_cons] at room
    unfold generateHandles
    dsimp only
    rw [map_cons, viewed, length_cons, range'_succ]
    cases items with
    | nil =>
      refine ⟨rfl, fun more => ?_⟩
      exact Nat.mod_eq_of_lt more
    | cons other items =>
      have stays : (next + 1) % handleModulus = next + 1 := by
        rw [length_cons] at room
        exact Nat.mod_eq_of_lt (by omega)
      rw [stays]
      obtain ⟨handles, last⟩ := @induction (next + 1) (by omega)
      refine ⟨congrArg _ handles, fun more => ?_⟩
      omega

theorem itemHandles_placed {service : Service} (sized : range.last + 1 =
      range.first + (1 + service.properties.length + service.methods.length))
    (small : range.last < handleModulus) :
    (service.placed range).itemHandles = List.range' (range.first + 1)
      (service.properties.length + service.methods.length) := by
  have properties := @generateHandles_spec Property
    (fun property handle => { property with handle }) Property.handle
    (fun _ _ => rfl) service.properties (range.first + 1) (by omega)
  unfold Service.itemHandles Service.placed
  dsimp only
  by_cases none : service.properties.length + service.methods.length = 0
  · have noProperties := length_eq_zero_iff.mp
      (show service.properties.length = 0 by omega)
    have noMethods := length_eq_zero_iff.mp
      (show service.methods.length = 0 by omega)
    rw [noProperties, noMethods]
    rfl
  have start : (range.first + 1) % handleModulus = range.first + 1 :=
    Nat.mod_eq_of_lt (by omega)
  rw [start]
  unfold generateHandleForProperties
  rw [properties.1]
  cases listed : service.methods with
  | nil => exact append_nil _
  | cons method methods =>
    rw [listed, length_cons] at sized
    rw [properties.2 (by omega)]
    have numbered := @generateHandles_spec Method
      (fun method handle => { method with handle }) Method.handle
      (fun _ _ => rfl) (method :: methods)
      (range.first + 1 + service.properties.length)
      (by rw [length_cons]; omega)
    unfold generateHandleForMethod
    rw [numbered.1, range'_append_1]

def Registered.Holds (registered : Registered) (handle : Nat) : Prop :=
  registered.service.range.Holds handle

instance (registered : Registered) (handle : Nat) :
    Decidable (registered.Holds handle) :=
  inferInstanceAs (Decidable (registered.service.range.Holds handle))

def Registered.Apart (left right : Registered) : Prop :=
  ∀ handle, ¬ (left.Holds handle ∧ right.Holds handle)

instance : Std.Symm Registered.Apart :=
  ⟨fun _ _ apart handle both => apart handle ⟨both.2, both.1⟩⟩

def Service.handles (service : Service) : List Nat :=
  service.handle :: service.itemHandles

namespace Registry

/-- The ranges of the services do not meet and are in order, items lie in
them, no handle is used twice, and the blocks hold the other handles. -/
structure WellFormed (registry : Registry) : Prop where
  disjoint : registry.services.Pairwise Registered.Apart
  sorted : registry.services.Pairwise handleLe
  inside : ∀ registered ∈ registry.services,
    ∀ handle ∈ registered.service.itemHandles, registered.Holds handle
  unique : (registry.services.flatMap fun registered =>
    registered.service.handles).Nodup
  free : ∀ handle, handleMin ≤ handle → handle ≤ handleMax →
    (Covers registry.blocks handle ↔
      ¬ ∃ registered ∈ registry.services, registered.Holds handle)

/-- A call that removes services of one application leaves those of the
others. -/
def Spares (registry : Registry) (event : RegistryEvent) : Prop :=
  match event with
  | .removeAppService appId _ | .cleanAppService appId
  | .deregisterApplication appId =>
    ∀ registered ∈ registry.services, registered.appId ≠ appId →
      registered ∈ (registry.next event).services
  | _ => True

/-- The items of a new service are not more than there are handles, a cached
service gets no handles, and a service that an application has is not removed
behind its back. -/
def Sound (registry : Registry) : RegistryEvent → Prop
  | .addService _ service =>
    service.properties.length + service.methods.length < handleModulus
  | .startService =>
    ∀ service, registry.tempService = some service →
      registry.findAvaliableHandle service.handleNum = none
  | .removeService range =>
    ∀ registered ∈ registry.services, range.Holds registered.service.handle →
      ∀ appId vector, registry.serviceVector appId = some vector →
        registered.service.range ∉ vector
  | _ => True

structure Divided (services : List Registered) (blocks : List Interval) :
    Prop where
  disjoint : services.Pairwise Registered.Apart
  sorted : services.Pairwise handleLe
  distinct : ∀ registered ∈ services, registered.service.handles.Nodup
  inside : ∀ registered ∈ services,
    ∀ handle ∈ registered.service.handles, registered.Holds handle
  separate : Separate blocks
  parts : ∀ handle, (Covers blocks handle ∨
      ∃ registered ∈ services, registered.Holds handle) ↔
    handleMin ≤ handle ∧ handle ≤ handleMax
  apart : ∀ handle, ¬ (Covers blocks handle ∧
    ∃ registered ∈ services, registered.Holds handle)

def Listed (services : List Registered)
    (serviceVector : Nat → Option (List Interval)) : Prop :=
  ∀ appId vector, serviceVector appId = some vector → vector.Nodup ∧
    ∀ range ∈ vector, ∃ registered ∈ services,
      registered.appId = appId ∧ registered.service.range = range

structure Kept (registry : Registry) : Prop where
  divided : Divided registry.services registry.blocks
  listed : Listed registry.services registry.serviceVector

section Divided

variable {services : List Registered} {blocks : List Interval}
  {range : Interval}

theorem Divided.begins (divided : Divided services blocks)
    {registered : Registered} (member : registered ∈ services) :
    registered.Holds registered.service.handle :=
  divided.inside registered member _ mem_cons_self

theorem Divided.owner (divided : Divided services blocks)
    {left right : Registered} (leftMember : left ∈ services)
    (rightMember : right ∈ services) {handle : Nat}
    (leftHolds : left.Holds handle) (rightHolds : right.Holds handle) :
    left = right := by
  by_contra differ
  exact divided.disjoint.forall leftMember rightMember differ handle
    ⟨leftHolds, rightHolds⟩

theorem Divided.wellFormed {registry : Registry}
    (divided : Divided registry.services registry.blocks) :
    registry.WellFormed := { divided with
  inside registered member handle item :=
    divided.inside registered member handle (.tail _ item)
  unique := by
    rw [nodup_flatMap]
    refine ⟨divided.distinct, ?_⟩
    refine divided.disjoint.imp_of_mem ?_
    intro left right leftMember rightMember apart
    apply disjoint_left.mpr
    intro handle first second
    exact apart handle ⟨divided.inside left leftMember handle first,
      divided.inside right rightMember handle second⟩
  free handle lower upper := by
    have parts := (divided.parts handle).mpr ⟨lower, upper⟩
    exact ⟨fun covered held => divided.apart handle ⟨covered, held⟩,
      parts.resolve_right⟩ }

theorem removeLoop_eq (range : Interval) (services : List Registered)
    (blocks : List Interval) :
    removeLoop range services blocks = (services.filter fun registered =>
          !decide (range.Holds registered.service.handle),
        ((services.filter fun registered =>
          decide (range.Holds registered.service.handle)).map fun registered =>
            registered.service.range).foldl
              (fun rest range => handleRelease range rest) blocks) := by
  induction services generalizing blocks with
  | nil => rfl
  | cons registered services induction =>
    unfold removeLoop
    split
    case isTrue removed =>
      rw [induction]
      simp [removed]
    case isFalse removed =>
      rw [induction]
      simp [removed]

theorem Divided.remove (divided : Divided services blocks) (range : Interval) :
    Divided (removeLoop range services blocks).1
      (removeLoop range services blocks).2 := by
  rw [removeLoop_eq]
  have released := @releaseAll_spec blocks ((services.filter fun registered =>
      decide (range.Holds registered.service.handle)).map
        fun registered => registered.service.range) divided.separate
    (by
      refine forall_mem_map.mpr fun registered found => ?_
      have holds := divided.begins (mem_of_mem_filter found)
      exact Nat.le_trans holds.1 holds.2)
    (by
      rw [pairwise_map]
      exact divided.disjoint.filter _)
    (by
      rintro handle ⟨⟨other, member, inside⟩, covered⟩
      obtain ⟨registered, found, rfl⟩ := mem_map.mp member
      exact divided.apart handle
        ⟨covered, registered, mem_of_mem_filter found, inside⟩)
  obtain ⟨separate, covers⟩ := released
  have covered : ∀ handle, Covers ((services.filter fun registered =>
      decide (range.Holds registered.service.handle)).map
        fun registered => registered.service.range) handle ↔
      ∃ registered ∈ services, range.Holds registered.service.handle ∧
        registered.Holds handle := by
    intro handle
    simp [Covers, Registered.Holds, and_assoc]
  refine ⟨divided.disjoint.filter _, divided.sorted.filter _,
    fun registered member =>
      divided.distinct registered (mem_of_mem_filter member),
    fun registered member =>
      divided.inside registered (mem_of_mem_filter member),
    separate, ?_, ?_⟩
  · intro handle
    rw [← divided.parts handle, covers handle, covered handle]
    constructor
    · rintro ((free | ⟨registered, member, _, inside⟩) |
        ⟨registered, member, inside⟩)
      · exact .inl free
      · exact .inr ⟨registered, member, inside⟩
      · exact .inr ⟨registered, mem_of_mem_filter member, inside⟩
    · rintro (free | ⟨registered, member, inside⟩)
      · exact .inl (.inl free)
      · by_cases removed : range.Holds registered.service.handle
        · exact .inl (.inr ⟨registered, member, removed, inside⟩)
        · refine .inr ⟨registered, mem_filter.mpr ⟨member, ?_⟩, inside⟩
          simpa using removed
  · rintro handle ⟨free, kept, keptMember, keptHolds⟩
    rw [covers handle, covered handle] at free
    have keptBefore := mem_of_mem_filter keptMember
    rcases free with old | ⟨registered, member, removed, inside⟩
    · exact divided.apart handle ⟨old, kept, keptBefore, keptHolds⟩
    · obtain rfl := divided.owner member keptBefore inside keptHolds
      have stays := of_mem_filter keptMember
      simp [removed] at stays

theorem blocks_inside {held : Nat → Prop} (separate : Separate blocks)
    (parts : ∀ handle, Covers blocks handle ∨ held handle ↔
      handleMin ≤ handle ∧ handle ≤ handleMax) :
    ∀ block ∈ blocks, handleMin ≤ block.first ∧ block.last ≤ handleMax := by
  intro block member
  have proper := separate.proper block member
  exact ⟨((parts _).mp (.inl ⟨block, member, le_rfl, proper⟩)).1,
    ((parts _).mp (.inl ⟨block, member, proper, le_rfl⟩)).2⟩

theorem blocks_bounded (inside : ∀ block ∈ blocks,
      handleMin ≤ block.first ∧ block.last ≤ handleMax) :
    ∀ block ∈ blocks, 0 < block.first ∧ block.last < handleModulus := by
  unfold handleMin handleMax at inside
  unfold handleModulus
  intro block member
  have := inside block member
  omega

theorem handleAllocate_some {service : Service} {rest : List Interval}
    (sized : service.properties.length + service.methods.length < handleModulus)
    (found : handleAllocate service.handleNum blocks = some (range, rest)) :
    service.handleNum = 1 + service.properties.length + service.methods.length ∧
      firstFit service.handleNum blocks = some (range, rest) := by
  unfold handleAllocate at found
  split at found
  · cases found
  split at found
  · cases found
  next needed _ =>
    refine ⟨?_, found⟩
    unfold Service.handleNum handleModulus at *
    omega

theorem handles_placed {service : Service} (sized : range.last + 1 =
      range.first + (1 + service.properties.length + service.methods.length))
    (small : range.last < handleModulus) :
    (service.placed range).handles = List.range' range.first
      (service.properties.length + service.methods.length + 1) := by
  unfold Service.handles
  rw [itemHandles_placed sized small, range'_succ]
  rfl

theorem Divided.add (divided : Divided services blocks) {appId : Nat}
    {service : Service} {rest : List Interval}
    (sized : service.properties.length + service.methods.length < handleModulus)
    (found : handleAllocate service.handleNum blocks = some (range, rest)) :
    Divided ((services ++
        [Registered.mk (service.placed range) appId]).insertionSort handleLe)
      rest ∧ range.first ≤ range.last ∧ Covers blocks range.first := by
  obtain ⟨number, located⟩ := handleAllocate_some sized found
  obtain ⟨fits, separate, covers, apart⟩ := firstFit_spec divided.separate
    (blocks_bounded (blocks_inside divided.separate divided.parts)) (by omega)
    located
  rw [number] at fits
  have proper : range.first ≤ range.last := by omega
  have small : range.last < handleModulus := by
    have taken := (covers range.last).mpr (.inl ⟨proper, le_rfl⟩)
    have upper := ((divided.parts range.last).mp (.inl taken)).2
    unfold handleMax at upper
    unfold handleModulus
    omega
  obtain ⟨added, addedEq⟩ : ∃ added : Registered,
      added = ⟨service.placed range, appId⟩ := ⟨_, rfl⟩
  have holds : ∀ handle, added.Holds handle ↔ range.Holds handle := by
    rw [addedEq]
    exact fun _ => Iff.rfl
  have handles : added.service.handles = List.range' range.first
      (service.properties.length + service.methods.length + 1) := by
    rw [addedEq]
    exact handles_placed fits small
  rw [← addedEq]
  have shuffled := perm_insertionSort handleLe (services ++ [added])
  have members : ∀ registered,
      registered ∈ (services ++ [added]).insertionSort handleLe ↔
        registered ∈ services ∨ registered = added := by
    intro registered
    simp
  refine ⟨⟨?_, ?_, ?_, ?_, separate, ?_, ?_⟩, proper,
    (covers _).mpr (.inl ⟨le_rfl, proper⟩)⟩
  · rw [shuffled.pairwise_iff fun apart => Std.Symm.symm _ _ apart,
      pairwise_append]
    refine ⟨divided.disjoint, pairwise_singleton _ _, ?_⟩
    intro registered member other same handle both
    obtain rfl := mem_singleton.mp same
    have taken := (covers handle).mpr (.inl ((holds handle).mp both.2))
    exact divided.apart handle ⟨taken, registered, member, both.1⟩
  · exact pairwise_insertionSort handleLe _
  · intro registered member
    rcases (members registered).mp member with old | rfl
    · exact divided.distinct registered old
    · rw [handles]
      exact nodup_range'
  · intro registered member handle item
    rcases (members registered).mp member with old | rfl
    · exact divided.inside registered old handle item
    · rw [handles, mem_range'_1] at item
      rw [holds handle]
      exact ⟨item.1, by omega⟩
  · intro handle
    rw [← divided.parts handle, covers handle]
    constructor
    · rintro (free | ⟨registered, member, inside⟩)
      · exact .inl (.inr free)
      · rcases (members registered).mp member with old | rfl
        · exact .inr ⟨registered, old, inside⟩
        · exact .inl (.inl ((holds handle).mp inside))
    · rintro ((taken | free) | ⟨registered, member, inside⟩)
      · exact .inr ⟨added, (members added).mpr (.inr rfl),
          (holds handle).mpr taken⟩
      · exact .inl free
      · exact .inr ⟨registered, (members registered).mpr (.inl member), inside⟩
  · rintro handle ⟨free, registered, member, inside⟩
    rcases (members registered).mp member with old | rfl
    · exact divided.apart handle
        ⟨(covers handle).mpr (.inr free), registered, old, inside⟩
    · exact apart handle ⟨(holds handle).mp inside, free⟩

end Divided

variable {registry : Registry} {services : List Registered} {appId : Nat}

theorem Divided.mem_removeLoop {blocks : List Interval}
    (divided : Divided services blocks) {registered other : Registered}
    (member : registered ∈ services) :
    other ∈ (removeLoop registered.service.range services blocks).1 ↔
      other ∈ services ∧ other ≠ registered := by
  rw [removeLoop_eq, mem_filter]
  refine and_congr_right fun among => ?_
  rw [Bool.not_eq_true', decide_eq_false_iff_not, not_iff_not]
  constructor
  · exact fun inside =>
      divided.owner among member (divided.begins among) inside
  · rintro rfl
    exact divided.begins among

theorem Listed.update {others : List Registered}
    {serviceVector : Nat → Option (List Interval)}
    {changed : Option (List Interval)} (listed : Listed services serviceVector)
    (kept : ∀ registered ∈ services, registered.appId ≠ appId →
      registered ∈ others)
    (own : ∀ vector, changed = some vector → vector.Nodup ∧
      ∀ range ∈ vector, ∃ registered ∈ others,
        registered.appId = appId ∧ registered.service.range = range) :
    Listed others (Function.update serviceVector appId changed) := by
  intro other vector found
  by_cases same : other = appId
  · subst same
    rw [Function.update_self] at found
    exact own vector found
  · rw [Function.update_of_ne same] at found
    obtain ⟨distinct, owned⟩ := listed other vector found
    refine ⟨distinct, fun range member => ?_⟩
    obtain ⟨registered, among, owner, named⟩ := owned range member
    exact ⟨registered, kept registered among (owner ▸ same), owner, named⟩

theorem Kept.init : Kept init where
  divided := by
    refine ⟨.nil, .nil, by simp [Registry.init], by simp [Registry.init], ?_,
      ?_, by simp [Registry.init]⟩
    · exact separate_cons.mpr ⟨by decide, by simp, Separate.nil⟩
    · intro handle
      simp [Registry.init, Interval.Holds]
  listed := by
    intro appId vector found
    cases found

theorem Kept.addService (kept : registry.Kept) {service : Service}
    (sized : service.properties.length + service.methods.length <
      handleModulus) (appId : Nat) : (registry.addService appId service).Kept := by
  unfold Registry.addService
  cases found : handleAllocate service.handleNum registry.blocks with
  | none => exact kept
  | some pair =>
    obtain ⟨range, rest⟩ := pair
    dsimp only
    obtain ⟨divided, proper, taken⟩ :=
      @Divided.add _ _ _ kept.divided appId _ _ sized found
    have grown : ∀ registered ∈ registry.services, registered ∈
        (registry.services ++ [Registered.mk (service.placed range)
          appId]).insertionSort handleLe := by
      intro registered member
      rw [(perm_insertionSort handleLe _).mem_iff]
      exact mem_append_left _ member
    unfold startServiceCallBack
    cases used : registry.serviceVector appId with
    | none =>
      refine ⟨divided, ?_⟩
      intro other vector located
      obtain ⟨distinct, owned⟩ := kept.listed other vector located
      refine ⟨distinct, fun entry member => ?_⟩
      obtain ⟨registered, among, facts⟩ := owned entry member
      exact ⟨registered, grown registered among, facts⟩
    | some vector =>
      refine ⟨divided, kept.listed.update
        (fun registered member _ => grown registered member) ?_⟩
      rintro _ ⟨⟩
      obtain ⟨distinct, owned⟩ := kept.listed appId vector used
      refine ⟨nodup_append.mpr ⟨distinct, nodup_singleton _, ?_⟩, ?_⟩
      · rintro entry member _ new rfl
        obtain rfl := mem_singleton.mp new
        obtain ⟨registered, among, _, named⟩ := owned _ member
        refine kept.divided.apart range.first ⟨taken, registered, among, ?_⟩
        unfold Registered.Holds
        rw [named]
        exact ⟨le_rfl, proper⟩
      · intro entry member
        rcases mem_append.mp member with old | new
        · obtain ⟨registered, among, facts⟩ := owned entry old
          exact ⟨registered, grown registered among, facts⟩
        · obtain rfl := mem_singleton.mp new
          refine ⟨.mk (service.placed range) appId, ?_, rfl, rfl⟩
          rw [(perm_insertionSort handleLe _).mem_iff]
          exact mem_append_right _ mem_cons_self

theorem Kept.removeService (kept : registry.Kept) {range : Interval}
    (unlisted : ∀ registered ∈ registry.services,
      range.Holds registered.service.handle →
      ∀ appId vector, registry.serviceVector appId = some vector →
        registered.service.range ∉ vector) :
    (registry.removeService range).Kept := by
  refine ⟨kept.divided.remove range, ?_⟩
  intro appId vector found
  obtain ⟨distinct, owned⟩ := kept.listed appId vector found
  refine ⟨distinct, fun entry member => ?_⟩
  obtain ⟨registered, among, owner, named⟩ := owned entry member
  refine ⟨registered, ?_, owner, named⟩
  change registered ∈ (removeLoop range registry.services registry.blocks).1
  rw [removeLoop_eq, mem_filter, Bool.not_eq_true', decide_eq_false_iff_not]
  refine ⟨among, fun removed => ?_⟩
  exact unlisted registered among removed appId vector found (named ▸ member)

theorem not_mem_eraseP {Record : Type} {wanted : Record → Bool}
    {records : List Record} {record : Record} (distinct : records.Nodup)
    (found : records.find? wanted = some record) :
    record ∉ records.eraseP wanted := by
  induction records with
  | nil => cases found
  | cons head records induction =>
    rw [nodup_cons] at distinct
    by_cases first : wanted head
    · rw [find?_cons_of_pos first] at found
      obtain rfl := Option.some.inj found
      rw [eraseP_cons_of_pos first]
      exact distinct.1
    · have accepted := find?_some found
      rw [find?_cons_of_neg first] at found
      rw [eraseP_cons_of_neg first, mem_cons]
      rintro (rfl | later)
      · exact first accepted
      · exact induction distinct.2 found later

theorem Kept.removeAppService (kept : registry.Kept) (appId handle : Nat) :
    (registry.removeAppService appId handle).Kept ∧
      ∀ registered ∈ registry.services, registered.appId ≠ appId →
        registered ∈ (registry.removeAppService appId handle).services := by
  unfold Registry.removeAppService
  cases used : registry.serviceVector appId with
  | none => exact ⟨kept, fun _ member _ => member⟩
  | some vector =>
    dsimp only
    cases found : vector.find? fun range => range.Holds handle with
    | none => exact ⟨kept, fun _ member _ => member⟩
    | some range =>
      obtain ⟨distinct, owned⟩ := kept.listed appId vector used
      obtain ⟨registered, member, owner, rfl⟩ :=
        owned range (mem_of_find?_eq_some found)
      have stays : ∀ other, other ∈
          (registry.removeService registered.service.range).services ↔
            other ∈ registry.services ∧ other ≠ registered :=
        fun other => kept.divided.mem_removeLoop member
      have spared : ∀ other ∈ registry.services, other.appId ≠ appId → other ∈
            (registry.removeService registered.service.range).services := by
        intro other among foreign
        refine (stays other).mpr ⟨among, ?_⟩
        rintro rfl
        exact foreign owner
      refine ⟨⟨kept.divided.remove _, kept.listed.update spared ?_⟩, spared⟩
      rintro _ ⟨⟩
      refine ⟨distinct.sublist eraseP_sublist, ?_⟩
      intro entry remains
      obtain ⟨other, among, otherOwner, rfl⟩ :=
        owned entry (mem_of_mem_eraseP remains)
      refine ⟨other, (stays other).mpr ⟨among, ?_⟩, otherOwner, rfl⟩
      rintro rfl
      exact absurd remains (not_mem_eraseP distinct found)

theorem Divided.cleanLoop {vector : List Interval}
    (divided : Divided registry.services registry.blocks)
    (distinct : vector.Nodup)
    (owned : ∀ range ∈ vector, ∃ registered ∈ registry.services,
      registered.appId = appId ∧ registered.service.range = range) :
    Divided (registry.cleanLoop vector).services
        (registry.cleanLoop vector).blocks ∧
      ∀ registered ∈ registry.services, registered.appId ≠ appId →
        registered ∈ (registry.cleanLoop vector).services := by
  induction vector generalizing registry with
  | nil => exact ⟨divided, fun _ member _ => member⟩
  | cons range vector induction =>
    rw [nodup_cons] at distinct
    obtain ⟨registered, member, owner, rfl⟩ := owned range (by simp)
    have stays : ∀ other, other ∈
        (registry.removeService registered.service.range).services ↔
          other ∈ registry.services ∧ other ≠ registered :=
      fun other => divided.mem_removeLoop member
    have rest : Divided
        (registry.removeService registered.service.range).services
        (registry.removeService registered.service.range).blocks :=
      divided.remove _
    obtain ⟨cleaned, spared⟩ := induction rest distinct.2 (by
      intro entry later
      obtain ⟨other, among, otherOwner, rfl⟩ :=
        owned entry (.tail _ later)
      refine ⟨other, (stays other).mpr ⟨among, ?_⟩, otherOwner, rfl⟩
      rintro rfl
      exact distinct.1 later)
    refine ⟨cleaned, fun other among foreign => ?_⟩
    refine spared other ((stays other).mpr ⟨among, ?_⟩) foreign
    rintro rfl
    exact foreign owner

section

variable (kept : registry.Kept)
include kept

theorem Kept.cleanAppService (appId : Nat) :
    (registry.cleanAppService appId).Kept ∧
      ∀ registered ∈ registry.services, registered.appId ≠ appId →
        registered ∈ (registry.cleanAppService appId).services := by
  unfold Registry.cleanAppService
  cases used : registry.serviceVector appId with
  | none => exact ⟨kept, fun _ member _ => member⟩
  | some vector =>
    obtain ⟨distinct, owned⟩ := kept.listed appId vector used
    obtain ⟨divided, spared⟩ := kept.divided.cleanLoop distinct owned
    refine ⟨⟨divided, kept.listed.update spared ?_⟩, spared⟩
    rintro _ ⟨⟩
    exact ⟨nodup_nil, by simp⟩

theorem Kept.deregisterApplication (appId : Nat) :
    (registry.deregisterApplication appId).Kept ∧
      ∀ registered ∈ registry.services, registered.appId ≠ appId →
        registered ∈ (registry.deregisterApplication appId).services := by
  obtain ⟨cleaned, spared⟩ := kept.cleanAppService appId
  refine ⟨⟨cleaned.divided, kept.listed.update spared ?_⟩, spared⟩
  intro vector none
  cases none

theorem Kept.regApp : registry.regApp.Kept := by
  unfold Registry.regApp
  split
  · exact kept
  · refine ⟨kept.divided, kept.listed.update (fun _ member _ => member) ?_⟩
    rintro _ ⟨⟩
    exact ⟨nodup_nil, by simp⟩

theorem Kept.startService
    (fails : ∀ service, registry.tempService = some service →
      registry.findAvaliableHandle service.handleNum = none) :
    registry.startService.Kept := by
  unfold Registry.startService
  cases cached : registry.tempService with
  | none => exact kept
  | some service =>
    dsimp only
    rw [fails service cached]
    exact ⟨kept.divided, kept.listed⟩

end

theorem Kept.next (event : RegistryEvent) (kept : registry.Kept)
    (sound : registry.Sound event) : (registry.next event).Kept := by
  cases event with
  | regApp => exact kept.regApp
  | deregisterApplication appId => exact (kept.deregisterApplication appId).1
  | addService appId service => exact kept.addService sound appId
  | startService => exact kept.startService sound
  | removeService range => exact kept.removeService sound
  | removeAppService appId handle => exact (kept.removeAppService appId handle).1
  | cleanAppService appId => exact (kept.cleanAppService appId).1
  | _ => exact ⟨kept.divided, kept.listed⟩

theorem Kept.spares (event : RegistryEvent) (kept : registry.Kept) :
    registry.Spares event := by
  cases event with
  | deregisterApplication appId => exact (kept.deregisterApplication appId).2
  | removeAppService appId handle => exact (kept.removeAppService appId handle).2
  | cleanAppService appId => exact (kept.cleanAppService appId).2
  | _ => trivial

/-- As long as no cached service gets handles, no service has more items than
there are handles and the services of applications are removed by them, the
table is well formed and applications do not lose services to others. -/
theorem wellFormed_of_sound (events : List RegistryEvent)
    (sound : Meets Registry.next Sound init events) :
    Always Registry.next WellFormed init events ∧
      Meets Registry.next Spares init events := by
  constructor
  · exact always_of_meets (fun state kept => kept.divided.wellFormed)
      (fun state event kept => kept.next event) Kept.init sound
  · exact .imp (fun state event kept => kept.next event)
      (fun state event kept _ => kept.spares event) Kept.init sound

def sampleService : Service where
  handle := 0
  endHandle := 0
  uuid := []
  serviceType := 0
  properties := [⟨0, [], 0, 0, [], []⟩]
  methods := [⟨0, [], 0⟩]

/-- Two applications register services, and one removes its first one. -/
theorem wellFormed_applications :
    Always Registry.next WellFormed init
        [.regApp, .regApp, .addService 0 sampleService,
          .addService 1 sampleService, .removeAppService 0 17,
          .addService 1 sampleService] ∧
      Meets Registry.next Spares init
        [.regApp, .regApp, .addService 0 sampleService,
          .addService 1 sampleService, .removeAppService 0 17,
          .addService 1 sampleService] := by
  apply wellFormed_of_sound
  have sized : sampleService.properties.length +
      sampleService.methods.length < handleModulus := by decide
  exact ⟨trivial, trivial, sized, sized, trivial, sized, trivial⟩

/-- A cached service gets handles that the allocator then hands out again. -/
theorem wellFormed_fails :
    ¬ ∀ events : List RegistryEvent,
      Always Registry.next WellFormed init events ∧
        Meets Registry.next Spares init events := by
  intro always
  obtain ⟨⟨_, _, _, formed⟩, _⟩ :=
    always [.cacheService 0 [], .startService, .addService 0 sampleService]
  have apart := formed.disjoint
  obtain ⟨first, _⟩ := pairwise_cons.mp apart
  exact first ⟨sampleService.placed ⟨16, 18⟩, 0⟩ (by decide) 16
    ⟨by decide, by decide⟩

def WellFormed.table (formed : registry.WellFormed) : Table where
  services := registry.services.map Registered.service
  unique := by
    refine List.Nodup.sublist ?_ formed.unique
    generalize registry.services = services
    induction services with
    | nil => exact List.Sublist.refl _
    | cons registered services induction =>
      rw [map_cons]
      simp only [allProperties, flatMap_cons, map_append]
      refine List.Sublist.append ?_ induction
      exact (sublist_append_left _ _).trans (sublist_cons_self _ _)

end Registry

end NearLink.Ssap
