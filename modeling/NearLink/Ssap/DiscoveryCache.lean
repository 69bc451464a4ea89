import NearLink.Ssap.Discovery

/-!
# What a discovery does to its cache

While members are looked for, the services in the cache stay the same ones:
they only gain members, and are only marked as done.
-/

namespace NearLink.Ssap

open Sdf Option CacheServ

namespace CacheServ

def Closed (serv : CacheServ) (kind : MemberType) : Prop :=
  serv.findFinish kind = true ∨ serv.hasMember kind = false

structure Later (serv later : CacheServ) : Prop where
  info : later.info = serv.info
  closed : ∀ kind, serv.Closed kind → later.Closed kind
  grown : ∀ kind, serv.maxHandle kind ≤ later.maxHandle kind

theorem Later.refl (serv : CacheServ) : Later serv serv where
  info := rfl
  closed := fun _ closed => closed
  grown := fun _ => UInt16.le_refl _

theorem Later.trans {first second third : CacheServ}
    (early : Later first second) (late : Later second third) :
    Later first third where
  info := late.info.trans early.info
  closed := fun kind closed => late.closed kind (early.closed kind closed)
  grown := fun kind =>
    UInt16.le_trans (early.grown kind) (late.grown kind)

@[simp] theorem setFindFinish_info (kind : MemberType) (serv : CacheServ) :
    (serv.setFindFinish kind).info = serv.info := by
  cases kind <;> rfl

section

variable (kind other : MemberType) (serv : CacheServ)

@[simp] theorem setFindFinish_members :
    (serv.setFindFinish kind).members other = serv.members other := by
  cases kind <;> cases other <;> rfl

@[simp] theorem setFindFinish_maxHandle :
    (serv.setFindFinish kind).maxHandle other = serv.maxHandle other := by
  simp [maxHandle]

@[simp] theorem findFinish_setFindFinish :
    (serv.setFindFinish kind).findFinish other =
      (decide (kind = other) || serv.findFinish other) := by
  cases kind <;> cases other <;> rfl

@[simp] theorem setFindFinish_hasMember :
    (serv.setFindFinish kind).hasMember other = serv.hasMember other := by
  simp [hasMember]

end

variable (kind : MemberType)

theorem closed_setFindFinish (serv : CacheServ) :
    (serv.setFindFinish kind).Closed kind := by
  left
  simp

theorem later_setFindFinish (serv : CacheServ) :
    Later serv (serv.setFindFinish kind) where
  info := setFindFinish_info kind serv
  closed := by
    intro other closed
    rcases closed with finished | absent
    · left
      simp [finished]
    · right
      simpa using absent
  grown := by
    intro other
    rw [setFindFinish_maxHandle]
    exact UInt16.le_refl _

@[simp] theorem addMember_info (member : FoundMember) (serv : CacheServ)
    : (serv.addMember kind member).info = serv.info := by
  cases kind <;> rfl

section

variable (kind other : MemberType) (member : FoundMember) (serv : CacheServ)

theorem addMember_findFinish :
    (serv.addMember kind member).findFinish other = serv.findFinish other := by
  cases kind <;> cases other <;> rfl

theorem addMember_members :
    (serv.addMember kind member).members other =
      if kind = other then serv.members other ++ [member]
      else serv.members other := by
  cases kind <;> cases other <;> rfl

end

section

variable (kind : MemberType) (member : FoundMember) (serv : CacheServ)

theorem addMember_maxHandle :
    (serv.addMember kind member).maxHandle kind =
      if member.handle > serv.maxHandle kind then member.handle
      else serv.maxHandle kind := by
  simp [maxHandle, addMember_members, getMaxMemberHandle, List.foldl_append]

theorem later_addMember : Later serv (serv.addMember kind member) where
  info := addMember_info kind member serv
  closed := by
    intro other closed
    rcases closed with finished | absent
    · left
      rw [addMember_findFinish]
      exact finished
    · right
      rw [hasMember, addMember_info]
      exact absent
  grown := by
    intro other
    by_cases same : kind = other
    · subst same
      rw [addMember_maxHandle]
      split
      · next above => exact UInt16.le_of_lt above
      · exact UInt16.le_refl _
    · simp [maxHandle, addMember_members, same]

theorem le_addMember_maxHandle :
    member.handle ≤ (serv.addMember kind member).maxHandle kind := by
  rw [addMember_maxHandle]
  split
  · exact UInt16.le_refl _
  · next above => exact UInt16.not_lt.mp above

end

structure Open (serv : CacheServ) (kind : MemberType)
    (startHandle : UInt16) : Prop where
  open_ : ¬ serv.Closed kind
  start : startHandle = serv.maxHandle kind + 1
  below : serv.maxHandle kind < serv.info.endHandle

variable {serv : CacheServ} {kind : MemberType} {startHandle : UInt16}

theorem getNextFind_some {later : CacheServ}
    (next : serv.getNextFind kind = (some startHandle, later)) :
    later = serv ∧ serv.Open kind startHandle := by
  unfold getNextFind at next
  split at next
  · next looking =>
      split at next
      · next below =>
          cases next
          refine ⟨rfl, ?_, rfl, below⟩
          intro closed
          rcases closed with finished | absent
          · simp [finished] at looking
          · simp [absent] at looking
      · cases next
  · cases next

theorem getNextFind_none {later : CacheServ}
    (next : serv.getNextFind kind = (none, later)) :
    Later serv later ∧ later.Closed kind := by
  unfold getNextFind at next
  split at next
  · split at next <;> cases next
    · exact ⟨later_setFindFinish kind serv, closed_setFindFinish kind serv⟩
  · next done =>
      cases next
      refine ⟨Later.refl serv, ?_⟩
      cases finished : serv.findFinish kind with
      | true => exact .inl finished
      | false =>
        right
        simpa [finished] using done

theorem getNextFindOfServ_some {later : CacheServ}
    (next : serv.getNextFindOfServ = (some (kind, startHandle), later)) :
    Later serv later ∧ later.Open kind startHandle ∧
      ∀ earlier : MemberType, earlier.findType < kind.findType →
        later.Closed earlier := by
  unfold getNextFindOfServ at next
  split at next
  · next properties =>
      cases next
      obtain ⟨rfl, opened⟩ := getNextFind_some properties
      refine ⟨Later.refl _, opened, ?_⟩
      intro earlier before
      cases earlier <;> exact absurd before (by decide)
  · next properties =>
      obtain ⟨kept, property⟩ := getNextFind_none properties
      split at next
      · next methods =>
          cases next
          obtain ⟨rfl, opened⟩ := getNextFind_some methods
          refine ⟨kept, opened, ?_⟩
          intro earlier before
          cases earlier with
          | property => exact property
          | _ => exact absurd before (by decide)
      · next methods =>
          obtain ⟨still, method⟩ := getNextFind_none methods
          split at next
          · next events =>
              cases next
              obtain ⟨rfl, opened⟩ := getNextFind_some events
              refine ⟨kept.trans still, opened, ?_⟩
              intro earlier before
              cases earlier with
              | property => exact still.closed _ property
              | method => exact method
              | event => exact absurd before (by decide)
          · cases next

theorem getNextFindOfServ_none {later : CacheServ}
    (next : serv.getNextFindOfServ = (none, later)) :
    Later serv later ∧ ∀ kind, later.Closed kind := by
  unfold getNextFindOfServ at next
  split at next
  · cases next
  · next properties =>
      obtain ⟨kept, property⟩ := getNextFind_none properties
      split at next
      · cases next
      · next methods =>
          obtain ⟨still, method⟩ := getNextFind_none methods
          split at next
          · cases next
          · next events =>
              cases next
              obtain ⟨last, event⟩ := getNextFind_none events
              refine ⟨(kept.trans still).trans last, ?_⟩
              intro kind
              cases kind with
              | property => exact last.closed _ (still.closed _ property)
              | method => exact last.closed _ method
              | event => exact event

end CacheServ

def servHandles (servs : List CacheServ) : List UInt16 :=
  servs.map fun serv => serv.info.handle

def ClosedAt (servs : List CacheServ) (service : Nat) (kind : MemberType) :
    Prop :=
  ∀ serv, servs[service]? = some serv → serv.Closed kind

structure Kept (servs later : List CacheServ) : Prop where
  size : later.length = servs.length
  kept : ∀ (service : Nat) (serv after : CacheServ),
    servs[service]? = some serv → later[service]? = some after →
      CacheServ.Later serv after

namespace Kept

theorem refl (servs : List CacheServ) : Kept servs servs where
  size := rfl
  kept := by
    intro service serv after found same
    rw [found] at same
    cases same
    exact CacheServ.Later.refl serv

variable {servs : List CacheServ} {service : Nat} {serv : CacheServ}

section

variable {later : List CacheServ} (kept : Kept servs later)
include kept

theorem before {after : CacheServ} (found : later[service]? = some after) :
    ∃ serv, servs[service]? = some serv ∧ CacheServ.Later serv after := by
  have inside : service < servs.length := by
    rw [← kept.size]
    exact (List.getElem?_eq_some_iff.mp found).1
  have here := List.getElem?_eq_getElem inside
  exact ⟨servs[service], here, kept.kept service _ after here found⟩

theorem after (found : servs[service]? = some serv) :
    ∃ after, later[service]? = some after ∧ CacheServ.Later serv after := by
  have inside : service < later.length := by
    rw [kept.size]
    exact (List.getElem?_eq_some_iff.mp found).1
  have here := List.getElem?_eq_getElem inside
  exact ⟨later[service], here, kept.kept service serv _ found here⟩

end

theorem trans {first second third : List CacheServ}
    (early : Kept first second) (late : Kept second third) :
    Kept first third where
  size := late.size.trans early.size
  kept := by
    intro service serv after found last
    obtain ⟨middle, here, later⟩ := early.after found
    exact later.trans (late.kept service middle after here last)

section

variable {later : List CacheServ} (kept : Kept servs later)
include kept

theorem closedAt {service : Nat} {kind : MemberType}
    (closed : ClosedAt servs service kind) : ClosedAt later service kind := by
  intro after found
  obtain ⟨serv, here, later⟩ := kept.before found
  exact later.closed kind (closed serv here)

theorem infos : later.map info = servs.map info := by
  apply List.ext_getElem?
  intro service
  simp only [List.getElem?_map]
  cases found : later[service]? with
  | none =>
    have outside := List.getElem?_eq_none_iff.mp found
    rw [kept.size] at outside
    rw [List.getElem?_eq_none outside]
  | some after =>
    obtain ⟨serv, here, later⟩ := kept.before found
    rw [here]
    simp [later.info]

theorem handles : servHandles later = servHandles servs := by
  have same := congrArg (List.map FoundServ.handle) kept.infos
  rw [List.map_map, List.map_map] at same
  exact same

theorem servOf (handle : UInt16) :
    servOf later handle = servOf servs handle := by
  have ofInfos : ∀ list : List CacheServ, Ssap.servOf list handle =
      (list.map info).findIdx? fun info =>
        info.handle < handle && handle ≤ info.endHandle := by
    intro list
    rw [List.findIdx?_map]
    rfl
  rw [ofInfos, ofInfos, kept.infos]

end

theorem cons {after : CacheServ} {later : List CacheServ}
    (first : CacheServ.Later serv after) (kept : Kept servs later) :
    Kept (serv :: servs) (after :: later) where
  size := by simp [kept.size]
  kept := by
    intro service early late found last
    cases service with
    | zero =>
      simp only [List.getElem?_cons_zero, some.injEq] at found last
      subst found last
      exact first
    | succ service => exact kept.kept service early late found last

theorem modify (servs : List CacheServ) (index : Nat)
    {change : CacheServ → CacheServ}
    (later : ∀ serv, CacheServ.Later serv (change serv)) :
    Kept servs (servs.modify index change) where
  size := List.length_modify ..
  kept := by
    intro service serv after found changed
    rw [List.getElem?_modify, found] at changed
    simp only [map_eq_map, map_some, some.injEq] at changed
    subst changed
    split
    · exact later serv
    · exact CacheServ.Later.refl serv

end Kept

section

variable (kind : MemberType) (servs : List CacheServ)

theorem kept_cacheCharacter (member : FoundMember)
    : Kept servs (cacheCharacter kind servs member) := by
  unfold cacheCharacter
  split
  · exact .refl servs
  · exact .modify servs _ (later_addMember kind member)

theorem kept_cacheCharacters (members : List FoundMember) :
    Kept servs (members.foldl (cacheCharacter kind) servs) := by
  induction members generalizing servs with
  | nil => exact .refl servs
  | cons member members induction =>
    exact (kept_cacheCharacter kind servs member).trans (induction _)

end

theorem kept_servMemberDiscFinish (kind : MemberType) (handle : UInt16)
    (servs : List CacheServ) :
    Kept servs (servMemberDiscFinish kind handle servs) := by
  unfold servMemberDiscFinish
  split
  · exact .refl servs
  · exact .modify servs _ (later_setFindFinish kind)

variable {servs : List CacheServ} {handle : UInt16} {kind : MemberType}
  {service : Nat} {member : FoundMember} {serv : CacheServ}

theorem closedAt_servMemberDiscFinish
    (belongs : servOf servs handle = some service) :
    ClosedAt (servMemberDiscFinish kind handle servs) service kind := by
  intro serv found
  simp only [servMemberDiscFinish, belongs, List.getElem?_modify] at found
  obtain ⟨before, _, rfl⟩ := map_eq_some_iff.mp found
  exact closed_setFindFinish kind before

theorem le_maxHandle_cacheCharacter
    (belongs : servOf servs member.handle = some service)
    (found : (cacheCharacter kind servs member)[service]? = some serv) :
    member.handle ≤ serv.maxHandle kind := by
  simp only [cacheCharacter, belongs, List.getElem?_modify] at found
  obtain ⟨before, _, rfl⟩ := map_eq_some_iff.mp found
  exact le_addMember_maxHandle kind member before

theorem le_maxHandle_cacheCharacters {members : List FoundMember}
    (listed : member ∈ members)
    (belongs : servOf servs member.handle = some service)
    (found : (members.foldl (cacheCharacter kind) servs)[service]? = some
      serv) :
    member.handle ≤ serv.maxHandle kind := by
  induction members generalizing servs with
  | nil => cases listed
  | cons first members induction =>
    rcases List.mem_cons.mp listed with rfl | later
    · obtain ⟨between, here, grown⟩ :=
        (kept_cacheCharacters kind _ members).before found
      exact UInt16.le_trans (le_maxHandle_cacheCharacter belongs here)
        (grown.grown kind)
    · have still := (kept_cacheCharacter kind servs first).servOf member.handle
      exact induction later (still.trans belongs) found

theorem mem_servHandles_iff : handle ∈ servHandles servs ↔
      (servs.any fun saved => saved.info.handle == handle) = true := by
  simp [servHandles]

theorem cacheServ_of_mem {found : FoundServ}
    (known : found.handle ∈ servHandles servs) :
    cacheServ servs found = servs := by
  unfold cacheServ
  rw [if_pos (mem_servHandles_iff.mp known)]

theorem cacheServ_of_notMem {found : FoundServ}
    (unknown : found.handle ∉ servHandles servs) :
    cacheServ servs found = servs ++ [create found] := by
  unfold cacheServ
  rw [if_neg (fun known => unknown (mem_servHandles_iff.mpr known))]

theorem servHandles_concat (servs : List CacheServ) (found : FoundServ) :
    servHandles (servs ++ [create found]) =
      servHandles servs ++ [found.handle] := by
  simp [servHandles, create]

theorem nodup_cacheServ (found : FoundServ)
    (distinct : (servHandles servs).Nodup) :
    (servHandles (cacheServ servs found)).Nodup := by
  by_cases known : found.handle ∈ servHandles servs
  · rw [cacheServ_of_mem known]
    exact distinct
  · rw [cacheServ_of_notMem known, servHandles_concat]
    rw [← List.concat_eq_append]
    exact List.Nodup.concat known distinct

theorem nodup_cacheServs (found : List FoundServ)
    (distinct : (servHandles servs).Nodup) :
    (servHandles (found.foldl cacheServ servs)).Nodup := by
  induction found generalizing servs with
  | nil => exact distinct
  | cons first found induction =>
    exact induction (nodup_cacheServ first distinct)

theorem servHandles_sortCachedServ {sorted : List CacheServ}
    (sorting : sortCachedServ handle servs = some sorted) :
    servHandles sorted = servHandles servs := by
  unfold sortCachedServ at sorting
  split at sorting <;> cases sorting
  · apply List.ext_getElem?
    intro service
    simp only [servHandles, List.getElem?_map, List.getElem?_modify]
    cases servs[service]? with
    | none => rfl
    | some serv => split <;> rfl

theorem servHandles_sortCachedServ_getD (handle : UInt16)
    (servs : List CacheServ) :
    servHandles ((sortCachedServ handle servs).getD servs) =
      servHandles servs := by
  cases sorting : sortCachedServ handle servs with
  | none => rfl
  | some sorted => exact servHandles_sortCachedServ sorting

theorem nodup_decodeSingleMemberInStru (uuidLen descriptorCount : Nat)
    (data : Bytes) (distinct : (servHandles servs).Nodup) :
    (servHandles (Client.decodeSingleMemberInStru uuidLen descriptorCount data
      servs)).Nodup := by
  unfold Client.decodeSingleMemberInStru
  dsimp only
  split
  · exact nodup_cacheServ _ distinct
  · split
    · exact distinct
    · rw [(kept_cacheCharacter _ servs _).handles]
      exact distinct

theorem nodup_decodeStructureItems (items : Nat) (data : Bytes)
    (lastServHandle : UInt16) (distinct : (servHandles servs).Nodup) :
    (servHandles (Client.decodeStructureItems items data lastServHandle
      servs)).Nodup := by
  induction items generalizing data lastServHandle servs with
  | zero =>
    unfold Client.decodeStructureItems
    rw [servHandles_sortCachedServ_getD]
    exact distinct
  | succ items induction =>
    unfold Client.decodeStructureItems
    split
    · rw [servHandles_sortCachedServ_getD]
      exact distinct
    · dsimp only
      split
      · exact distinct
      · split
        · exact distinct
        · next sorted sorting =>
            have same : servHandles sorted = servHandles servs := by
              split at sorting
              · exact servHandles_sortCachedServ sorting
              · cases sorting
                rfl
            rw [← same] at distinct
            generalize (if hasOperation (byteAt data 2) then 4 else 0) =
              operationLen
            split
            · exact distinct
            · split
              · exact distinct
              · exact induction _ _
                  (nodup_decodeSingleMemberInStru _ _ _ distinct)

theorem getMaxServHandle_concat (servs : List CacheServ) (found : FoundServ) :
    getMaxServHandle (servs ++ [create found]) =
      if found.handle > getMaxServHandle servs then found.endHandle
      else getMaxServHandle servs := by
  simp [getMaxServHandle, List.foldl_append, create]

theorem getMaxServHandle_cacheServ {found : FoundServ}
    (ranged : found.handle ∉ servHandles servs → found.handle ≤ found.endHandle) :
    getMaxServHandle servs ≤ getMaxServHandle (cacheServ servs found) ∧
      (found.handle ∉ servHandles servs →
        found.handle ≤ getMaxServHandle (cacheServ servs found)) := by
  by_cases known : found.handle ∈ servHandles servs
  · rw [cacheServ_of_mem known]
    exact ⟨UInt16.le_refl _, fun unknown => absurd known unknown⟩
  · rw [cacheServ_of_notMem known, getMaxServHandle_concat]
    split
    · next above =>
        exact ⟨UInt16.le_trans (UInt16.le_of_lt above) (ranged known),
          fun _ => ranged known⟩
    · next above =>
        exact ⟨UInt16.le_refl _, fun _ => UInt16.not_lt.mp above⟩

theorem servHandles_subset_cacheServ (found : FoundServ)
    (known : handle ∈ servHandles servs) :
    handle ∈ servHandles (cacheServ servs found) := by
  by_cases listed : found.handle ∈ servHandles servs
  · rw [cacheServ_of_mem listed]
    exact known
  · rw [cacheServ_of_notMem listed, servHandles_concat]
    exact List.mem_append_left _ known

theorem getMaxServHandle_cacheServs {found : List FoundServ}
    (ranged : ∀ serv ∈ found, serv.handle ∉ servHandles servs →
      serv.handle ≤ serv.endHandle) :
    getMaxServHandle servs ≤ getMaxServHandle (found.foldl cacheServ servs) ∧
      ∀ serv ∈ found, serv.handle ∉ servHandles servs →
        serv.handle ≤ getMaxServHandle (found.foldl cacheServ servs) := by
  induction found generalizing servs with
  | nil => exact ⟨UInt16.le_refl _, by simp⟩
  | cons first found induction =>
    obtain ⟨raised, covered⟩ :=
      getMaxServHandle_cacheServ (ranged first (by simp))
    have rest : ∀ serv ∈ found,
        serv.handle ∉ servHandles (cacheServ servs first) →
          serv.handle ≤ serv.endHandle := by
      intro serv member unknown
      apply ranged serv (.tail _ member)
      intro known
      exact unknown (servHandles_subset_cacheServ first known)
    obtain ⟨higher, reached⟩ := induction rest
    refine ⟨UInt16.le_trans raised higher, ?_⟩
    intro serv member unknown
    by_cases known : serv.handle ∈ servHandles (cacheServ servs first)
    · -- it was added with the first one, so it has the same handle
      have added : first.handle ∉ servHandles servs := by
        intro listed
        rw [cacheServ_of_mem listed] at known
        exact unknown known
      rw [cacheServ_of_notMem added, servHandles_concat] at known
      have same : serv.handle = first.handle := by
        rcases List.mem_append.mp known with early | late
        · exact absurd early unknown
        · exact List.mem_singleton.mp late
      rw [same]
      exact UInt16.le_trans (covered added) higher
    · rcases List.mem_cons.mp member with rfl | later
      · exact UInt16.le_trans (covered unknown) higher
      · exact reached serv later known

def Precedes (service : Nat) (kind : MemberType) (laterService : Nat)
    (laterKind : MemberType) : Prop :=
  service < laterService ∨
    service = laterService ∧ kind.findType < laterKind.findType

theorem kept_getNextFindMember (servs : List CacheServ) :
    Kept servs (getNextFindMember servs).2 := by
  induction servs with
  | nil => exact .refl []
  | cons serv servs induction =>
    unfold getNextFindMember
    split
    · next next =>
        exact .cons (getNextFindOfServ_some next).1 (.refl servs)
    · next next =>
        exact .cons (getNextFindOfServ_none next).1 induction

theorem getNextFindMember_some {next : NextFind}
    (found : (getNextFindMember servs).1 = some next) :
    (∃ serv, (getNextFindMember servs).2[next.service]? = some serv ∧
      serv.Open next.kind next.startHandle) ∧
      ∀ service kind, Precedes service kind next.service next.kind →
        ClosedAt (getNextFindMember servs).2 service kind := by
  induction servs generalizing next with
  | nil => cases found
  | cons serv servs induction =>
    unfold getNextFindMember at found ⊢
    split at found
    · next kind startHandle after here =>
        simp only [some.injEq] at found
        subst found
        obtain ⟨_, opened, earlier⟩ :=
          getNextFindOfServ_some here
        refine ⟨⟨after, rfl, opened⟩, ?_⟩
        intro service other precedes
        rcases precedes with less | ⟨rfl, before⟩
        · exact absurd less (Nat.not_lt_zero service)
        · intro serv same
          simp only [List.getElem?_cons_zero, some.injEq] at same
          subst same
          exact earlier other before
    · next after here =>
        obtain ⟨later, next, rfl⟩ := map_eq_some_iff.mp found
        obtain ⟨opened, earlier⟩ := induction next
        refine ⟨opened, ?_⟩
        intro service kind precedes
        cases service with
        | zero =>
          intro serv same
          simp only [List.getElem?_cons_zero, some.injEq] at same
          subst same
          exact (getNextFindOfServ_none here).2 kind
        | succ service =>
          have before : Precedes service kind later.service later.kind := by
            rcases precedes with less | ⟨same, before⟩
            · exact .inl (Nat.lt_of_succ_lt_succ less)
            · exact .inr ⟨Nat.succ.inj same, before⟩
          intro serv same
          exact earlier service kind before serv same

end NearLink.Ssap
