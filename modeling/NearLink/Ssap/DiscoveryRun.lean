import Mathlib.Data.Prod.Lex
import NearLink.Ssap.DiscoveryCache

/-!
# Discovery comes to an end

The requests of a discovery are ordered by what they ask for: first the
request of the application, then primary services by the start handle, then the
members of the services by the position of the service, the kind of the members
and the start handle.  A discovery ends because each request comes after the
one before it.
-/

namespace NearLink.Ssap

open Sdf Transition Nat FindParam ErrCode Client Asked
open List hiding getElem?_eq_some_iff

namespace Asked

def isPrimary (asked : Asked) : Bool := asked.param.findType = 1

def position (asked : Asked) : ℕ ×ₗ ℕ ×ₗ ℕ ×ₗ ℕ :=
  match asked.service with
  | some service =>
    toLex (2, toLex (service, toLex (asked.param.findType.toNat,
      asked.param.startHandle.toNat)))
  | none =>
    if asked.isPrimary then
      toLex (1, toLex (asked.param.startHandle.toNat, toLex (0, 0)))
    else toLex (0, toLex (0, toLex (0, 0)))

def rank (asked : Asked) : Nat :=
  match asked.service with
  | some service =>
    65537 + (8 * service + asked.param.findType.toNat) * 65536 +
      asked.param.startHandle.toNat
  | none => if asked.isPrimary then 1 + asked.param.startHandle.toNat else 0

end Asked

theorem FindParam.findType_lt (param : FindParam) :
    param.findType.toNat < 8 := by
  have below : param.findType.toNat ≤ (7 : UInt8).toNat := by
    exact and_le_right
  exact lt_succ_of_le below

theorem Asked.rank_lt {first second : Asked}
    (before : first.position < second.position) :
    first.rank < second.rank := by
  have startFirst := first.param.startHandle.toNat_lt
  have typeFirst := first.param.findType_lt
  revert before
  unfold position rank
  split <;> split <;> try split
  all_goals try split
  all_goals simp only [Prod.Lex.toLex_lt_toLex]
  all_goals omega

theorem Asked.isPrimary_one (startHandle endHandle : UInt16)
    (uuid : Option Bytes) :
    (⟨⟨1, startHandle, endHandle, uuid⟩, none⟩ : Asked).isPrimary = true := by
  change decide ((1 : UInt8) &&& 7 = 1) = true
  decide

variable {asked : Asked}

theorem Asked.position_of_primary (services : asked.service = none)
    (primary : asked.isPrimary = true) : asked.position =
      toLex (1, toLex (asked.param.startHandle.toNat, toLex (0, 0))) := by
  unfold position
  rw [services]
  simp only [primary, if_true]

theorem Asked.position_of_first (services : asked.service = none)
    (other : asked.isPrimary = false) :
    asked.position = toLex (0, toLex (0, toLex (0, 0))) := by
  unfold position
  rw [services]
  simp only [other, Bool.false_eq_true, if_false]

/-- More than there are places: a handle has sixteen bits, and the services
have different handles. -/
def maxRequests : Nat := 65537 + 8 * 65536 * 65536

theorem Asked.rank_services_lt (services : asked.service = none) :
    asked.rank < maxRequests := by
  have start := asked.param.startHandle.toNat_lt
  unfold rank maxRequests
  rw [services]
  dsimp only
  split <;> omega

theorem Asked.rank_members_lt {service : Nat}
    (members : asked.service = some service) (inside : service < 65536) :
    asked.rank < maxRequests := by
  have type := asked.param.findType_lt
  have start := asked.param.startHandle.toNat_lt
  unfold rank maxRequests
  rw [members]
  dsimp only
  omega

namespace Discovery

/-- The requests come in order and are no more than there are places, each
answer leads to a request or to the end, and the end is reported once. -/
structure Progresses (discovery : Discovery) : Prop where
  increasing :
    (discovery.asked.map position).Pairwise (· < ·)
  finite : discovery.asked.length ≤ maxRequests
  followed : discovery.answered + 1 =
    discovery.asked.length + discovery.completions.length
  once : discovery.completions.length =
    if discovery.request.isSome then 0 else 1

/-- An answer with this error code and these entries leads past the request:
- services that are asked for from some handle on include a new one from there
  on, and no new one has an empty range;
- members that are asked for include one from there on that belongs to the
  service;
- when there are none, the start of the range belongs to no other service. -/
def LeadsOn (servs : List CacheServ) (asked : Asked) (errCode : UInt8)
    (found : List FoundServ) (members : List FoundMember) : Prop :=
  match asked.service with
  | none =>
    asked.isPrimary → asked.param.startHandle ≠ startHandleMin →
      errCode = success.value →
        (∃ serv ∈ found, asked.param.startHandle ≤ serv.handle ∧
          serv.handle ∉ servHandles servs) ∧
        ∀ serv ∈ found, serv.handle ∉ servHandles servs →
          serv.handle ≤ serv.endHandle
  | some service =>
    (errCode = success.value →
      ∃ member ∈ members, asked.param.startHandle ≤ member.handle ∧
        servOf servs member.handle = some service) ∧
    (errCode = itemInexist.value →
      servOf servs asked.param.startHandle = some service)

instance (servs : List CacheServ) (asked : Asked) (errCode : UInt8)
    (found : List FoundServ) (members : List FoundMember) :
    Decidable (LeadsOn servs asked errCode found members) := by
  unfold LeadsOn
  split <;> infer_instance

def membersIn (asked : Asked) (lastBuff pdu : Bytes) (oldDevice : Bool) :
    List FoundMember :=
  match MemberType.getByFindType asked.param.findType with
  | none => []
  | some kind => foundMembers lastBuff pdu oldDevice kind

/-- The answer is one the client understands, and leads past the request. -/
def Forward (discovery : Discovery) (event : DiscoveryEvent) : Prop :=
  match discovery.request, event with
  | some asked, .recv pdu =>
    let lastBuff := asked.param.pdu discovery.oldDevice
    match pdu.head?.bind MsgCode.ofByte with
    | none => True
    | some code =>
      if code = .errorRsp then
        6 ≤ pdu.length ∧ byteAt pdu 2 = asked.param.opcode.value ∧
          LeadsOn discovery.cache.serv asked (byteAt pdu 5) [] []
      else if code.recvOpcodeMap = some asked.param.opcode then
        pduBaseLen ≤ pdu.length ∧ pdu.length ≤ stackMtuMax ∧
          LeadsOn discovery.cache.serv asked success.value
            (foundServs lastBuff pdu discovery.oldDevice)
            (membersIn asked lastBuff pdu discovery.oldDevice)
      else True
  | _, _ => True

instance (discovery : Discovery) (event : DiscoveryEvent) :
    Decidable (discovery.Forward event) := by
  unfold Forward
  split
  · dsimp only
    split <;> infer_instance
  · infer_instance

def Placed (servs : List CacheServ) (asked : Asked) : Prop :=
  match asked.service with
  | none =>
    asked.isPrimary → asked.param.startHandle ≠ startHandleMin →
      getMaxServHandle servs ≠ endHandleMax ∧
        asked.param.startHandle = getMaxServHandle servs + 1
  | some service =>
    ∃ kind serv, asked.param.type = MemberType.findType kind ∧
      servs[service]? = some serv ∧
      serv.Open kind asked.param.startHandle ∧
      ∀ earlier earlierKind, Precedes earlier earlierKind service kind →
        ClosedAt servs earlier earlierKind

structure Ordered (discovery : Discovery) (asked : Asked) : Prop where
  increasing : (discovery.asked.map position).Pairwise (· < ·)
  last : ∃ before, discovery.asked = before ++ [asked]
  counted : discovery.asked.length ≤ asked.rank + 1
  bounded : asked.rank < maxRequests
  distinct : (servHandles discovery.cache.serv).Nodup
  silent : discovery.completions = []

structure Waiting (discovery : Discovery) (asked : Asked) : Prop
    extends Ordered discovery asked where
  placed : Placed discovery.cache.serv asked
  followed : discovery.answered + 1 = discovery.asked.length

structure Answered (discovery : Discovery) (asked : Asked) : Prop
    extends Ordered discovery asked where
  free : discovery.request = none
  followed : discovery.answered = discovery.asked.length

structure Sound (discovery : Discovery) : Prop where
  progresses : discovery.Progresses
  waiting : ∀ asked, discovery.request = some asked → discovery.Waiting asked

namespace Answered

variable {discovery : Discovery} {asked : Asked}
  (answered : discovery.Answered asked)
include answered

theorem withCache (cache : FindCache)
    (distinct : (servHandles cache.serv).Nodup) :
    { discovery with cache := cache }.Answered asked := { answered with
  distinct := distinct }

theorem discCompleteCb (errCode : UInt8) :
    (discovery.discCompleteCb errCode).Sound where
  progresses :=
    { increasing := answered.increasing
      finite :=
        le_trans answered.counted (succ_le_of_lt answered.bounded)
      followed := by
        simp [Discovery.discCompleteCb, answered.silent, answered.followed]
      once := by
        simp [Discovery.discCompleteCb, answered.silent, answered.free] }
  waiting := by
    intro other waits
    have free : (discovery.discCompleteCb errCode).request = none :=
      answered.free
    rw [free] at waits
    cases waits

theorem ask {param : FindParam} {service : Option Nat}
    (later : asked.position < (⟨param, service⟩ : Asked).position)
    (bounded : (⟨param, service⟩ : Asked).rank < maxRequests)
    (placed : Placed discovery.cache.serv ⟨param, service⟩) :
    (discovery.ask param service).Sound := by
  obtain ⟨before, all⟩ := answered.last
  have increasing :
      ((discovery.ask param service).asked.map position).Pairwise (· < ·) := by
    have earlier := answered.increasing
    simp only [Discovery.ask, all, map_append, map_cons, map_nil] at earlier ⊢
    rw [pairwise_append]
    refine ⟨earlier, pairwise_singleton _ _, ?_⟩
    intro place member last lastMember
    rw [mem_singleton.mp lastMember]
    rcases mem_append.mp member with old | current
    · exact lt_trans
        ((pairwise_append.mp earlier).2.2 place old _ (by simp)) later
    · rw [mem_singleton.mp current]
      exact later
  have counted : (discovery.ask param service).asked.length ≤
      (⟨param, service⟩ : Asked).rank + 1 := by
    have ranks := rank_lt later
    have few := answered.counted
    simp only [Discovery.ask, length_append, length_singleton]
    omega
  have followed : (discovery.ask param service).answered + 1 =
      (discovery.ask param service).asked.length := by
    simp [Discovery.ask, answered.followed]
  refine ⟨⟨increasing, ?_, ?_, ?_⟩, ?_⟩
  · exact le_trans counted (succ_le_of_lt bounded)
  · simp [Discovery.ask, answered.followed, answered.silent]
  · simp [Discovery.ask, answered.silent]
  · intro other waits
    cases waits
    exact
      { increasing := increasing
        last := ⟨discovery.asked, rfl⟩
        counted := counted
        bounded := bounded
        distinct := answered.distinct
        silent := answered.silent
        placed := placed
        followed := followed }

end Answered

theorem length_le_of_nodup {servs : List CacheServ}
    (distinct : (servHandles servs).Nodup) : servs.length ≤ 65536 := by
  have numbers : ((servHandles servs).map UInt16.toNat).Nodup := by
    refine distinct.map ?_
    intro first second same
    exact UInt16.toNat_inj.mp same
  have among : (servHandles servs).map UInt16.toNat ⊆ List.range 65536 := by
    exact forall_mem_map.mpr fun handle _ => mem_range.mpr handle.toNat_lt
  have counted := (subperm_of_subset numbers among).length_le
  simpa [servHandles] using counted

theorem findType_and_seven (kind : MemberType) :
    kind.findType &&& 7 = kind.findType := by
  cases kind <;> rfl

theorem succ_toNat_of_lt {handle bound : UInt16} (below : handle < bound) :
    (handle + 1).toNat = handle.toNat + 1 := by
  have less := UInt16.lt_iff_toNat_lt.mp below
  have small := bound.toNat_lt
  rw [UInt16.toNat_add, UInt16.toNat_one]
  exact mod_eq_of_lt (by omega)

namespace Answered

variable {discovery : Discovery} {asked : Asked}
  (answered : discovery.Answered asked)
include answered

theorem findNextMember (later : ∀ next : NextFind,
      (getNextFindMember discovery.cache.serv).1 = some next → asked.position <
          (⟨⟨next.kind.findType, next.startHandle, next.endHandle, none⟩,
            some next.service⟩ : Asked).position) :
    discovery.findNextMember.Sound := by
  have kept := kept_getNextFindMember discovery.cache.serv
  have distinct :
      (servHandles (getNextFindMember discovery.cache.serv).2).Nodup := by
    rw [kept.handles]
    exact answered.distinct
  unfold Discovery.findNextMember
  dsimp only
  split
  · next next found =>
      obtain ⟨⟨serv, here, opened⟩, earlier⟩ :=
        getNextFindMember_some found
      have inside : next.service < 65536 :=
        lt_of_lt_of_le (getElem?_eq_some_iff.mp here).1
          (length_le_of_nodup distinct)
      exact (answered.withCache _ distinct).ask (later next found)
        (rank_members_lt rfl inside)
        ⟨next.kind, serv, rfl, here, opened, earlier⟩
  · have emptied : (servHandles []).Nodup := nodup_nil
    exact Answered.discCompleteCb (answered.withCache _ emptied) _

theorem findNextMember_of_services (services : asked.service = none) :
    discovery.findNextMember.Sound := by
  apply answered.findNextMember
  intro next _
  unfold position
  rw [services]
  dsimp only
  split <;> simp [Prod.Lex.toLex_lt_toLex]

theorem findNextMember_of_members {servs : List CacheServ} {service : Nat}
    {kind : MemberType} (members : asked.service = some service)
    (type : asked.param.type = kind.findType)
    (earlier : ∀ early earlyKind, Precedes early earlyKind service kind →
      ClosedAt servs early earlyKind) (kept : Kept servs discovery.cache.serv)
    (past : ∀ serv, discovery.cache.serv[service]? = some serv →
      serv.Closed kind ∨ asked.param.startHandle ≤ serv.maxHandle kind) :
    discovery.findNextMember.Sound := by
  apply answered.findNextMember
  intro next found
  have scanned := kept_getNextFindMember discovery.cache.serv
  obtain ⟨⟨serv, here, opened⟩, _⟩ := getNextFindMember_some found
  have typeOf : asked.param.findType = kind.findType := by
    rw [findType, type, findType_and_seven]
  have nextType : (⟨next.kind.findType, next.startHandle, next.endHandle,
      none⟩ : FindParam).findType = next.kind.findType :=
    findType_and_seven next.kind
  have notBefore : ¬ Precedes next.service next.kind service kind := by
    intro precedes
    have closed := (kept.trans scanned).closedAt
      (earlier next.service next.kind precedes)
    exact opened.open_ (closed serv here)
  unfold position
  rw [members, typeOf, nextType]
  simp only [Prod.Lex.toLex_lt_toLex, lt_irrefl, true_and, false_or]
  by_cases same : service = next.service ∧ kind = next.kind
  · obtain ⟨sameService, sameKind⟩ := same
    subst sameService sameKind
    obtain ⟨before, found, grown⟩ := scanned.before here
    have reached : asked.param.startHandle ≤ serv.maxHandle next.kind := by
      rcases past before found with closed | reached
      · exact absurd (grown.closed _ closed) opened.open_
      · exact UInt16.le_trans reached (grown.grown _)
    have start : next.startHandle.toNat =
        (serv.maxHandle next.kind).toNat + 1 := by
      rw [opened.start, succ_toNat_of_lt opened.below]
    have bound := UInt16.le_iff_toNat_le.mp reached
    refine .inr ⟨rfl, .inr ⟨rfl, ?_⟩⟩
    omega
  · simp only [Precedes, not_or, not_and] at notBefore same
    rcases lt_trichotomy service next.service with less | equal | more
    · exact .inl less
    · right
      refine ⟨equal, .inl ?_⟩
      have differ := same equal
      have notLess := notBefore.2 equal.symm
      revert differ notLess
      cases kind <;> cases next.kind <;> simp [MemberType.findType]
    · exact absurd more notBefore.1

end Answered

end Discovery

theorem and_seven_findItemType (type : UInt8) (oldDevice : Bool) :
    (type &&& 7) + (TaskFunc.findItemType oldDevice).value * 8 &&& 7 =
      type &&& 7 := by
  have remainder : ∀ number : Nat, number &&& 7 = number % 8 :=
    fun number => and_two_pow_sub_one_eq_mod number 3
  apply UInt8.toNat.inj
  cases oldDevice <;>
    simp [TaskFunc.findItemType, FindItemType.value, UInt8.toNat_and,
      UInt8.toNat_add, remainder]
  omega

namespace FindParam

section

variable (param : FindParam)
include param

variable (oldDevice : Bool)
include oldDevice

theorem byteAt_pdu_zero :
    byteAt (param.pdu oldDevice) 0 = param.opcode.value := rfl

theorem byteAt_pdu_one :
    byteAt (param.pdu oldDevice) 1 &&& 7 = param.findType :=
  and_seven_findItemType param.type oldDevice

theorem decode16_pdu_two :
    decode16 (param.pdu oldDevice) 2 = param.startHandle.toNat := by
  have small := param.startHandle.toNat_lt
  simp only [pdu, TaskFunc.findPdu, decode16, byteAt, encode16, cons_append,
    nil_append, getD_cons_zero, getD_cons_succ, UInt8.toNat_ofNat']
  omega

theorem decode16_pdu_four :
    decode16 (param.pdu oldDevice) 4 = param.endHandle.toNat := by
  have small := param.endHandle.toNat_lt
  simp only [pdu, TaskFunc.findPdu, decode16, byteAt, encode16, cons_append,
    nil_append, getD_cons_zero, getD_cons_succ, UInt8.toNat_ofNat']
  omega

theorem length_pdu : ¬ (param.pdu oldDevice).length < 6 := by
  simp [pdu, TaskFunc.findPdu, encode16]

end

def rspUuid (param : FindParam) (oldDevice : Bool) : Bytes :=
  getFindReqUuid ((param.pdu oldDevice).drop 6)

def complete (param : FindParam) (oldDevice : Bool) (errCode : UInt8) :
    DiscoveryComplete where
  byUuid := param.opcode.value = MsgCode.findStructureByUuidReq.value
  type := param.findType
  errCode := errCode
  preFindHandle := param.startHandle
  endHandle := param.endHandle
  uuid := param.rspUuid oldDevice

end FindParam

namespace Discovery

theorem compCb_discoveryComplete (param : FindParam) (oldDevice : Bool)
    (errCode : UInt8) (discovery : Discovery) :
    discovery.compCb (some (discoveryComplete (param.pdu oldDevice) errCode)) =
      discovery.discServCompCb (param.complete oldDevice errCode) := by
  simp only [compCb, discoveryComplete, byteAt_pdu_one, decode16_pdu_two,
    decode16_pdu_four, complete, rspUuid, UInt16.ofNat_toNat]
  rw [byteAt_pdu_zero]

def Advanced (servs : List CacheServ) (asked : Asked) (errCode : UInt8)
    (after : List CacheServ) : Prop :=
  match asked.service with
  | none =>
    asked.isPrimary → asked.param.startHandle ≠ startHandleMin →
      errCode = success.value → asked.param.startHandle ≤ getMaxServHandle after
  | some service =>
    Kept servs after ∧ (errCode = success.value →
        ∀ kind serv, asked.param.type = MemberType.findType kind →
          after[service]? = some serv →
            asked.param.startHandle ≤ serv.maxHandle kind) ∧
      (errCode = itemInexist.value →
        servOf servs asked.param.startHandle = some service)

namespace Answered

variable {discovery : Discovery} {asked : Asked} {servs : List CacheServ}
  {errCode : UInt8} (answered : discovery.Answered asked)
include answered

theorem primaryServiceCompCb (services : asked.service = none)
    (primary : asked.isPrimary = true)
    (advanced : Advanced servs asked errCode discovery.cache.serv)
    (known : errCode = success.value ∨
      errCode = itemInexist.value) (oldDevice : Bool) :
    (discovery.primaryServiceCompCb
      (asked.param.complete oldDevice errCode)).Sound := by
  unfold Discovery.primaryServiceCompCb
  dsimp only
  split
  · exact answered.discCompleteCb _
  · next found =>
      split
      · exact answered.findNextMember_of_services services
      · next more =>
          simp only [not_or] at more
          have success : errCode = success.value :=
            known.resolve_right more.1
          have below : getMaxServHandle discovery.cache.serv <
              endHandleMax := by
            have differ := mt UInt16.toNat_inj.mp more.2
            have small :=
              (getMaxServHandle discovery.cache.serv).toNat_lt
            apply UInt16.lt_iff_toNat_lt.mpr
            have largest : endHandleMax.toNat = 65535 := rfl
            omega
          have succ := succ_toNat_of_lt below
          have positive := mt UInt16.toNat_inj.mp found
          have reached : asked.param.startHandle.toNat ≤
              (getMaxServHandle discovery.cache.serv).toNat := by
            by_cases first : asked.param.startHandle = startHandleMin
            · have one : startHandleMin.toNat = 1 := rfl
              have zero : (0 : UInt16).toNat = 0 := rfl
              rw [first, one]
              omega
            · unfold Advanced at advanced
              rw [services] at advanced
              exact UInt16.le_iff_toNat_le.mp (advanced primary first success)
          refine answered.ask ?_ (rank_services_lt rfl)
            (fun _ _ => ⟨more.2, rfl⟩)
          rw [position_of_primary services primary,
            position_of_primary rfl (isPrimary_one _ _ _)]
          simp only [Prod.Lex.toLex_lt_toLex, lt_irrefl, true_and, false_or]
          left
          omega

section

variable (placed : Placed servs asked)
  (advanced : Advanced servs asked errCode discovery.cache.serv)
include placed advanced

theorem memberCompCb
    (known : errCode = success.value ∨ errCode = itemInexist.value)
    (oldDevice : Bool) :
    (discovery.memberCompCb
      (asked.param.complete oldDevice errCode)).Sound := by
  have finished : ∀ kind, { discovery with
      cache := { discovery.cache with
        serv := servMemberDiscFinish kind asked.param.startHandle
          discovery.cache.serv } }.Answered asked := by
    intro kind
    apply answered.withCache
    rw [(kept_servMemberDiscFinish kind _ _).handles]
    exact answered.distinct
  cases services : asked.service with
  | none =>
    unfold Discovery.memberCompCb
    split
    · split
      · exact answered.findNextMember_of_services services
      · exact Answered.findNextMember_of_services (finished _) services
    · exact answered.findNextMember_of_services services
  | some service =>
    unfold Placed at placed
    unfold Advanced at advanced
    rw [services] at placed advanced
    obtain ⟨kind, serv, type, _, _, earlier⟩ := placed
    obtain ⟨kept, reached, belongs⟩ := advanced
    have kindOf : MemberType.getByFindType asked.param.findType =
        some kind := by
      rw [findType, type, findType_and_seven]
      cases kind <;> rfl
    unfold Discovery.memberCompCb
    simp only [complete, kindOf]
    split
    · next inexist =>
        refine Answered.findNextMember_of_members (finished kind) services
          type earlier (kept.trans (kept_servMemberDiscFinish _ _ _)) ?_
        intro serv found
        left
        have still := (kept.servOf asked.param.startHandle).trans
          (belongs inexist)
        exact closedAt_servMemberDiscFinish still serv found
    · next found =>
        refine answered.findNextMember_of_members services type earlier kept ?_
        intro serv here
        right
        exact reached (known.resolve_right found) kind serv type here

theorem discServCompCb (oldDevice : Bool) : (discovery.discServCompCb
      (asked.param.complete oldDevice errCode)).Sound := by
  have emptied : (servHandles []).Nodup := nodup_nil
  have structured : asked.param.findType = 0 → asked.service = none ∧
      asked.isPrimary = false := by
    intro structured
    constructor
    · unfold Placed at placed
      cases services : asked.service with
      | none => rfl
      | some service =>
        rw [services] at placed
        obtain ⟨kind, _, type, _⟩ := placed
        rw [findType, type, findType_and_seven] at structured
        cases kind <;> cases structured
    · simp [isPrimary, structured]
  unfold Discovery.discServCompCb
  split
  · next retry =>
      obtain ⟨services, other⟩ := structured retry.1
      refine answered.ask ?_ (rank_services_lt rfl)
        (fun _ later => absurd retry.2.2 later)
      rw [position_of_first services other,
        position_of_primary rfl (isPrimary_one _ _ _)]
      simp [Prod.Lex.toLex_lt_toLex]
  · split
    · exact Answered.discCompleteCb (answered.withCache _ emptied) _
    · next unknown =>
        have known : errCode = success.value ∨ errCode = itemInexist.value := by
          by_cases success : errCode = success.value
          · exact .inl success
          · right
            by_contra other
            exact unknown ⟨success, other⟩
        split_ifs
        · exact Answered.discCompleteCb (answered.withCache _ emptied) _
        · next primary =>
            have services : asked.service = none := by
              unfold Placed at placed
              cases services : asked.service with
              | none => rfl
              | some service =>
                rw [services] at placed
                obtain ⟨kind, _, type, _⟩ := placed
                have other : asked.param.findType = 1 := primary
                rw [findType, type, findType_and_seven] at other
                cases kind <;> cases other
            have isPrimary : asked.isPrimary = true := by
              exact decide_eq_true primary
            exact answered.primaryServiceCompCb services isPrimary advanced
              known oldDevice
        · exact answered.memberCompCb placed advanced known oldDevice

end

end Answered

variable {asked : Asked} {discovery : Discovery} {servs : List CacheServ}

theorem Waiting.answer (waiting : discovery.Waiting asked) :
    discovery.answer.Answered asked := { waiting with
  free := rfl }

theorem advanced_of_leadsOn {errCode : UInt8}
    (leads : LeadsOn servs asked errCode [] []) :
    Advanced servs asked errCode servs := by
  unfold LeadsOn at leads
  unfold Advanced
  split at leads
  · intro primary later success
    obtain ⟨⟨_, member, _⟩, _⟩ := leads primary later success
    cases member
  · refine ⟨Kept.refl servs, ?_, leads.2⟩
    intro success
    obtain ⟨_, member, _⟩ := leads.1 success
    cases member

theorem findType_of_placed {service : Nat} (placed : Placed servs asked)
    (members : asked.service = some service) :
    ∃ kind, asked.param.type = MemberType.findType kind ∧
      asked.param.findType = MemberType.findType kind ∧
      MemberType.getByFindType asked.param.findType = some kind := by
  unfold Placed at placed
  rw [members] at placed
  obtain ⟨kind, _, type, _⟩ := placed
  have same : asked.param.findType = kind.findType := by
    rw [findType, type, findType_and_seven]
  refine ⟨kind, type, same, ?_⟩
  rw [same]
  cases kind <;> rfl

theorem findRspCleanCache_of_later {param : FindParam} (byUuid : Bool)
    (uuid : Bytes) (cache : FindCache)
    (later : param.startHandle ≠ startHandleMin ∨
      param.findType ≠ 1 ∧ param.findType ≠ 0) :
    cache.findRspCleanCache param.findType param.startHandle byUuid uuid =
      cache := by
  unfold FindCache.findRspCleanCache
  rw [if_neg]
  rintro ⟨type, first⟩
  rcases later with later | ⟨notPrimary, notStructure⟩
  · exact later first
  · exact type.elim notPrimary notStructure

variable {cache : FindCache} {pdu : Bytes}

theorem nodup_findRspCleanCache (type : UInt8) (startHandle : UInt16)
    (byUuid : Bool) (uuid : Bytes) (distinct : (servHandles cache.serv).Nodup) :
    (servHandles (cache.findRspCleanCache type startHandle byUuid
      uuid).serv).Nodup := by
  unfold FindCache.findRspCleanCache
  split
  · exact nodup_nil
  · exact distinct

theorem nodup_cacheFindRsp (lastBuff pdu : Bytes) (oldDevice : Bool)
    (distinct : (servHandles cache.serv).Nodup) :
    (servHandles (cacheFindRsp lastBuff pdu oldDevice cache).serv).Nodup := by
  unfold cacheFindRsp
  dsimp only
  have cleaned := nodup_findRspCleanCache (byteAt lastBuff 1 &&& 7)
    (UInt16.ofNat (decode16 lastBuff 2))
    (decide (byteAt lastBuff 0 = MsgCode.findStructureByUuidReq.value))
    (getFindReqUuid (lastBuff.drop 6)) distinct
  split
  · exact nodup_cacheServs _ cleaned
  · split
    · rw [(kept_cacheCharacters _ _ _).handles]
      exact cleaned
    · split
      · unfold decodeStructure
        split
        · exact nodup_decodeStructureItems _ _ _ cleaned
        · exact cleaned
      · exact cleaned

theorem advanced_cacheFindRsp {oldDevice : Bool}
    (placed : Placed cache.serv asked)
    (leads : LeadsOn cache.serv asked success.value
      (foundServs (asked.param.pdu oldDevice) pdu oldDevice)
      (membersIn asked (asked.param.pdu oldDevice) pdu oldDevice)) :
    Advanced cache.serv asked success.value
      (cacheFindRsp (asked.param.pdu oldDevice) pdu oldDevice cache).serv := by
  unfold cacheFindRsp
  simp only [byteAt_pdu_one, decode16_pdu_two, UInt16.ofNat_toNat]
  unfold Advanced
  cases services : asked.service with
  | none =>
    intro primary later _
    have isPrimary : asked.param.findType = 1 := of_decide_eq_true primary
    unfold LeadsOn at leads
    rw [services] at leads
    obtain ⟨⟨serv, member, from_, unknown⟩, ranged⟩ :=
      leads primary later rfl
    rw [if_pos isPrimary, findRspCleanCache_of_later _ _ _ (.inl later)]
    exact UInt16.le_trans from_
      ((getMaxServHandle_cacheServs ranged).2 serv member unknown)
  | some service =>
    obtain ⟨kind, type, findType, kindOf⟩ :=
      findType_of_placed placed services
    unfold LeadsOn membersIn at leads
    rw [services] at leads
    simp only [kindOf] at leads ⊢
    have notPrimary : asked.param.findType ≠ 1 := by
      rw [findType]
      cases kind <;> decide
    have notStructure : asked.param.findType ≠ 0 := by
      rw [findType]
      cases kind <;> decide
    rw [if_neg notPrimary,
      findRspCleanCache_of_later _ _ _ (.inr ⟨notPrimary, notStructure⟩)]
    refine ⟨kept_cacheCharacters _ _ _, ?_,
      fun inexist => absurd inexist (by decide)⟩
    intro _ other serv same found
    have sameKind : other = kind := by
      rw [type] at same
      cases other <;> cases kind <;> first | rfl | cases same
    subst sameKind
    obtain ⟨member, listed, from_, belongs⟩ := leads.1 trivial
    exact UInt16.le_trans from_
      (le_maxHandle_cacheCharacters listed belongs found)

theorem sound_recv (sound : discovery.Sound)
    (waits : discovery.request = some asked)
    (forward : discovery.Forward (.recv pdu)) :
    (discovery.recv asked pdu).Sound := by
  have waiting := sound.waiting asked waits
  unfold Forward at forward
  rw [waits] at forward
  unfold recv
  cases parsed : pdu.head?.bind MsgCode.ofByte with
  | none => exact sound
  | some code =>
    simp only [parsed] at forward
    dsimp only
    split at forward
    · next error =>
        obtain ⟨long, same, leads⟩ := forward
        have report : errorRspHandle asked.param.opcode
            (asked.param.pdu discovery.oldDevice) pdu =
              Option.some (discoveryComplete
                (asked.param.pdu discovery.oldDevice) (byteAt pdu 5)) := by
          unfold errorRspHandle
          rw [if_neg (not_lt.mpr long), if_neg (not_not.mpr same)]
          unfold opcode
          split <;> rfl
        rw [if_pos error, report, compCb_discoveryComplete]
        exact waiting.answer.discServCompCb waiting.placed
          (advanced_of_leadsOn leads) _
    · next noError =>
        rw [if_neg noError]
        split at forward
        · next answers =>
            obtain ⟨long, short, leads⟩ := forward
            have report : findRspHandle
                (asked.param.pdu discovery.oldDevice) pdu =
                  Option.some (discoveryComplete
                    (asked.param.pdu discovery.oldDevice)
                    success.value) := by
              unfold findRspHandle
              rw [if_neg (not_lt.mpr short), if_neg (not_lt.mpr long),
                if_neg (length_pdu _ _)]
            rw [if_pos answers]
            unfold findRsp
            rw [report]
            dsimp only
            rw [compCb_discoveryComplete]
            exact Answered.discServCompCb (waiting.answer.withCache _
                (nodup_cacheFindRsp _ _ _ waiting.distinct))
              waiting.placed (advanced_cacheFindRsp waiting.placed leads) _
        · next other =>
            rw [if_neg other]
            exact sound

theorem sound_step (discovery : Discovery) (event : DiscoveryEvent)
    (sound : discovery.Sound) (forward : discovery.Forward event) :
    (discovery.step event).Sound := by
  unfold step
  split
  · exact sound
  · next asked waits =>
      have waiting := sound.waiting asked waits
      split
      · exact sound_recv sound waits forward
      · have report : errorHandle
            (asked.param.pdu discovery.oldDevice) errcodeTimeout
              asked.param.opcode =
              some (discoveryComplete
                (asked.param.pdu discovery.oldDevice) errcodeTimeout) := by
          unfold opcode
          split <;> rfl
        have advanced : Advanced discovery.cache.serv asked errcodeTimeout
            discovery.cache.serv := by
          apply advanced_of_leadsOn
          unfold LeadsOn
          split
          · intro _ _ success
            exact absurd success (by decide)
          · constructor
            · intro success
              exact absurd success (by decide)
            · intro inexist
              exact absurd inexist (by decide)
        rw [report, compCb_discoveryComplete]
        exact waiting.answer.discServCompCb waiting.placed advanced _

theorem sound_begin (oldDevice : Bool) (type : UInt8) (uuid : Option Bytes)
    (distinct : (servHandles cache.serv).Nodup) :
    (begin cache oldDevice type uuid).Sound where
  progresses :=
    { increasing := pairwise_singleton _ _
      finite := by simp [begin, ask, maxRequests]
      followed := rfl
      once := rfl }
  waiting := by
    intro asked waits
    cases waits
    exact
      { increasing := pairwise_singleton _ _
        last := ⟨[], rfl⟩
        counted := by simp [begin, ask]
        bounded := rank_services_lt rfl
        distinct := distinct
        silent := rfl
        placed := fun _ later => absurd rfl later
        followed := rfl }

/-- In every run whose answers all lead on, the requests of a discovery come in
order, there are no more of them than places, and the end is reported once. -/
theorem progresses_of_forward (cache : FindCache)
    (distinct : (servHandles cache.serv).Nodup) (oldDevice : Bool)
    (type : UInt8) (uuid : Option Bytes) (events : List DiscoveryEvent)
    (forward : Meets step Forward (begin cache oldDevice type uuid) events) :
    Always step Progresses (begin cache oldDevice type uuid) events :=
  always_of_meets (fun _ sound => sound.progresses) sound_step
    (sound_begin oldDevice type uuid distinct) forward

def emptyCache : FindCache := ⟨[], [], false, []⟩

def oneProperty : List DiscoveryEvent :=
  [.recv [5, 0, 1, 0, 3, 0, 0x34, 0x12, 2], .recv [1, 0, 4, 4, 0, 0x0B],
    .recv [5, 0, 2, 0, 0x78, 0x56, 1, 0, 0, 0, 0],
    .recv [1, 0, 4, 3, 0, 0x0B]]

theorem progresses_oneProperty :
    Always step Progresses (begin emptyCache false 1 none) oneProperty :=
  progresses_of_forward emptyCache nodup_nil false 1 none oneProperty
    ⟨by decide, by decide, by decide, by decide, trivial⟩

/-- A service at the first handle, and then a response without services. -/
def nothingMore : List DiscoveryEvent :=
  [.recv [5, 0, 1, 0, 1, 0, 0x34, 0x12, 0], .recv [5, 0]]

/-- After a response without services the same request is made again. -/
theorem repeats_nothingMore :
    ¬ ∀ (cache : FindCache) (oldDevice : Bool) (type : UInt8)
      (uuid : Option Bytes) (events : List DiscoveryEvent),
      (servHandles cache.serv).Nodup →
        Always step Progresses (begin cache oldDevice type uuid) events := by
  intro always
  have progresses := (always emptyCache false 1 none nothingMore
    nodup_nil).at_end
  have asked : (run step (begin emptyCache false 1 none) nothingMore).asked =
        [⟨⟨1, 1, 0xFFFF, none⟩, none⟩, ⟨⟨1, 2, 0xFFFF, none⟩, none⟩,
          ⟨⟨1, 2, 0xFFFF, none⟩, none⟩] := by
    decide
  have increasing := progresses.increasing
  rw [asked] at increasing
  simp at increasing

end Discovery

end NearLink.Ssap
