import NearLink.Devd.ScanFilter
import NearLink.Keyed
import Mathlib.Data.List.Induction

/-!
# Advertising data and scan responses

`DevdAdvDataReport` of `devd_report_parse.c` with its cache.  Memory is
allocated; what the parser makes of a payload is left open.
-/

namespace NearLink.Devd

open Keyed List Function

/-- The fields of `NLSTK_DevdAdvReportInfo_S` that are read. -/
structure AdvReport where
  addr : AdvAddr
  eventType : UInt8 := 0
  primFrameType : UInt8 := 0
  rssi : UInt8 := 0
  data : List UInt8

structure AdvDataCache where
  addr : AdvAddr
  data : List UInt8

structure ParsedAdv (Parsed : Type) where
  addr : AdvAddr
  rssi : UInt8
  frameType : UInt8
  isConnectable : Bool
  advData : List UInt8
  parsed : Parsed

def maxDeviceCache : Nat := 7

def findAdvDataCache (addr : AdvAddr) (list : List AdvDataCache) :
    Option AdvDataCache :=
  lookup AdvDataCache.addr addr list

/-- The cache at the tail makes room for another. -/
def makeRoom (list : List AdvDataCache) : List AdvDataCache :=
  if maxDeviceCache ≤ list.length then list.dropLast else list

def addAdvDataCache (addr : AdvAddr) (data : List UInt8)
    (list : List AdvDataCache) : Option (AdvDataCache × List AdvDataCache) :=
  if data = [] then none
  else
    match findAdvDataCache addr list with
    | none => some (⟨addr, data⟩, ⟨addr, data⟩ :: makeRoom list)
    | some cache =>
      some ({ cache with data },
        modify AdvDataCache.addr addr ({ · with data }) list)

def appendAdvDataCache (addr : AdvAddr) (data : List UInt8)
    (list : List AdvDataCache) : Option (AdvDataCache × List AdvDataCache) :=
  match findAdvDataCache addr list with
  | none => if data = [] then none else addAdvDataCache addr data list
  | some cache =>
    if data = [] then some (cache, list)
    else
      let newData := cache.data ++ data
      some ({ cache with data := newData },
        modify AdvDataCache.addr addr ({ · with data := newData }) list)

def clearAdvDataCache (addr : AdvAddr) (list : List AdvDataCache) :
    List AdvDataCache :=
  remove AdvDataCache.addr addr list

variable {Parsed : Type} (parse : List UInt8 → Option Parsed)

def getParsedAdvResult (report : AdvReport) (cache : AdvDataCache) :
    Option (ParsedAdv Parsed) :=
  match parse cache.data with
  | none => none
  | some parsed =>
    if cache.data = [] then none
    else some
      { addr := report.addr
        rssi := report.rssi
        frameType := report.primFrameType
        isConnectable := report.eventType &&& 1 ≠ 0
        advData := cache.data
        parsed }

def AdvReport.isScannable (report : AdvReport) : Bool :=
  report.eventType &&& 2 ≠ 0

def AdvReport.isScanRsp (report : AdvReport) : Bool :=
  report.eventType &&& 8 ≠ 0

def advDataReport (list : List AdvDataCache) (report : AdvReport) :
    List AdvDataCache × Option (ParsedAdv Parsed) :=
  if report.primFrameType = 0 ∧ (report.isScannable ∨ report.isScanRsp) then
    if ¬ report.isScanRsp then
      (((addAdvDataCache report.addr report.data list).map Prod.snd).getD list,
        none)
    else
      match appendAdvDataCache report.addr report.data list with
      | none => (list, none)
      | some (cache, list) =>
        (clearAdvDataCache report.addr list,
          getParsedAdvResult parse report cache)
  else if report.data = [] then (list, none)
  else (list, getParsedAdvResult parse report ⟨report.addr, report.data⟩)

def reported (log : List AdvReport) : List AdvDataCache :=
  log.foldl (fun list report => (advDataReport parse list report).1) []

namespace AdvReport

/-- The first of two parts: it waits for its scan response. -/
def Waits (report : AdvReport) : Prop :=
  report.primFrameType = 0 ∧ report.isScannable ∧ report.isScanRsp = false

def Responds (report : AdvReport) : Prop :=
  report.primFrameType = 0 ∧ report.isScanRsp

/-- What is cached for the address is replaced or used. -/
def Touches (report : AdvReport) : Prop :=
  report.Responds ∨ report.Waits ∧ report.data ≠ []

end AdvReport

def combined (list : List AdvDataCache) (report : AdvReport) : List UInt8 :=
  ((findAdvDataCache report.addr list).elim [] AdvDataCache.data) ++ report.data

def addrs (list : List AdvDataCache) : List AdvAddr :=
  list.map AdvDataCache.addr

/-- The cached data of the address is the last that was heard of it, and no
response has used it. -/
def Unused (log : List AdvReport) (cache : AdvDataCache) : Prop :=
  ∃ earlier heard later, log = earlier ++ heard :: later ∧ heard.Waits ∧
    heard.data ≠ [] ∧ (⟨heard.addr, heard.data⟩ : AdvDataCache) = cache ∧
      ∀ report ∈ later, report.Touches → report.addr ≠ cache.addr

/-- The address is cached since the report at this position. -/
def Inserted (log : List AdvReport) (addr : AdvAddr) (position : Nat) : Prop :=
  position < log.length ∧ addr ∉ addrs (reported parse (log.take position)) ∧
    ∀ count, position < count → count ≤ log.length →
      addr ∈ addrs (reported parse (log.take count))

section

variable {list : List AdvDataCache} {report : AdvReport}

theorem makeRoom_sublist : (makeRoom list).Sublist list := by
  unfold makeRoom
  split
  · exact dropLast_sublist list
  · exact .refl list

theorem addrs_makeRoom : (addrs (makeRoom list)).Sublist (addrs list) :=
  makeRoom_sublist.map _

theorem makeRoom_length (few : list.length ≤ maxDeviceCache) :
    (makeRoom list).length < maxDeviceCache := by
  unfold makeRoom
  split
  · rw [length_dropLast]
    unfold maxDeviceCache at few ⊢
    omega
  · omega

theorem advDataReport_waits (waits : report.Waits) :
    advDataReport parse list report =
      (((addAdvDataCache report.addr report.data list).map Prod.snd).getD list,
        none) := by
  unfold advDataReport
  rw [if_pos ⟨waits.1, .inl waits.2.1⟩, if_pos (by simp [waits.2.2])]

theorem findAdvDataCache_added (list : List AdvDataCache) {addr : AdvAddr}
    {data : List UInt8} (carries : data ≠ []) :
    ∃ added, addAdvDataCache addr data list = some added ∧
      findAdvDataCache addr added.2 = some ⟨addr, data⟩ := by
  unfold addAdvDataCache
  rw [if_neg carries]
  cases found : findAdvDataCache addr list with
  | none => exact ⟨_, rfl, if_pos rfl⟩
  | some cache =>
    have named : cache.addr = addr := lookup_key found
    refine ⟨_, rfl, ?_⟩
    have kept : ∀ other : AdvDataCache,
        ({ other with data } : AdvDataCache).addr = other.addr := fun _ => rfl
    unfold findAdvDataCache at found ⊢
    dsimp only
    rw [lookup_modify_self kept, found, ← named]
    rfl

theorem advDataReport_responds (list : List AdvDataCache)
    (responds : report.Responds) :
    ∃ part, part.Sublist list ∧ (makeRoom list).Sublist part ∧
      advDataReport parse list report = (clearAdvDataCache report.addr part,
          getParsedAdvResult parse report
            ⟨report.addr, combined list report⟩) := by
  unfold advDataReport
  rw [if_pos ⟨responds.1, .inr responds.2⟩, if_neg (by simp [responds.2])]
  unfold appendAdvDataCache combined
  cases found : findAdvDataCache report.addr list with
  | none =>
    have absent : ∀ {part : List AdvDataCache}, part.Sublist list →
        clearAdvDataCache report.addr part = part :=
      fun fewer => remove_absent (lookup_eq_none.mpr fun member =>
        lookup_eq_none.mp found ((fewer.map _).subset member))
    by_cases empty : report.data = []
    · refine ⟨list, .refl list, makeRoom_sublist, ?_⟩
      simp [empty, absent (.refl list), getParsedAdvResult]
      split <;> rfl
    · refine ⟨makeRoom list, makeRoom_sublist, .refl _, ?_⟩
      rw [absent makeRoom_sublist]
      simp [empty, addAdvDataCache, found, clearAdvDataCache, remove]
  | some cache =>
    refine ⟨list, .refl list, makeRoom_sublist, ?_⟩
    by_cases empty : report.data = []
    · simp [empty, getParsedAdvResult]
    · simp [empty, getParsedAdvResult, clearAdvDataCache, remove_modify]

theorem advDataReport_alone (list : List AdvDataCache)
    (waits : ¬ report.Waits) (responds : ¬ report.Responds) :
    advDataReport parse list report =
      (list, getParsedAdvResult parse report ⟨report.addr, report.data⟩) := by
  unfold advDataReport
  rw [if_neg]
  · split
    next empty => simp [getParsedAdvResult, empty]; split <;> rfl
    next => rfl
  · rintro ⟨frame, kind⟩
    cases rsp : report.isScanRsp with
    | true => exact responds ⟨frame, rsp⟩
    | false => exact waits ⟨frame, by simpa [rsp] using kind, rsp⟩

/-- What a report may change of the cache. -/
structure Changes (list : List AdvDataCache) (report : AdvReport)
    (after : List AdvDataCache) : Prop where
  caches : ∀ cache ∈ after,
    cache ∈ list ∧ (report.Touches → report.addr ≠ cache.addr) ∨
      report.Waits ∧ report.data ≠ [] ∧ ⟨report.addr, report.data⟩ = cache
  order : (addrs after).Sublist (addrs list) ∨ report.addr ∉ addrs list ∧
      addrs after = report.addr :: addrs (makeRoom list)
  stays : ∀ addr ∈ addrs (makeRoom list), addr ≠ report.addr →
    addr ∈ addrs after

theorem Changes.none (untouched : ∀ cache ∈ list,
    report.Touches → report.addr ≠ cache.addr) : Changes list report list where
  caches cache member := .inl ⟨member, untouched cache member⟩
  order := .inl (.refl _)
  stays _ member _ := addrs_makeRoom.subset member

theorem advDataReport_changes (unique : (addrs list).Nodup) :
    Changes list report (advDataReport parse list report).1 := by
  by_cases waits : report.Waits
  · have silent : ¬ report.Responds := by simp [AdvReport.Responds, waits.2.2]
    rw [advDataReport_waits parse waits, addAdvDataCache]
    by_cases empty : report.data = []
    · rw [if_pos empty]
      exact .none fun _ _ touches => (touches.elim silent (·.2 empty)).elim
    rw [if_neg empty]
    cases found : findAdvDataCache report.addr list with
    | none =>
      have absent := lookup_eq_none.mp found
      constructor
      · refine forall_mem_cons.mpr ⟨.inr ⟨waits, empty, rfl⟩,
          fun cache older => ?_⟩
        have inside := makeRoom_sublist.subset older
        exact .inl ⟨inside, fun _ same =>
          absent (same ▸ mem_map_of_mem inside)⟩
      · exact .inr ⟨absent, rfl⟩
      · exact fun _ member _ => .tail _ member
    | some cache =>
      have same : addrs (modify AdvDataCache.addr report.addr
          ({ · with data := report.data }) list) = addrs list :=
        map_modify fun _ => rfl
      constructor
      · intro cache member
        rcases (mem_modify unique).mp member with
          ⟨inside, other⟩ | ⟨before, _, named, rfl⟩
        · exact .inl ⟨inside, fun _ => Ne.symm other⟩
        · exact .inr ⟨waits, empty, by rw [← named]⟩
      · exact .inl (same ▸ .refl _)
      · exact fun _ member _ => same ▸ addrs_makeRoom.subset member
  by_cases responds : report.Responds
  · have ⟨part, fewer, room, whole⟩ :=
      advDataReport_responds parse list responds
    rw [whole]
    have mem_clear : ∀ cache, cache ∈ clearAdvDataCache report.addr part ↔ _ :=
      fun _ => mem_remove (unique.sublist (fewer.map _))
    constructor
    · intro cache member
      obtain ⟨inside, other⟩ := (mem_clear cache).mp member
      exact .inl ⟨fewer.subset inside, fun _ => Ne.symm other⟩
    · exact .inl ((remove_sublist.trans fewer).map _)
    · intro addr member other
      obtain ⟨cache, held, rfl⟩ := mem_map.mp member
      exact mem_map_of_mem ((mem_clear cache).mpr ⟨room.subset held, other⟩)
  · rw [advDataReport_alone parse list waits responds]
    exact .none fun _ _ touches => (touches.elim responds (waits ·.1)).elim

/-- The cache after a run, newest address first. -/
structure Sound (log : List AdvReport) (list : List AdvDataCache) : Prop where
  unique : (addrs list).Nodup
  few : list.length ≤ maxDeviceCache
  pending : ∀ cache ∈ list, Unused log cache
  order : ∃ position : AdvAddr → Nat,
    (∀ addr ∈ addrs list, Inserted parse log addr (position addr)) ∧
      (addrs list).Pairwise (position · > position ·)

theorem reported_concat (log : List AdvReport) :
    reported parse (log ++ [report]) =
      (advDataReport parse (reported parse log) report).1 := by
  simp [reported]

theorem Inserted.concat {log : List AdvReport} {addr : AdvAddr}
    {position : Nat} (inserted : Inserted parse log addr position)
    (still : addr ∈ addrs (reported parse (log ++ [report]))) :
    Inserted parse (log ++ [report]) addr position := by
  obtain ⟨inside, before, since⟩ := inserted
  refine ⟨by simp; omega, ?_, fun count later few => ?_⟩
  · rwa [take_append_of_le_length (by omega)]
  · by_cases old : count ≤ log.length
    · rw [take_append_of_le_length old]
      exact since count later old
    · rwa [take_of_length_le (by simp; omega)]

theorem Unused.concat {log : List AdvReport} {cache : AdvDataCache}
    (pending : Unused log cache)
    (other : report.Touches → report.addr ≠ cache.addr) :
    Unused (log ++ [report]) cache := by
  obtain ⟨earlier, heard, later, rfl, waits, some, same, quiet⟩ := pending
  refine ⟨earlier, heard, later ++ [report], by simp, waits, some, same, ?_⟩
  refine forall_mem_append.mpr ⟨quiet, fun last now => ?_⟩
  rwa [mem_singleton.mp now]

theorem sound_reported (log : List AdvReport) :
    Sound parse log (reported parse log) := by
  induction log using List.reverseRecOn with
  | nil => exact ⟨.nil, Nat.zero_le _, nofun, fun _ => 0, nofun, .nil⟩
  | append_singleton log report sound =>
    obtain ⟨unique, few, pending, position, inserted, order⟩ := sound
    have step := @advDataReport_changes _ parse _ report unique
    rw [← reported_concat] at step
    have part := @addrs_makeRoom (reported parse log)
    have still : ∀ cache ∈ reported parse (log ++ [report]),
        Unused (log ++ [report]) cache := by
      intro cache member
      rcases step.caches cache member with
        ⟨inside, other⟩ | ⟨waits, some, same⟩
      · exact (pending cache inside).concat other
      · exact ⟨log, report, [], rfl, waits, some, same, nofun⟩
    rcases step.order with fewer | ⟨fresh, same⟩
    · have length := fewer.length_le
      simp only [addrs, length_map] at length
      exact ⟨unique.sublist fewer, length.trans few, still, position,
        fun addr member =>
          (inserted addr (fewer.subset member)).concat parse member,
        order.sublist fewer⟩
    · have moved : ∀ addr ∈ addrs (makeRoom (reported parse log)),
          Function.update position report.addr log.length addr =
            position addr := by
        intro addr member
        refine update_of_ne ?_ ..
        rintro rfl
        exact fresh (part.subset member)
      refine ⟨?_, ?_, still,
        Function.update position report.addr log.length, ?_, ?_⟩
      · rw [same]
        exact nodup_cons.mpr ⟨fun member =>
          fresh (part.subset member), unique.sublist part⟩
      · have length := congrArg List.length same
        have room := makeRoom_length few
        simp only [addrs, length_map, length_cons] at length
        omega
      · intro addr member
        rcases mem_cons.mp (same ▸ member) with rfl | older
        · rw [update_self]
          refine ⟨by simp, by simpa using fresh, fun count later few => ?_⟩
          rwa [take_of_length_le (by simp; omega)]
        · rw [moved addr older]
          exact (inserted addr (part.subset older)).concat parse member
      · rw [same, pairwise_cons]
        constructor
        · intro older member
          rw [update_self, moved older member]
          exact (inserted older (part.subset member)).1
        · refine (order.sublist part).imp_of_mem fun new old later => ?_
          rwa [moved _ new, moved _ old]

end

theorem advDataReport_reassembles (log : List AdvReport) (report : AdvReport) :
    let list := reported parse log
    let after := (advDataReport parse list report).1
    let result := (advDataReport parse list report).2
    ((addrs list).Nodup ∧ list.length ≤ maxDeviceCache ∧
        ∀ cache ∈ list, Unused log cache) ∧
      (report.Responds → result = getParsedAdvResult parse report
            ⟨report.addr, combined list report⟩ ∧
          report.addr ∉ addrs after) ∧
      (report.Waits → result = none ∧ (report.data = [] → after = list) ∧
        (report.data ≠ [] → findAdvDataCache report.addr after =
          some ⟨report.addr, report.data⟩)) ∧
      (¬ report.Waits → ¬ report.Responds →
        after = list ∧ result = getParsedAdvResult parse report
          ⟨report.addr, report.data⟩) ∧
      ∃ position : AdvAddr → Nat,
        (∀ addr ∈ addrs list, Inserted parse log addr (position addr)) ∧
          ∀ lost ∈ addrs list, lost ∉ addrs after → lost ≠ report.addr →
          list.length = maxDeviceCache ∧ ∀ other ∈ addrs list,
            other ≠ lost → position lost < position other := by
  intro list after result
  obtain ⟨unique, few, pending, position, inserted, order⟩ :=
    sound_reported parse log
  have step := @advDataReport_changes _ parse _ report unique
  refine ⟨⟨unique, few, pending⟩, fun responds => ?_, fun waits => ?_,
    fun waits responds => ?_, position, inserted, ?_⟩
  · have ⟨part, fewer, _, whole⟩ := advDataReport_responds parse list responds
    refine ⟨congrArg Prod.snd whole, fun member => ?_⟩
    replace member : report.addr ∈ addrs (advDataReport parse list report).1 :=
      member
    rw [whole] at member
    exact lookup_eq_none.mp (lookup_remove_self
      (unique.sublist (fewer.map _))) member
  · have whole := @advDataReport_waits _ parse list report waits
    refine ⟨congrArg Prod.snd whole, fun empty => ?_, fun carries => ?_⟩
    · change (advDataReport parse list report).1 = list
      rw [whole, addAdvDataCache, if_pos empty]
      rfl
    · change findAdvDataCache _ (advDataReport parse list report).1 = _
      obtain ⟨added, same, found⟩ := findAdvDataCache_added list carries
      rw [whole, same]
      exact found
  · have whole := advDataReport_alone parse list waits responds
    exact ⟨congrArg Prod.fst whole, congrArg Prod.snd whole⟩
  · intro lost inside gone other
    have out : lost ∉ addrs (makeRoom list) := fun member =>
      gone (step.stays lost member other)
    unfold makeRoom at out
    split at out
    next full =>
      have more : list ≠ [] :=
        ne_nil_of_length_pos (Nat.lt_of_lt_of_le (by decide) full)
      have split : addrs list.dropLast ++ [(list.getLast more).addr] =
          addrs list := by
        conv_rhs => rw [← dropLast_append_getLast more]
        simp [addrs]
      rw [← split] at inside
      have last := (mem_append.mp inside).resolve_left out
      refine ⟨Nat.le_antisymm few full, fun older member differs => ?_⟩
      rw [← split] at member order
      have earlier := (mem_append.mp member).resolve_right fun same =>
        differs ((mem_singleton.mp same).trans (mem_singleton.mp last).symm)
      exact (pairwise_append.mp order).2.2 older earlier lost last
    next => exact absurd inside out

/-- A response without data to which nothing is cached is not reported. -/
theorem advDataReport_empty :
    ¬ ∀ (log : List AdvReport) (report : AdvReport), report.Responds →
      ∃ result, (advDataReport some (reported some log) report).2 =
        some result ∧ result.advData = combined (reported some log) report := by
  intro always
  have ⟨_, shown, _⟩ := always []
    { addr := ⟨0, .replicate 6 0⟩, eventType := 8, data := [] } ⟨rfl, rfl⟩
  contradiction

end NearLink.Devd
