import NearLink.Cm.ConcurrentInvariant

/-!
# How direct connections end

A module that is connecting directly to an address is told once when this
ends without a connection, and nobody else is told of a failure.  The code
keeps to this in every run in which no request fails that shares its address
with the direct connection of another module, no timeout is followed by a
failure of the layers below, a removal finds a device whose modules are not
both direct and in the background, and a failed collaboration finds no direct
connection.
-/

namespace NearLink.Cm

open Keyed Transition List Nat ConnectingDev

namespace Lower

def starts (lower : Lower) (count : Nat) : Bool :=
  if lower.needCollab then lower.collab
  else (List.range count).all lower.filter && lower.establish

def timerFree (lower : Lower) (table : ConnTable) : Bool :=
  lower.timer.any fun id =>
    id != 0 && ! (table.timers.map ConnTimer.id).contains id

def grantsDirect (lower : Lower) (table : ConnTable) : Bool :=
  lower.nodeMem 0 && lower.directMapMem && lower.keyMem && lower.argsMem &&
    lower.alarmMem && lower.cellMem && lower.timerFree table &&
    lower.cancel && lower.starts (table.devices.length + 1)

def grantsBackground (lower : Lower) (table : ConnTable) (count : Nat) :
    Bool :=
  (List.range count).all lower.nodeMem && (List.range count).all lower.bgMem &&
    lower.cancel && lower.starts (table.devices.length + count)

end Lower

def LinkReport.ends (report : LinkReport) (moduleId : UInt8) (addr : SleAddr) : Bool :=
  report.moduleId == moduleId && report.addr == addr &&
    report.result == .disconnected

namespace ConnTable

variable {table other : ConnTable} {dev : ConnectingDev} {addr : SleAddr}
  {moduleId : UInt8} {lower : Lower} {index count : Nat}

/-- How often the last task has told a module that an address is
disconnected. -/
def told (table : ConnTable) (moduleId : UInt8) (addr : SleAddr) : Nat :=
  table.reports.countP fun report => report.ends moduleId addr

def Asks (table : ConnTable) (event : ConnEvent × Lower) (moduleId : UInt8)
    (addr : SleAddr) : Prop :=
  event.1.accepted = true ∧
    (∃ frameType, event.1 = .directConnectAdd moduleId addr frameType) ∧
    table.sizeConnectingDev ≤ maxConnectingDevNum ∧
    event.2.connected addr = false

/-- From one table to the next, the end of a direct connection is told once
unless the address connects, and no failure is told to a module that is not
connecting directly. -/
structure Informs (before after : ConnTable)
    (asks : UInt8 → SleAddr → Prop) (connects : SleAddr → Prop) : Prop where
  ongoing : ∀ moduleId addr, after.directEntry addr moduleId ≠ none →
    after.told moduleId addr = 0
  connected : ∀ moduleId addr,
    before.directEntry addr moduleId ≠ none ∨ asks moduleId addr →
      after.directEntry addr moduleId = none → connects addr →
        after.told moduleId addr = 0
  ended : ∀ moduleId addr,
    before.directEntry addr moduleId ≠ none ∨ asks moduleId addr →
      after.directEntry addr moduleId = none → ¬ connects addr →
        after.told moduleId addr = 1
  entered : ∀ moduleId addr, before.directEntry addr moduleId = none →
    after.directEntry addr moduleId ≠ none → asks moduleId addr
  others : ∀ moduleId addr, before.directEntry addr moduleId = none →
    ¬ asks moduleId addr → ∀ report ∈ after.reports,
      report.ends moduleId addr = true → report.discReason = dliSuccess

def LearnsEnd (table : ConnTable) (event : ConnEvent × Lower) : Prop :=
  Informs table (table.step event) (table.Asks event) fun addr =>
    event.1 = .doingComplete addr .connected

def LastWanted (table : ConnTable) : Prop :=
  ∃ dev, table.devices = [dev] ∧ dev.doingBgConnSet = [] ∧ dev.direct.length = 1

def Careful (table : ConnTable) (event : ConnEvent × Lower) : Prop :=
  event.1.Supported ∧
    match event.1 with
    | .directConnectAdd moduleId addr _ =>
      event.2.grantsDirect table = true ∨
        ∀ other, other ≠ moduleId → table.directEntry addr other = none
    | .backgroundConnectAdd _ bgAddrs =>
      event.2.grantsBackground table bgAddrs.length = true ∨
        ∀ addr ∈ bgAddrs.map BgConnAddr.addr, ∀ moduleId,
          table.directEntry addr moduleId = none
    | .directConnectRemove _ addr _ =>
      match event.2.link addr with
      | some ⟨.connected, _⟩ => event.2.release = true
      | some ⟨.disconnecting, _⟩ => True
      | _ => table.connectingDevFind addr ≠ none ∧
          ∀ moduleId, table.bgEntry addr moduleId ≠ none →
            table.directEntry addr moduleId = none
    | .timer handle =>
      lookup ConnTimer.id handle table.timers = none ∨ event.2.cancel = true ∧
          (table.LastWanted ∨ event.2.starts table.devices.length = true)
    | .collabFailed => ∀ addr moduleId,
        table.directEntry addr moduleId = none
    | _ => True

theorem resetAllowList_granted {filter : Nat → Bool} {devs : List ConnectingDev}
    (granted : ∀ later, later < index + devs.length → filter later = true) :
    (resetAllowList filter index devs).2.2 = true := by
  induction devs generalizing index with
  | nil => rfl
  | cons dev devs induction =>
    rw [length_cons] at granted
    unfold resetAllowList
    rw [if_pos (granted index (by omega))]
    apply induction
    intro later within
    exact granted later (by omega)

theorem Formed.start_granted (formed : table.Formed)
    (granted : lower.starts count = true)
    (within : table.devices.length ≤ count) (directConnAddr : Option SleAddr) :
    (table.startAllowListConnReq lower directConnAddr).2 = true := by
  unfold startAllowListConnReq setConnectParamAndResetAllowList
  by_cases empty : table.devices.isEmpty
  · have zero : table.sizeConnectingDev = 0 := by
      rw [formed.size, isEmpty_iff.mp empty]
      rfl
    simp [empty, zero]
  · have filled : table.devices.isEmpty = false := Bool.eq_false_iff.mpr empty
    unfold Lower.starts at granted
    by_cases need : lower.needCollab
    · rw [if_pos need] at granted
      simp [filled, need, granted]
    · have alone : lower.needCollab = false := Bool.eq_false_iff.mpr need
      rw [if_neg need, Bool.and_eq_true, all_eq_true] at granted
      have reset :
          (resetAllowList lower.filter 0 table.devices).2.2 = true := by
        apply resetAllowList_granted
        intro later below
        exact granted.1 later (mem_range.mpr (by omega))
      simp only [filled, alone, Bool.not_false, Bool.and_false,
        Bool.false_eq_true, if_false, reset, if_true]
      split
      · rfl
      · exact granted.2

theorem timerAdd_granted (free : lower.timerFree table = true)
    (fewer : ConnTable) (subset : fewer.timers ⊆ table.timers)
    (moduleId : UInt8) (addr : SleAddr) :
    ∃ id added, fewer.timerAdd lower.timer moduleId addr =
      some (id, added) := by
  unfold Lower.timerFree at free
  cases offered : lower.timer with
  | none =>
    rw [offered] at free
    cases free
  | some id =>
    rw [offered] at free
    simp only [Option.any_some, Bool.and_eq_true, bne_iff_ne, ne_eq,
      Bool.not_eq_true', contains_eq_mem, decide_eq_false_iff_not] at free
    have unused : ¬ (id = 0 ∨ id ∈ fewer.timers.map ConnTimer.id) := by
      rintro (zero | member)
      · exact free.1 zero
      · exact free.2 (map_subset _ subset member)
    exact ⟨id, _, if_neg unused⟩

theorem put_length (table : ConnTable) (dev : ConnectingDev) :
    (table.put dev).devices.length = table.devices.length :=
  length_modify

section

variable (formed : table.Formed)
  (located : table.connectingDevFind addr = some dev)
include formed located

theorem insert_granted (absent : dev.directFind moduleId = none)
    (keyMem : lower.keyMem = true) (argsMem : lower.argsMem = true)
    (alarmMem : lower.alarmMem = true) (cellMem : lower.cellMem = true)
    (free : lower.timerFree table = true) (cancel : lower.cancel = true)
    (starts : lower.starts count = true) (within : table.devices.length ≤ count)
    (frameType : UInt8) :
    (table.doingConnDirectInsert lower dev moduleId addr frameType).2 =
      true := by
  obtain ⟨id, added, result⟩ :=
    timerAdd_granted free table (List.Subset.refl _) moduleId addr
  unfold doingConnDirectInsert
  simp only [keyMem, argsMem, alarmMem, result, cancel, cellMem,
    Bool.and_self, Bool.not_true, Bool.false_eq_true, if_false]
  obtain ⟨-, unused, rfl⟩ := timerAdd_some result
  have inserted := (entered_doing formed located absent frameType
    unused).quiet (.command _ .connectCancel)
  obtain ⟨ready, -, -⟩ := inserted.entered rfl
  have started := ready.start_granted starts
    ((put_length table _).trans_le within) (some addr)
  split
  · rfl
  next failure =>
    exact absurd started failure

theorem directConnectDoing_granted (keyMem : lower.keyMem = true)
    (argsMem : lower.argsMem = true) (alarmMem : lower.alarmMem = true)
    (cellMem : lower.cellMem = true) (free : lower.timerFree table = true)
    (cancel : lower.cancel = true) (starts : lower.starts count = true)
    (within : table.devices.length ≤ count) (moduleId frameType : UInt8) :
    (table.directConnectDoing lower dev moduleId addr frameType).2 =
      true := by
  have proper := formed.devs dev (find_mem located).1
  unfold directConnectDoing
  rw [doing_find proper]
  cases found : dev.directFind moduleId with
  | some conn =>
    obtain ⟨id, added, result⟩ := timerAdd_granted free
      (table.timerDel conn.timerId) (filter_subset_self _)
      conn.moduleId conn.addr
    have restarted : (table.restartTimer lower dev conn).2 = true := by
      unfold restartTimer
      dsimp only
      rw [result]
    simp [restarted]
  | none =>
    dsimp only
    split
    · exact insert_granted formed located found keyMem argsMem alarmMem
        cellMem free cancel starts within frameType
    · have alike := report_alike table
        ⟨moduleId, invalidLcid, addr, .connecting, 0⟩
      exact insert_granted (alike.formed formed) located found keyMem
        argsMem alarmMem cellMem free cancel starts within frameType

end

theorem create_granted (table : ConnTable) (addr : SleAddr) :
    ∃ created dev,
      table.createAppModuleConnectingDev true addr = some (created, dev) ∧
        created.timers = table.timers ∧
        created.devices.length ≤ table.devices.length + 1 := by
  unfold createAppModuleConnectingDev
  cases table.connectingDevFind addr with
  | some dev => exact ⟨table, dev, rfl, rfl, le_succ _⟩
  | none => exact ⟨_, _, rfl, rfl, le_refl _⟩

theorem Formed.direct_granted (formed : table.Formed)
    (supported : addr.Supported) (named : addr ≠ SleAddr.empty)
    (granted : lower.grantsDirect table = true) (moduleId frameType : UInt8) :
    (table.directConnectDoingConnList lower moduleId addr frameType).2 =
      true := by
  simp only [Lower.grantsDirect, Bool.and_eq_true] at granted
  obtain ⟨⟨⟨⟨⟨⟨⟨⟨nodeMem, mapMem⟩, keyMem⟩, argsMem⟩, alarmMem⟩, cellMem⟩,
    free⟩, cancel⟩, starts⟩ := granted
  obtain ⟨created, found, result, timers, length⟩ :=
    create_granted table addr
  obtain ⟨formedNew, located, -⟩ := formed.create supported named result
  have proper := formedNew.devs found (find_mem located).1
  unfold directConnectDoingConnList
  simp only [nodeMem, result, mapMem, Bool.not_true, Bool.and_false,
    Bool.false_eq_true, if_false]
  have formedDev : { found with moduleId := moduleId }.Formed :=
    proper.congr rfl rfl rfl
  have serial := createMap_serial { found with moduleId := moduleId }
  have kept := createMap_addr { found with moduleId := moduleId }
  have direct := createMap_direct { found with moduleId := moduleId }
  refine directConnectDoing_granted
    (formedNew.put located serial kept formedDev.createMap direct) ?_ keyMem
    argsMem alarmMem cellMem ?_ cancel starts ?_ moduleId frameType
  · rw [formedNew.find_put located serial kept, if_pos rfl]
  · unfold Lower.timerFree at free ⊢
    rw [← timers] at free
    exact free
  · rw [put_length]
    exact length

theorem bgConnectAddOne_granted (table : ConnTable) (bgAddr : BgConnAddr)
    (nodeMem : lower.nodeMem index = true) (bgMem : lower.bgMem index = true)
    (moduleId : UInt8) :
    (table.bgConnectAddOne lower moduleId index bgAddr).2.2 = true ∧
      (table.bgConnectAddOne lower moduleId index
        bgAddr).1.devices.length ≤ table.devices.length + 1 := by
  have inserted (current : ConnTable) :
      (current.bgConnectInsert lower moduleId index bgAddr).2.2 = true ∧
        (current.bgConnectInsert lower moduleId index
          bgAddr).1.devices.length ≤ current.devices.length + 1 := by
    obtain ⟨created, dev, result, -, length⟩ :=
      create_granted current bgAddr.addr
    unfold bgConnectInsert
    split
    · exact ⟨rfl, le_succ _⟩
    · simp only [nodeMem, result]
      exact ⟨trivial, (put_length created _).trans_le length⟩
  unfold bgConnectAddOne
  split
  · exact ⟨rfl, le_succ _⟩
  cases table.connectingDevFind bgAddr.addr with
  | none => exact inserted table
  | some dev =>
    dsimp only
    cases dev.doingConnBgFind moduleId with
    | some conn =>
      refine ⟨rfl, ?_⟩
      exact (put_length table _).trans_le (le_succ _)
    | none => exact inserted _

variable {bgAddrs : List BgConnAddr}

theorem bgConnectAddList_granted (index : Nat)
    (nodeMem : ∀ later, later < index + bgAddrs.length →
      lower.nodeMem later = true)
    (bgMem : ∀ later, later < index + bgAddrs.length → lower.bgMem later = true)
    (moduleId : UInt8) (table : ConnTable) :
    (bgConnectAddDoingConnBgList lower moduleId index bgAddrs table).2.2 =
        true ∧
      (bgConnectAddDoingConnBgList lower moduleId index bgAddrs
        table).1.devices.length ≤ table.devices.length + bgAddrs.length := by
  induction bgAddrs generalizing index table with
  | nil => exact ⟨rfl, le_refl _⟩
  | cons bgAddr bgAddrs induction =>
    rw [length_cons] at nodeMem bgMem ⊢
    have one := bgConnectAddOne_granted table bgAddr
      (nodeMem index (by omega)) (bgMem index (by omega)) moduleId
    have rest := induction (index + 1)
      (fun later within => nodeMem later (by omega))
      (fun later within => bgMem later (by omega))
      (table.bgConnectAddOne lower moduleId index bgAddr).1
    unfold bgConnectAddDoingConnBgList
    rw [if_pos one.1]
    refine ⟨rest.1, rest.2.trans ?_⟩
    omega

theorem Formed.background_granted (formed : table.Formed)
    (supported : ∀ bgAddr ∈ bgAddrs, bgAddr.addr.Supported)
    (granted : lower.grantsBackground table bgAddrs.length = true)
    (moduleId : UInt8) :
    (table.bgConnectAddAll lower moduleId bgAddrs).2 = true := by
  simp only [Lower.grantsBackground, Bool.and_eq_true, all_eq_true,
    mem_range] at granted
  obtain ⟨⟨⟨nodeMem, bgMem⟩, cancel⟩, starts⟩ := granted
  have listed := bgConnectAddList_granted 0
    (by simpa using nodeMem) (by simpa using bgMem) moduleId table
  have listing := bgConnectAddList_listing lower moduleId formed supported 0
  unfold bgConnectAddAll restartAllowListConnReq
  simp only [listed.1, Bool.not_true, Bool.false_eq_true, if_false, cancel,
    if_true]
  split_ifs
  · rfl
  · exact (listing.kept.formed.command _).start_granted starts listed.2 none
  · exact listing.kept.formed.start_granted starts listed.2 none

section

variable (silent : Silent table.begin other) {report : LinkReport}
include silent

theorem Silent.reports (member : report ∈ other.reports) :
    report.result ≠ .disconnected := by
  obtain ⟨sent, reports, quiet⟩ := silent
  rw [reports] at member
  exact quiet report (by simpa [begin] using member)

theorem Silent.not_ends (member : report ∈ other.reports) (moduleId : UInt8)
    (addr : SleAddr) : report.ends moduleId addr = false := by
  have differs := silent.reports member
  simp [LinkReport.ends, differs]

theorem Silent.told (moduleId : UInt8) (addr : SleAddr) :
    other.told moduleId addr = 0 := by
  unfold ConnTable.told
  rw [countP_eq_zero]
  intro report member
  simp [silent.not_ends member]

end

theorem begin_directEntry (table : ConnTable) (addr : SleAddr)
    (moduleId : UInt8) :
    table.begin.directEntry addr moduleId =
      table.directEntry addr moduleId := rfl

variable {connects : SleAddr → Prop} {asks : UInt8 → SleAddr → Prop}
  {result : ConnTable × Bool} {frameType client : UInt8} {Item : Type*}

theorem Informs.of_silent (silent : Silent table.begin other)
    (kept : ∀ moduleId addr, table.directEntry addr moduleId ≠ none ∨
      asks moduleId addr → other.directEntry addr moduleId = none →
        connects addr)
    (entered : ∀ moduleId addr, table.directEntry addr moduleId = none →
      other.directEntry addr moduleId ≠ none → asks moduleId addr) :
    Informs table other asks connects := by
  refine ⟨fun moduleId addr _ => silent.told moduleId addr,
    fun moduleId addr _ _ _ => silent.told moduleId addr, ?_, entered, ?_⟩
  · intro moduleId addr held gone unconnected
    exact absurd (kept moduleId addr held gone) unconnected
  · intro moduleId addr _ _ report member ends
    rw [silent.not_ends member] at ends
    cases ends

theorem Informs.of_kept (kept : Kept table.begin other)
    (unasked : ∀ moduleId addr, ¬ asks moduleId addr) :
    Informs table other asks connects := by
  have entries (moduleId : UInt8) (addr : SleAddr) :
      other.directEntry addr moduleId = table.directEntry addr moduleId :=
    kept.entries addr moduleId
  apply Informs.of_silent kept.silent
  · intro moduleId addr held gone
    rw [entries] at gone
    rcases held with held | asked
    · exact absurd gone held
    · exact absurd asked (unasked moduleId addr)
  · intro moduleId addr absent present
    rw [entries] at present
    exact absurd absent present

theorem told_append {reports : List LinkReport} {sent : LinkReport}
    (quiet : ∀ report ∈ reports, report.result ≠ .disconnected)
    (moduleId : UInt8) (addr : SleAddr) :
    (reports ++ [sent]).countP (fun report => report.ends moduleId addr) =
      if sent.ends moduleId addr then 1 else 0 := by
  have none : reports.countP (fun report => report.ends moduleId addr) =
      0 := by
    rw [countP_eq_zero]
    intro report member
    have differs := quiet report member
    simp [LinkReport.ends, differs]
  rw [countP_append, none, countP_singleton, zero_add]

theorem Informs.of_told {earlier : ConnTable} {moduleId : UInt8}
    {addr : SleAddr} {discReason : UInt8} (silent : Silent table.begin earlier)
    (reports : other.reports = earlier.reports ++
      [⟨moduleId, invalidLcid, addr, .disconnected, discReason⟩])
    (held : table.directEntry addr moduleId ≠ none ∨ asks moduleId addr)
    (gone : other.directEntry addr moduleId = none)
    (unconnected : ¬ connects addr)
    (others : ∀ client wanted, ¬ (client = moduleId ∧ wanted = addr) →
      other.directEntry wanted client = table.directEntry wanted client ∧
        ¬ asks client wanted) : Informs table other asks connects := by
  have count (client : UInt8) (wanted : SleAddr) :
      other.told client wanted =
        if client = moduleId ∧ wanted = addr then 1 else 0 := by
    unfold told
    rw [reports, told_append fun report member => silent.reports member]
    by_cases same : client = moduleId ∧ wanted = addr
    · simp [LinkReport.ends, same.1, same.2]
    · have differs : ¬ (moduleId = client ∧ addr = wanted) := by
        rintro ⟨rfl, rfl⟩
        exact same ⟨rfl, rfl⟩
      simp [LinkReport.ends, same, differs]
  constructor
  · intro client wanted present
    rw [count, if_neg]
    rintro ⟨rfl, rfl⟩
    exact present gone
  · intro client wanted began absent connected
    rw [count, if_neg]
    rintro ⟨rfl, rfl⟩
    exact unconnected connected
  · intro client wanted began absent _
    rw [count]
    by_cases same : client = moduleId ∧ wanted = addr
    · rw [if_pos same]
    · obtain ⟨entry, unasked⟩ := others client wanted same
      rw [entry] at absent
      rcases began with present | asked
      · exact absurd absent present
      · exact absurd asked unasked
  · intro client wanted absent present
    by_cases same : client = moduleId ∧ wanted = addr
    · obtain ⟨rfl, rfl⟩ := same
      exact absurd gone present
    · rw [(others client wanted same).1] at present
      exact absurd absent present
  · intro client wanted absent unasked report member ends
    rw [reports] at member
    rcases mem_append.mp member with early | last
    · rw [silent.not_ends early] at ends
      cases ends
    · rw [mem_singleton.mp last] at ends
      simp only [LinkReport.ends, Bool.and_eq_true, beq_iff_eq,
        and_true] at ends
      obtain ⟨rfl, rfl⟩ := ends
      rcases held with present | asked
      · exact absurd absent present
      · exact absurd asked unasked

theorem Doing.failed_entries (doing : Doing table moduleId addr result)
    (failure : result.2 = false)
    (alone : ∀ client, client ≠ moduleId → table.directEntry addr client = none)
    (wanted : SleAddr) (client : UInt8)
    (differs : ¬ (client = moduleId ∧ wanted = addr)) :
    (result.1.eraseConnectingDev addr).directEntry wanted client =
      table.directEntry wanted client := by
  by_cases same : wanted = addr
  · have foreign : client ≠ moduleId := fun equal =>
      differs ⟨equal, same⟩
    rw [same, alone client foreign]
    unfold directEntry
    rw [(doing.cleared failure).2]
    rfl
  · apply directEntry_congr
    rw [find_erase_ne same]
    exact doing.elsewhere wanted same

theorem Doing.entered_entries (doing : Doing table moduleId addr result)
    (success : result.2 = true) (wanted : SleAddr) (client : UInt8)
    (differs : ¬ (client = moduleId ∧ wanted = addr)) :
    result.1.directEntry wanted client = table.directEntry wanted client := by
  by_cases same : wanted = addr
  · rw [same]
    exact (doing.entered success).2.2 client fun equal =>
      differs ⟨equal, same⟩
  · exact directEntry_congr (doing.elsewhere wanted same) client

theorem asks_iff {wanted : SleAddr} :
    table.Asks (.directConnectAdd moduleId addr frameType, lower) client
        wanted ↔
      ConnEvent.accepted (.directConnectAdd moduleId addr frameType) = true ∧
        (client = moduleId ∧ wanted = addr) ∧
        table.sizeConnectingDev ≤ maxConnectingDevNum ∧
        lower.connected addr = false := by
  constructor
  · rintro ⟨accepted, ⟨_, same⟩, room, free⟩
    cases same
    exact ⟨accepted, ⟨rfl, rfl⟩, room, free⟩
  · rintro ⟨accepted, ⟨rfl, rfl⟩, room, free⟩
    exact ⟨accepted, ⟨frameType, rfl⟩, room, free⟩

theorem Invariant.learns_directAdd (invariant : table.Invariant)
    (careful : table.Careful (.directConnectAdd moduleId addr frameType,
      lower)) :
    table.LearnsEnd (.directConnectAdd moduleId addr frameType, lower) := by
  obtain ⟨supported, shared⟩ := careful
  have start := (begin_alike table).formed invariant.formed
  unfold LearnsEnd ConnTable.step
  split
  next accepted =>
    show Informs table
      (table.begin.directConnectAddInner lower moduleId addr frameType) _ _
    have named : addr ≠ SleAddr.empty := by
      simp only [ConnEvent.accepted, Bool.and_eq_true, bne_iff_ne,
        ne_eq] at accepted
      exact accepted.2
    have supportedAddr : addr.Supported :=
      supported addr (by simp [ConnEvent.requested])
    have doing := directConnectDoingConnList_doing start lower supportedAddr
      named moduleId frameType
    unfold directConnectAddInner
    split
    next full =>
      refine .of_kept (.refl start) ?_
      intro client wanted asked
      exact absurd (asks_iff.mp asked).2.2.1 (not_le.mpr full)
    split
    next connected =>
      refine .of_kept (.refl start) ?_
      intro client wanted asked
      rw [(asks_iff.mp asked).2.2.2] at connected
      cases connected
    rename_i room free
    have asked : table.Asks
        (.directConnectAdd moduleId addr frameType, lower) moduleId addr :=
      asks_iff.mpr ⟨accepted, ⟨rfl, rfl⟩, not_lt.mp room,
        Bool.eq_false_iff.mpr free⟩
    dsimp only
    split
    next success =>
      obtain ⟨-, ⟨conn, entry⟩, -⟩ := doing.entered success
      apply Informs.of_silent doing.silent
      · intro client wanted held gone
        by_cases same : client = moduleId ∧ wanted = addr
        · rw [same.1, same.2, entry] at gone
          cases gone
        · rw [doing.entered_entries success wanted client same] at gone
          rcases held with held | asked
          · exact absurd gone held
          · exact absurd (asks_iff.mp asked).2.1 same
      · intro client wanted absent present
        by_cases same : client = moduleId ∧ wanted = addr
        · rw [same.1, same.2]
          exact asked
        · rw [doing.entered_entries success wanted client same] at present
          exact absurd absent present
    next failure =>
      have failed := Bool.eq_false_iff.mpr failure
      have alone : ∀ client, client ≠ moduleId →
          table.directEntry addr client = none := by
        rcases shared with granted | alone
        · exact absurd (start.direct_granted supportedAddr named granted
            moduleId frameType) failure
        · exact alone
      have alike := (report_alike (table.begin.directConnectDoingConnList
        lower moduleId addr frameType).1 ⟨moduleId, invalidLcid, addr,
          .disconnected, dliMemoryCapacityExceeded⟩).erase addr
      refine .of_told doing.silent (erase_reports _ addr)
        (.inr asked) ?_ (by simp) ?_
      · refine (directEntry_congr (alike.find addr) moduleId).trans ?_
        unfold directEntry
        rw [(doing.cleared failed).2]
        rfl
      · intro client wanted differs
        refine ⟨(directEntry_congr (alike.find wanted) client).trans
          (doing.failed_entries failed alone wanted client differs), ?_⟩
        intro asked
        exact differs (asks_iff.mp asked).2.1
  next refused =>
    refine .of_kept (.refl start) ?_
    intro client wanted asked
    exact refused asked.1

theorem Invariant.learns_bgAdd (invariant : table.Invariant)
    (careful : table.Careful (.backgroundConnectAdd moduleId bgAddrs, lower)) :
    Kept table.begin
      (table.begin.bgConnectAddInner lower moduleId bgAddrs) := by
  obtain ⟨supported, shared⟩ := careful
  have start := (begin_alike table).formed invariant.formed
  have supportedAddrs : ∀ bgAddr ∈ bgAddrs, bgAddr.addr.Supported :=
    fun bgAddr member => supported bgAddr.addr (mem_map_of_mem member)
  have listing := bgConnectAddAll_listing start lower moduleId supportedAddrs
  unfold bgConnectAddInner
  split
  · exact .refl start
  split
  · exact .refl start
  dsimp only
  split
  · exact listing.kept
  next failure =>
    have alone : ∀ addr ∈ bgAddrs.map BgConnAddr.addr, ∀ moduleId,
        table.directEntry addr moduleId = none := by
      rcases shared with granted | alone
      · exact absurd (start.background_granted supportedAddrs granted
          moduleId) failure
      · exact alone
    have formed := listing.kept.formed
    refine ⟨formed.destroy _,
      listing.kept.silent.trans (.of_eq (destroy_reports _ _)), ?_⟩
    intro addr client
    by_cases member : addr ∈ bgAddrs.map BgConnAddr.addr
    · rw [begin_directEntry, alone addr member client]
      unfold directEntry
      rw [formed.find_destroy, if_pos member]
      rfl
    · rw [← listing.kept.entries addr client]
      apply directEntry_congr
      rw [formed.find_destroy, if_neg member]

theorem Formed.expire_entries (formed : table.Formed)
    (located : table.connectingDevFind addr = some dev)
    (moduleId : UInt8) (wanted : SleAddr) (client : UInt8) :
    (table.directConnExpire moduleId addr).directEntry wanted client =
      if client = moduleId ∧ wanted = addr then none
      else table.directEntry wanted client := by
  have proper := formed.devs dev (find_mem located).1
  unfold directConnExpire
  rw [located]
  unfold directEntry
  rw [formed.find_expire located]
  by_cases here : wanted = addr
  · have left := directFind_eraseDirect proper moduleId client
    have unwanted : ¬ (dev.eraseDirect moduleId).Wanted →
        (dev.eraseDirect moduleId).directFind client = none := by
      intro idle
      unfold ConnectingDev.Wanted at idle
      rw [not_or, not_not] at idle
      unfold ConnectingDev.directFind
      rw [idle.1]
      rfl
    have value : (if (dev.eraseDirect moduleId).Wanted then
        some (dev.eraseDirect moduleId) else none).bind
          (fun node => node.directFind client) =
        (dev.eraseDirect moduleId).directFind client := by
      split
      · rfl
      next idle =>
        exact (unwanted idle).symm
    simp only [here, if_true, and_true, located, Option.bind_some, value, left]
  · simp only [here, if_false, and_false]

section

variable (table : ConnTable)

theorem expire_silent (moduleId : UInt8) (addr : SleAddr) :
    (table.directConnExpire moduleId addr).reports = table.reports := by
  unfold directConnExpire
  split
  · rfl
  · simp

theorem erase_length (addr : SleAddr) :
    (table.eraseConnectingDev addr).devices.length ≤
      table.devices.length := by
  unfold eraseConnectingDev
  split
  · exact remove_sublist.length_le
  · exact le_refl _

theorem expire_length (moduleId : UInt8) (addr : SleAddr) :
    (table.directConnExpire moduleId addr).devices.length ≤
      table.devices.length := by
  have erased (dev : ConnectingDev) :
      (table.eraseDoingDirectConnMap dev moduleId).devices.length ≤
        table.devices.length := by
    unfold eraseDoingDirectConnMap
    cases dev.directFind moduleId <;> exact (put_length table _).le
  unfold directConnExpire tryDestroyConnectingDevEmptyNode
  split
  · exact le_refl _
  next dev _ =>
    split
    · exact (erase_length _ addr).trans (erased dev)
    · exact erased dev

end

theorem Invariant.expire_last (invariant : table.Invariant)
    (last : table.LastWanted)
    (located : table.connectingDevFind addr = some dev)
    {conn : DirectConn} (found : dev.directFind moduleId = some conn) :
    (table.directConnExpire moduleId addr).devices = [] := by
  obtain ⟨only, devices, idle, single⟩ := last
  have member := (find_mem located).1
  rw [devices, mem_singleton] at member
  subst member
  have formed := invariant.formed
  have proper := formed.devs dev (find_mem located).1
  have after := (invariant.expire moduleId addr)
  rw [eq_nil_iff_forall_not_mem]
  intro node inside
  have reached := after.formed.find_of_mem inside
  unfold directConnExpire at reached
  rw [located] at reached
  rw [formed.find_expire located] at reached
  have unwanted : ¬ (dev.eraseDirect moduleId).Wanted := by
    have length := length_remove_of_lookup found
    unfold ConnectingDev.Wanted
    rw [eraseDirect_direct proper, (eraseDirect_kept ..).2.2, idle]
    intro either
    rcases either with filled | filled
    · apply filled
      rw [← length_eq_zero_iff]
      omega
    · exact filled rfl
  by_cases same : node.addr = addr
  · simp [same, unwanted] at reached
  · rw [if_neg same] at reached
    have old := (find_mem reached).1
    rw [devices, mem_singleton] at old
    exact same (old ▸ (find_mem located).2)

theorem Formed.startRemaining_granted (formed : table.Formed)
    (able : table.devices = [] ∨ lower.starts table.devices.length = true) :
    (table.startRemaining lower).2 = true := by
  unfold startRemaining
  split
  · rfl
  next filled =>
    rcases able with empty | starts
    · exact absurd (isEmpty_iff.mpr empty) filled
    · exact formed.start_granted starts (le_refl _) none

theorem starts_fewer {fewer : Nat} (within : fewer ≤ count)
    (starts : lower.starts count = true) : lower.starts fewer = true := by
  unfold Lower.starts at starts ⊢
  split
  next need =>
    rwa [if_pos need] at starts
  next alone =>
    rw [if_neg alone, Bool.and_eq_true, all_eq_true] at starts
    rw [Bool.and_eq_true, all_eq_true]
    refine ⟨?_, starts.2⟩
    intro index member
    apply starts.1 index
    rw [mem_range] at member ⊢
    omega

theorem Invariant.learns_timer (invariant : table.Invariant) {handle : Nat}
    (careful : table.Careful (.timer handle, lower)) :
    table.LearnsEnd (.timer handle, lower) := by
  have start : table.begin.Invariant := invariant.alike (begin_alike table)
  have unasked (client : UInt8) (wanted : SleAddr) :
      ¬ table.Asks (.timer handle, lower) client wanted := by
    rintro ⟨-, ⟨_, same⟩, -⟩
    cases same
  show Informs table (table.begin.timerProc lower handle) _ _
  cases fired : lookup ConnTimer.id handle table.begin.timers with
  | none =>
    have same : table.begin.timerProc lower handle = table.begin := by
      unfold ConnTable.timerProc
      rw [fired]
    rw [same]
    exact .of_kept (.refl start.formed) unasked
  | some timer =>
    obtain ⟨dev, conn, located, found, -⟩ :=
      start.formed.timer_entry (lookup_mem fired)
    have alike : Alike _ (table.begin.timerProc lower handle) :=
      start.timer_alike fired
    have entries := start.formed.expire_entries located timer.moduleId
    have held : table.directEntry timer.addr timer.moduleId ≠ none := by
      rw [← begin_directEntry]
      unfold directEntry
      rw [located, Option.bind_some, found]
      exact Option.some_ne_none conn
    have running : lookup ConnTimer.id handle table.timers ≠ none := by
      rw [show lookup ConnTimer.id handle table.timers = some timer from
        fired]
      exact Option.some_ne_none timer
    obtain ⟨cancel, able⟩ := careful.2.resolve_left running
    have expired := (start.expire timer.moduleId timer.addr).formed.command
      .connectCancel
    have started : (((table.begin.directConnExpire timer.moduleId
        timer.addr).command .connectCancel).startRemaining lower).2 =
          true := by
      apply expired.startRemaining_granted
      rcases able with last | starts
      · exact .inl (start.expire_last last located found)
      · exact .inr (starts_fewer (expire_length table.begin
          timer.moduleId timer.addr) starts)
    have quiet := (Quiet.command _ .connectCancel).trans
      (expired.startRemaining_quiet lower)
    have reports : (table.begin.timerProc lower handle).reports =
        (((table.begin.directConnExpire timer.moduleId timer.addr).command
          .connectCancel).startRemaining lower).1.reports ++
          [⟨timer.moduleId, invalidLcid, timer.addr, .disconnected,
            dliConnectionTimeout⟩] := by
      unfold ConnTable.timerProc directConnTimeoutCbkInner currentConnCancelReq
      rw [fired]
      simp only [show lower.cancel = true from cancel, if_true]
      rw [if_pos started]
      rfl
    refine .of_told
      (.of_eq (quiet.reports.trans (expire_silent table.begin _ _)))
      reports (.inl held) ?_ (by simp) ?_
    · rw [directEntry_congr (alike.find timer.addr), entries, if_pos ⟨rfl, rfl⟩]
    · intro client wanted differs
      refine ⟨?_, unasked client wanted⟩
      rw [directEntry_congr (alike.find wanted), entries, if_neg differs]
      rfl

theorem foldl_report_reports (items : List Item) (table : ConnTable)
    (sent : Item → LinkReport) :
    (items.foldl (fun current item => current.report (sent item))
      table).reports = table.reports ++ items.map sent := by
  induction items generalizing table with
  | nil => simp
  | cons item items induction =>
    rw [foldl_cons, induction]
    simp [report]

theorem countP_ends (items : List Item) (name : Item → UInt8) (addr : SleAddr)
    (client : UInt8) (wanted : SleAddr) :
    (items.map fun item => (⟨name item, invalidLcid, addr, .disconnected,
        dliSuccess⟩ : LinkReport)).countP
        (fun report => report.ends client wanted) =
      if wanted = addr then (items.map name).count client else 0 := by
  rw [countP_map]
  by_cases same : wanted = addr
  · rw [if_pos same, List.count, countP_map]
    apply countP_congr
    intro item _
    simp [LinkReport.ends, same]
  · rw [if_neg same, countP_eq_zero]
    intro item _
    simp [LinkReport.ends, Ne.symm same]

theorem count_lookup {items : List Item} {name : Item → UInt8}
    (unique : (items.map name).Nodup) {item : Item}
    (found : lookup name client items = some item) :
    (items.map name).count client = 1 := by
  apply count_eq_one_of_mem unique
  rw [← lookup_key found]
  exact mem_map_of_mem (lookup_mem found)

section

variable (invariant : table.Invariant)
include invariant

theorem Invariant.remove_reports (lower : Lower)
    (located : table.connectingDevFind addr = some dev) (moduleId : UInt8) :
    (table.doingConnDirectRemove lower moduleId addr).reports = table.reports ++
          ((dev.direct.map fun conn => ⟨conn.moduleId, invalidLcid, addr,
            .disconnected, dliSuccess⟩) ++
          dev.doingBgConnSet.map fun conn => ⟨conn.moduleId, invalidLcid,
            addr, .disconnected, dliSuccess⟩) ∧
      Alike (table.eraseConnectingDev addr)
        (table.doingConnDirectRemove lower moduleId addr) := by
  have direct := foldl_report_alike dev.direct table fun conn =>
    ⟨conn.moduleId, invalidLcid, addr, .disconnected, dliSuccess⟩
  have notified := direct.trans (foldl_report_alike dev.doingBgConnSet _
    fun conn =>
      ⟨conn.moduleId, invalidLcid, addr, .disconnected, dliSuccess⟩)
  have erased := notified.erase addr
  have quiet := (erased.formed
    (invariant.formed.erase addr)).startRmv_quiet lower
  unfold ConnTable.doingConnDirectRemove
  rw [located]
  refine ⟨quiet.reports.trans ?_, erased.trans quiet.alike⟩
  rw [erase_reports, foldl_report_reports, foldl_report_reports, append_assoc]

theorem Invariant.informs_remove
    (located : table.connectingDevFind addr = some dev)
    (apart : ∀ moduleId, table.bgEntry addr moduleId ≠ none →
      table.directEntry addr moduleId = none) {asks : UInt8 → SleAddr → Prop}
    (unasked : ∀ moduleId addr, ¬ asks moduleId addr)
    (unconnected : ¬ connects addr) :
    Informs table (table.begin.doingConnDirectRemove lower moduleId addr)
      asks connects := by
  have start : table.begin.Invariant := invariant.alike (begin_alike table)
  have proper := invariant.formed.devs dev (find_mem located).1
  obtain ⟨reports, alike⟩ :=
    start.remove_reports lower located moduleId
  have told (client : UInt8) (wanted : SleAddr) :
      (table.begin.doingConnDirectRemove lower moduleId addr).told client
          wanted =
        if wanted = addr then
          (dev.direct.map DirectConn.moduleId).count client +
            (dev.doingBgConnSet.map BgConn.moduleId).count client
        else 0 := by
    unfold ConnTable.told
    rw [reports, countP_append, countP_append, countP_ends, countP_ends]
    by_cases same : wanted = addr <;> simp [same, begin]
  have elsewhere (client : UInt8) {wanted : SleAddr} (differs : wanted ≠ addr) :
      (table.begin.doingConnDirectRemove lower moduleId addr).directEntry
        wanted client = table.directEntry wanted client :=
    directEntry_congr ((alike.find wanted).trans (find_erase_ne differs)) client
  have here (client : UInt8) :
      (table.begin.doingConnDirectRemove lower moduleId addr).directEntry
        addr client = none := by
    unfold directEntry
    rw [alike.find, start.formed.find_erase]
    rfl
  have ending {client : UInt8} {wanted : SleAddr}
      (held : table.directEntry wanted client ≠ none ∨ asks client wanted)
      (gone : (table.begin.doingConnDirectRemove lower moduleId
        addr).directEntry wanted client = none) :
      wanted = addr ∧ table.directEntry wanted client ≠ none := by
    have present := held.resolve_right (unasked client wanted)
    refine ⟨?_, present⟩
    by_contra differs
    rw [elsewhere client differs] at gone
    exact present gone
  constructor
  · intro client wanted present
    rw [told, if_neg]
    rintro rfl
    exact present (here client)
  · intro client wanted held gone connected
    exact absurd ((ending held gone).1 ▸ connected) unconnected
  · intro client wanted held gone _
    obtain ⟨rfl, present⟩ := ending held gone
    have outside : table.bgEntry wanted client = none := by
      by_contra both
      exact present (apart client both)
    unfold bgEntry ConnectingDev.doingConnBgFind at outside
    unfold directEntry at present
    rw [located, Option.bind_some] at outside present
    obtain ⟨conn, found⟩ := Option.ne_none_iff_exists'.mp present
    rw [told, if_pos rfl, count_lookup proper.modules found,
      count_eq_zero_of_not_mem (lookup_eq_none.mp outside)]
  · intro client wanted absent present
    by_cases same : wanted = addr
    · rw [same] at present
      exact absurd (here client) present
    · rw [elsewhere client same] at present
      exact absurd absent present
  · intro client wanted _ _ report member _
    rw [reports] at member
    simp only [begin, nil_append, mem_append, mem_map] at member
    rcases member with ⟨_, _, rfl⟩ | ⟨_, _, rfl⟩ <;> rfl

theorem Invariant.learns_remove {discReason : UInt8} (careful : table.Careful
      (.directConnectRemove moduleId addr discReason, lower)) : Informs table
      (table.begin.directConnectRmvInner lower moduleId addr discReason)
      (table.Asks (.directConnectRemove moduleId addr discReason, lower))
      fun wanted => ConnEvent.directConnectRemove moduleId addr discReason =
        .doingComplete wanted .connected := by
  have start := (begin_alike table).formed invariant.formed
  have unasked (client : UInt8) (wanted : SleAddr) :
      ¬ table.Asks (.directConnectRemove moduleId addr discReason, lower)
        client wanted := by
    rintro ⟨-, ⟨_, same⟩, -⟩
    cases same
  obtain ⟨-, condition⟩ := careful
  have removal (listed : table.connectingDevFind addr ≠ none ∧
      ∀ moduleId, table.bgEntry addr moduleId ≠ none →
        table.directEntry addr moduleId = none) :
      Informs table (table.begin.doingConnDirectRemove lower moduleId addr)
        (table.Asks (.directConnectRemove moduleId addr discReason, lower))
        fun wanted => ConnEvent.directConnectRemove moduleId addr
          discReason = .doingComplete wanted .connected := by
    obtain ⟨dev, located⟩ := Option.ne_none_iff_exists'.mp listed.1
    exact invariant.informs_remove located listed.2 unasked (by simp)
  unfold directConnectRmvInner
  dsimp only at condition
  cases link : lower.link addr with
  | none =>
    rw [link] at condition
    exact removal condition
  | some info =>
    obtain ⟨status, lcid⟩ := info
    rw [link] at condition
    cases status with
    | connected =>
      rw [if_pos condition]
      exact .of_kept ((Quiet.command table.begin _).kept start) unasked
    | disconnecting =>
      have silent : Silent table.begin
          (table.begin.notifyDisconnecting moduleId lcid addr) :=
        ⟨_, rfl, by simp⟩
      exact .of_kept ((report_alike table.begin _).kept silent start) unasked
    | _ => exact removal condition

theorem Invariant.learns_complete (connectResult : LinkState) :
    table.LearnsEnd (.doingComplete addr connectResult, lower) := by
  have start : table.begin.Invariant := invariant.alike (begin_alike table)
  have unasked (client : UInt8) (wanted : SleAddr) :
      ¬ table.Asks (.doingComplete addr connectResult, lower) client
        wanted := by
    rintro ⟨-, ⟨_, same⟩, -⟩
    cases same
  have restarted {current : ConnTable} (formed : current.Formed) :
      Quiet current (if current.devices.isEmpty then current
        else (current.startAllowListConnReq lower none).1) := by
    split
    · exact ⟨Alike.refl current, rfl⟩
    · exact formed.start_quiet lower none
  show Informs table
    (table.begin.concurrentConnDoingComplete lower addr connectResult) _ _
  unfold concurrentConnDoingComplete
  split
  case isTrue connected =>
    have quiet := restarted (start.formed.erase addr)
    apply Informs.of_silent
      (Silent.of_eq (quiet.reports.trans (erase_reports _ addr)))
    · intro client wanted held gone
      have present := held.resolve_right (unasked client wanted)
      rw [connected]
      by_contra differs
      have other : wanted ≠ addr := fun same => differs (by rw [same])
      rw [directEntry_congr
        ((quiet.alike.find wanted).trans (find_erase_ne other))] at gone
      exact present gone
    · intro client wanted absent present
      by_cases same : wanted = addr
      · unfold directEntry at present
        rw [quiet.alike.find, same, start.formed.find_erase] at present
        exact absurd rfl present
      · rw [directEntry_congr
          ((quiet.alike.find wanted).trans (find_erase_ne same))] at present
        exact absurd absent present
  case isFalse _ =>
    exact .of_kept ((restarted start.formed).kept start.formed) unasked

theorem Invariant.notifyConnFailed_idle
    (idle : ∀ addr moduleId, table.directEntry addr moduleId = none) :
    table.notifyConnFailed = table := by
  have none : ∀ dev ∈ table.devices, dev.isDirectDoing = false := by
    intro dev member
    have proper := invariant.formed.devs dev member
    have empty : dev.direct = [] := by
      rw [eq_nil_iff_forall_not_mem]
      intro conn inside
      have entry := idle dev.addr conn.moduleId
      unfold directEntry at entry
      rw [invariant.formed.find_of_mem member, Option.bind_some,
        proper.find inside] at entry
      cases entry
    have zero : dev.sizeDoingDirect = 0 := by
      rw [proper.size, empty]
      rfl
    simp [ConnectingDev.isDirectDoing, zero]
  have all (devs : List ConnectingDev)
      (quiet : ∀ dev ∈ devs, dev.isDirectDoing = false) :
      devs.foldl (fun current dev =>
        if dev.isDirectDoing then
          current.notifyDirectConnectFailed dev.moduleId dev.addr
            dliMemoryCapacityExceeded
        else current) table = table := by
    induction devs with
    | nil => rfl
    | cons dev devs induction =>
      rw [foldl_cons, quiet dev (by simp)]
      exact induction fun later member =>
        quiet later (.tail _ member)
  exact all table.devices none

theorem Invariant.bgRemove_kept :
    Kept table (table.bgConnectRmvInner lower moduleId addr) := by
  have same : Kept table table := .refl invariant.formed
  unfold bgConnectRmvInner
  split
  · exact same
  cases located : table.connectingDevFind addr with
  | none => exact same
  | some dev =>
    dsimp only
    cases dev.doingConnBgFind moduleId with
    | none => exact same
    | some conn =>
      have removed :=
        (doingConnBgRemove_kept invariant.formed located moduleId).1
      exact removed.trans ((removed.formed.startRmv_quiet lower).kept
        removed.formed)

theorem Invariant.bgClear_kept :
    Kept table (table.bgConnectClearInner lower moduleId) := by
  have cleared := (doingConnBgClear_kept invariant.formed moduleId).1
  exact cleared.trans ((cleared.formed.startRmv_quiet lower).kept
    cleared.formed)

theorem Invariant.learns (event : ConnEvent × Lower)
    (careful : table.Careful event) : table.LearnsEnd event := by
  obtain ⟨event, lower⟩ := event
  have start : table.begin.Invariant := invariant.alike (begin_alike table)
  have unasked (foreign : ∀ moduleId addr frameType,
      event ≠ .directConnectAdd moduleId addr frameType) (client : UInt8)
      (wanted : SleAddr) : ¬ table.Asks (event, lower) client wanted := by
    rintro ⟨-, ⟨frameType, equal⟩, -⟩
    exact foreign client wanted frameType equal
  by_cases accepted : event.accepted = true
  · have stepped : table.step (event, lower) =
        table.begin.handle lower event := if_pos accepted
    unfold LearnsEnd
    rw [stepped]
    cases event with
    | directConnectAdd moduleId addr frameType =>
      rw [← stepped]
      exact invariant.learns_directAdd careful
    | directConnectRemove moduleId addr discReason =>
      exact invariant.learns_remove careful
    | backgroundConnectAdd moduleId bgAddrs =>
      exact .of_kept (invariant.learns_bgAdd careful) (unasked (by simp))
    | backgroundConnectRemove moduleId addr =>
      exact .of_kept start.bgRemove_kept (unasked (by simp))
    | backgroundConnectClear moduleId =>
      exact .of_kept start.bgClear_kept (unasked (by simp))
    | timer handle => exact invariant.learns_timer careful
    | doingComplete addr connectResult =>
      exact invariant.learns_complete connectResult
    | collabStart =>
      exact .of_kept (start.formed.collabStart_quiet.kept start.formed)
        (unasked (by simp))
    | collabFailed =>
      have idle : table.begin.handle lower .collabFailed = table.begin :=
        start.notifyConnFailed_idle careful.2
      rw [idle]
      exact .of_kept (.refl start.formed) (unasked (by simp))
  · have stepped : table.step (event, lower) = table.begin :=
      if_neg accepted
    unfold LearnsEnd
    rw [stepped]
    apply Informs.of_kept (Kept.refl start.formed)
    intro client wanted asked
    exact accepted asked.1

end

/-- In every run of careful steps each module learns the end of each of its
direct connections once, and no other module is told of a failure. -/
theorem learnsEnd_of_careful (events : List (ConnEvent × Lower))
    (careful : Meets step Careful init events) :
    Meets step LearnsEnd init events := by
  exact .imp (fun _ event invariant careful =>
      invariant.step event careful.1)
    (fun _ event invariant careful => invariant.learns event careful)
    Invariant.init careful

/-- Two modules connect to one device, and one of them times out. -/
theorem learnsEnd_timedOut :
    Meets step LearnsEnd init
      [(.directConnectAdd moduleSsap ⟨0, 0x1234⟩ 0, Lower.willing 7),
        (.directConnectAdd moduleBnl ⟨0, 0x1234⟩ 0, Lower.willing 8),
        (.timer 7, Lower.willing 9)] :=
  learnsEnd_of_careful _
    ⟨⟨by decide, .inl (by decide)⟩, ⟨by decide, .inl (by decide)⟩,
      ⟨by decide, .inr ⟨rfl, .inr (by decide)⟩⟩, trivial⟩

/-- A timeout after which the running connection cannot be cancelled: the
entry is gone, and its module has not been told. -/
theorem learnsEnd_fails :
    ¬ Meets step LearnsEnd init
      [(.directConnectAdd moduleSsap ⟨0, 0x1234⟩ 0, Lower.willing 7),
        (.timer 7, { Lower.willing 8 with cancel := false })] := by
  intro meets
  have told := meets.2.1.ended moduleSsap ⟨0, 0x1234⟩ (.inl (by decide))
    (by decide) (by decide)
  revert told
  decide

end ConnTable

end NearLink.Cm
